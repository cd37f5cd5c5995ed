import MeshcoreObserver.Json.JsonText

/-!
# Lists and records as JSON

Values written as JSON, and that their texts tell them apart.
-/

namespace JsonText

def itemsOf : List Json → Items
  | [] => .nil
  | item :: items => .cons item (itemsOf items)

def membersOf : List (List Char × Json) → Members
  | [] => .nil
  | (name, value) :: members => .cons name value (membersOf members)

theorem text_injective : Function.Injective Json.text := by
  intro first second same
  have parsed := congrArg parse same
  rw [parse_text, parse_text] at parsed
  exact Option.some.inj parsed

theorem itemsOf_injective : Function.Injective itemsOf := by
  intro first second same
  induction first generalizing second with
  | nil =>
      cases second with
      | nil => rfl
      | cons item items => cases same
  | cons item items ih =>
      cases second with
      | nil => cases same
      | cons other others =>
          simp only [itemsOf, Items.cons.injEq] at same
          rw [same.1, ih same.2]

theorem membersOf_injective : Function.Injective membersOf := by
  intro first second same
  induction first generalizing second with
  | nil =>
      cases second with
      | nil => rfl
      | cons member members => cases same
  | cons member members ih =>
      cases second with
      | nil => cases same
      | cons other others =>
          simp only [membersOf, Members.cons.injEq] at same
          rw [Prod.ext same.1 same.2.1, ih same.2.2]

section Encoding

variable {Value : Type*} (encode : Value → Json)

/-- A list as an array. -/
def arrayOf (values : List Value) : Json := .array (itemsOf (values.map encode))

/-- Entries as an object, in their order. -/
def objectOf (entries : List (List Char × Value)) : Json :=
  .object (membersOf (entries.map fun entry => (entry.1, encode entry.2)))

variable {encode}

theorem arrayOf_injective (injective : Function.Injective encode) :
    Function.Injective (arrayOf encode) := by
  intro first second same
  simp only [arrayOf, Json.array.injEq] at same
  exact injective.list_map (itemsOf_injective same)

theorem objectOf_injective (injective : Function.Injective encode) :
    Function.Injective (objectOf encode) := by
  intro first second same
  simp only [objectOf, Json.object.injEq] at same
  have entries : Function.Injective fun entry : List Char × Value => (entry.1, encode entry.2) := by
    intro entry other same
    simp only [Prod.mk.injEq] at same
    exact Prod.ext same.1 (injective same.2)
  exact entries.list_map (membersOf_injective same)

end Encoding

end JsonText
