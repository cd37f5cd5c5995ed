import MeshcoreObserver.Logging.Logger
import Mathlib.Data.List.Count
import Mathlib.Data.List.Nodup

/-!
# What a log line says about secrets

A secret is a value under a sensitive key. `redact` stops at a fixed depth and
returns what lies there as it is, so the secrets of an object below that depth
are written out. As long as there is none, two metadata values that differ in
their secrets alone give the same line. If there is one, then putting other
values in the place of the secrets changes the line, unless no line is written
because `JSON.stringify` throws on a `bigint` that is no secret.
-/

namespace MeshcoreObserver

universe u

variable {Number : Type u}

mutual

/-- Puts `hole` in the place of every secret. -/
def LogValue.mask (hole : LogScalar Number) : LogValue Number → LogValue Number
  | .scalar value => .scalar value
  | .array items => .array (items.mask hole)
  | .object entries => .object (entries.mask hole)

def LogItems.mask (hole : LogScalar Number) : LogItems Number → LogItems Number
  | .nil => .nil
  | .cons item items => .cons (item.mask hole) (items.mask hole)

def LogEntries.mask (hole : LogScalar Number) : LogEntries Number → LogEntries Number
  | .nil => .nil
  | .cons key value entries =>
      .cons key (if isSensitive key then .scalar hole else value.mask hole) (entries.mask hole)

end

/-- The value without its secrets. -/
def LogValue.deleteSecrets (value : LogValue Number) : LogValue Number :=
  value.mask .undefined

mutual

/-- The keys of every object are pairwise different. -/
def LogValue.WellFormed : LogValue Number → Prop
  | .scalar _ => True
  | .array items => items.WellFormed
  | .object entries => entries.keys.Nodup ∧ entries.WellFormed

def LogItems.WellFormed : LogItems Number → Prop
  | .nil => True
  | .cons item items => item.WellFormed ∧ items.WellFormed

def LogEntries.WellFormed : LogEntries Number → Prop
  | .nil => True
  | .cons _ value entries => value.WellFormed ∧ entries.WellFormed

end

mutual

/-- A scalar that is in no secret has the property `open`, or there is a secret and `secret`
holds of it. -/
def LogValue.holds (leaf : LogScalar Number → Bool) (secret : Bool) : LogValue Number → Bool
  | .scalar value => leaf value
  | .array items => items.holds leaf secret
  | .object entries => entries.holds leaf secret

def LogItems.holds (leaf : LogScalar Number → Bool) (secret : Bool) : LogItems Number → Bool
  | .nil => false
  | .cons item items => item.holds leaf secret || items.holds leaf secret

def LogEntries.holds (leaf : LogScalar Number → Bool) (secret : Bool) : LogEntries Number → Bool
  | .nil => false
  | .cons key value entries =>
      (if isSensitive key then secret else value.holds leaf secret) || entries.holds leaf secret

end

mutual

/-- The same of the scalars and the secrets that `redact` leaves where they are. -/
def LogValue.shows (leaf : LogScalar Number → Bool) (secret : Bool) (depth : Nat) :
    LogValue Number → Bool
  | .scalar value => leaf value
  | .array items =>
      if maxRedactDepth ≤ depth then items.holds leaf secret
      else items.shows leaf secret (depth + 1)
  | .object entries =>
      if maxRedactDepth ≤ depth then entries.holds leaf secret
      else entries.shows leaf secret (depth + 1)

def LogItems.shows (leaf : LogScalar Number → Bool) (secret : Bool) (depth : Nat) :
    LogItems Number → Bool
  | .nil => false
  | .cons item items => item.shows leaf secret depth || items.shows leaf secret depth

def LogEntries.shows (leaf : LogScalar Number → Bool) (secret : Bool) (depth : Nat) :
    LogEntries Number → Bool
  | .nil => false
  | .cons key value entries =>
      (key ≠ protoKey && !isSensitive key && value.shows leaf secret depth) ||
        entries.shows leaf secret depth

end

def noScalar (_value : LogScalar Number) : Bool := false

def LogScalar.isBigint : LogScalar Number → Bool
  | .bigint _ => true
  | _ => false

/-- A secret of the metadata lies in an object below the depth at which `redact` stops. -/
def LogValue.exposesSecret (metadata : LogValue Number) : Bool := metadata.shows noScalar true 0

/-- The metadata has a `bigint` that is part of no secret, in a place that is written. -/
def LogValue.showsBigint (metadata : LogValue Number) : Bool :=
  metadata.shows LogScalar.isBigint false 0

mutual

theorem LogValue.mask_mask (first second : LogScalar Number) : (value : LogValue Number) →
    (value.mask first).mask second = value.mask second
  | .scalar _ => rfl
  | .array items => congrArg LogValue.array (items.mask_mask first second)
  | .object entries => congrArg LogValue.object (entries.mask_mask first second)

theorem LogItems.mask_mask (first second : LogScalar Number) : (items : LogItems Number) →
    (items.mask first).mask second = items.mask second
  | .nil => rfl
  | .cons item items => by
      simp only [LogItems.mask, item.mask_mask first second, items.mask_mask first second]

theorem LogEntries.mask_mask (first second : LogScalar Number) : (entries : LogEntries Number) →
    (entries.mask first).mask second = entries.mask second
  | .nil => rfl
  | .cons key value entries => by
      simp only [LogEntries.mask, entries.mask_mask first second]
      split
      · rfl
      · rw [value.mask_mask first second]

end

theorem LogEntries.keys_mask (hole : LogScalar Number) : (entries : LogEntries Number) →
    (entries.mask hole).keys = entries.keys
  | .nil => rfl
  | .cons key _ entries => congrArg (key :: ·) (entries.keys_mask hole)

mutual

theorem LogValue.wellFormed_mask (hole : LogScalar Number) :
    (value : LogValue Number) → value.WellFormed → (value.mask hole).WellFormed
  | .scalar _, _ => trivial
  | .array items, formed => items.wellFormed_mask hole formed
  | .object entries, formed =>
      ⟨(entries.keys_mask hole).symm ▸ formed.1, entries.wellFormed_mask hole formed.2⟩

theorem LogItems.wellFormed_mask (hole : LogScalar Number) :
    (items : LogItems Number) → items.WellFormed → (items.mask hole).WellFormed
  | .nil, _ => trivial
  | .cons item items, formed =>
      ⟨item.wellFormed_mask hole formed.1, items.wellFormed_mask hole formed.2⟩

theorem LogEntries.wellFormed_mask (hole : LogScalar Number) :
    (entries : LogEntries Number) → entries.WellFormed → (entries.mask hole).WellFormed
  | .nil, _ => trivial
  | .cons key value entries, formed => by
      refine ⟨?_, entries.wellFormed_mask hole formed.2⟩
      split
      · trivial
      · exact value.wellFormed_mask hole formed.1

end

mutual

theorem LogValue.mask_eq_self (hole : LogScalar Number) : (value : LogValue Number) →
    value.holds noScalar true = false → value.mask hole = value
  | .scalar _, _ => rfl
  | .array items, clean => congrArg LogValue.array (items.mask_eq_self hole clean)
  | .object entries, clean => congrArg LogValue.object (entries.mask_eq_self hole clean)

theorem LogItems.mask_eq_self (hole : LogScalar Number) : (items : LogItems Number) →
    items.holds noScalar true = false → items.mask hole = items
  | .nil, _ => rfl
  | .cons item items, clean => by
      simp only [LogItems.holds, Bool.or_eq_false_iff] at clean
      simp only [LogItems.mask, item.mask_eq_self hole clean.1, items.mask_eq_self hole clean.2]

theorem LogEntries.mask_eq_self (hole : LogScalar Number) : (entries : LogEntries Number) →
    entries.holds noScalar true = false → entries.mask hole = entries
  | .nil, _ => rfl
  | .cons key value entries, clean => by
      simp only [LogEntries.holds, Bool.or_eq_false_iff] at clean
      rcases clean with ⟨first, rest⟩
      cases sensitive : isSensitive key with
      | true => simp [sensitive] at first
      | false =>
          simp only [sensitive, Bool.false_eq_true, if_false] at first
          simp only [LogEntries.mask, sensitive, Bool.false_eq_true, if_false,
            value.mask_eq_self hole first, entries.mask_eq_self hole rest]

end

section Mask

variable (leaf : LogScalar Number → Bool) (secret : Bool) (hole : LogScalar Number)

mutual

theorem LogValue.holds_mask : (value : LogValue Number) →
    (value.mask hole).holds leaf secret = value.holds leaf secret
  | .scalar _ => rfl
  | .array items => items.holds_mask
  | .object entries => entries.holds_mask

theorem LogItems.holds_mask : (items : LogItems Number) →
    (items.mask hole).holds leaf secret = items.holds leaf secret
  | .nil => rfl
  | .cons item items => by
      simp only [LogItems.mask, LogItems.holds, item.holds_mask, items.holds_mask]

theorem LogEntries.holds_mask : (entries : LogEntries Number) →
    (entries.mask hole).holds leaf secret = entries.holds leaf secret
  | .nil => rfl
  | .cons key value entries => by
      simp only [LogEntries.mask, LogEntries.holds, entries.holds_mask]
      split
      · rfl
      · rw [value.holds_mask]

end

mutual

/-- What a value shows does not depend on what its secrets are. -/
theorem LogValue.shows_mask : (value : LogValue Number) →
    ∀ depth, (value.mask hole).shows leaf secret depth = value.shows leaf secret depth
  | .scalar _, _ => rfl
  | .array items, depth => by
      simp only [LogValue.mask, LogValue.shows, items.holds_mask leaf secret hole,
        items.shows_mask]
  | .object entries, depth => by
      simp only [LogValue.mask, LogValue.shows, entries.holds_mask leaf secret hole,
        entries.shows_mask]

theorem LogItems.shows_mask : (items : LogItems Number) →
    ∀ depth, (items.mask hole).shows leaf secret depth = items.shows leaf secret depth
  | .nil, _ => rfl
  | .cons item items, depth => by
      simp only [LogItems.mask, LogItems.shows, item.shows_mask, items.shows_mask]

theorem LogEntries.shows_mask : (entries : LogEntries Number) →
    ∀ depth, (entries.mask hole).shows leaf secret depth = entries.shows leaf secret depth
  | .nil, _ => rfl
  | .cons key value entries, depth => by
      simp only [LogEntries.mask, LogEntries.shows, entries.shows_mask]
      cases sensitive : isSensitive key with
      | true => simp only [Bool.not_true, Bool.and_false, Bool.false_and]
      | false => simp only [Bool.false_eq_true, if_false, value.shows_mask]

end

end Mask

mutual

theorem LogValue.redact_mask (hole : LogScalar Number) : (value : LogValue Number) →
    ∀ depth, value.shows noScalar true depth = false →
      (value.mask hole).redact depth = value.redact depth
  | .scalar _, _, _ => rfl
  | .array items, depth, clean => by
      simp only [LogValue.shows] at clean
      simp only [LogValue.mask, LogValue.redact]
      split
      · rename_i deep
        rw [if_pos deep] at clean
        rw [items.mask_eq_self hole clean]
      · rename_i shallow
        rw [if_neg shallow] at clean
        rw [items.redact_mask hole _ clean]
  | .object entries, depth, clean => by
      simp only [LogValue.shows] at clean
      simp only [LogValue.mask, LogValue.redact]
      split
      · rename_i deep
        rw [if_pos deep] at clean
        rw [entries.mask_eq_self hole clean]
      · rename_i shallow
        rw [if_neg shallow] at clean
        rw [entries.redact_mask hole _ clean]

theorem LogItems.redact_mask (hole : LogScalar Number) : (items : LogItems Number) →
    ∀ depth, items.shows noScalar true depth = false →
      (items.mask hole).redact depth = items.redact depth
  | .nil, _, _ => rfl
  | .cons item items, depth, clean => by
      simp only [LogItems.shows, Bool.or_eq_false_iff] at clean
      simp only [LogItems.mask, LogItems.redact, item.redact_mask hole _ clean.1,
        items.redact_mask hole _ clean.2]

theorem LogEntries.redact_mask (hole : LogScalar Number) : (entries : LogEntries Number) →
    ∀ depth, entries.shows noScalar true depth = false →
      (entries.mask hole).redact depth = entries.redact depth
  | .nil, _, _ => rfl
  | .cons key value entries, depth, clean => by
      simp only [LogEntries.shows, Bool.or_eq_false_iff] at clean
      rcases clean with ⟨first, rest⟩
      simp only [LogEntries.mask, LogEntries.redact, entries.redact_mask hole _ rest]
      by_cases proto : key = protoKey
      · rw [if_pos proto, if_pos proto]
      · cases sensitive : isSensitive key with
        | true => simp only [if_true]
        | false =>
            have shown : value.shows noScalar true depth = false := by
              simpa [proto, sensitive] using first
            simp only [Bool.false_eq_true, if_false, value.redact_mask hole _ shown]

end

mutual

theorem LogValue.throws_of_holds : (value : LogValue Number) →
    value.holds LogScalar.isBigint false = true → value.throws = true
  | .scalar (.bigint _), _ => rfl
  | .array items, held => items.throws_of_holds held
  | .object entries, held => entries.throws_of_holds held

theorem LogItems.throws_of_holds : (items : LogItems Number) →
    items.holds LogScalar.isBigint false = true → items.throws = true
  | .cons item items, held => by
      rw [LogItems.throws, Bool.or_eq_true]
      rcases Bool.or_eq_true_iff.mp held with first | rest
      · exact Or.inl (item.throws_of_holds first)
      · exact Or.inr (items.throws_of_holds rest)

theorem LogEntries.throws_of_holds : (entries : LogEntries Number) →
    entries.holds LogScalar.isBigint false = true → entries.throws = true
  | .cons key value entries, held => by
      rw [LogEntries.throws, Bool.or_eq_true]
      rcases Bool.or_eq_true_iff.mp held with first | rest
      · split at first
        · cases first
        · exact Or.inl (value.throws_of_holds first)
      · exact Or.inr (entries.throws_of_holds rest)

end

mutual

theorem LogValue.throws_of_shows : (value : LogValue Number) → ∀ depth,
    value.shows LogScalar.isBigint false depth = true → (value.redact depth).throws = true
  | .scalar (.bigint _), _, _ => rfl
  | .array items, depth, shown => by
      simp only [LogValue.shows] at shown
      simp only [LogValue.redact]
      split at shown
      · rename_i deep
        rw [if_pos deep]
        exact items.throws_of_holds shown
      · rename_i shallow
        rw [if_neg shallow]
        exact items.throws_of_shows _ shown
  | .object entries, depth, shown => by
      simp only [LogValue.shows] at shown
      simp only [LogValue.redact]
      split at shown
      · rename_i deep
        rw [if_pos deep]
        exact entries.throws_of_holds shown
      · rename_i shallow
        rw [if_neg shallow]
        exact entries.throws_of_shows _ shown

theorem LogItems.throws_of_shows : (items : LogItems Number) → ∀ depth,
    items.shows LogScalar.isBigint false depth = true → (items.redact depth).throws = true
  | .cons item items, depth, shown => by
      rw [LogItems.redact, LogItems.throws, Bool.or_eq_true]
      rcases Bool.or_eq_true_iff.mp shown with first | rest
      · exact Or.inl (item.throws_of_shows depth first)
      · exact Or.inr (items.throws_of_shows depth rest)

theorem LogEntries.throws_of_shows : (entries : LogEntries Number) → ∀ depth,
    entries.shows LogScalar.isBigint false depth = true → (entries.redact depth).throws = true
  | .cons key value entries, depth, shown => by
      rw [LogEntries.redact]
      rcases Bool.or_eq_true_iff.mp shown with first | rest
      · simp only [ne_eq, Bool.and_eq_true, decide_eq_true_eq, Bool.not_eq_true'] at first
        rcases first with ⟨⟨apart, open_⟩, first⟩
        rw [if_neg apart, open_, LogEntries.throws, Bool.or_eq_true]
        exact Or.inl (value.throws_of_shows depth first)
      · split
        · exact entries.throws_of_shows depth rest
        · rw [LogEntries.throws, Bool.or_eq_true]
          exact Or.inr (entries.throws_of_shows depth rest)

end

mutual

theorem LogValue.throws_mask (text : Text) : (value : LogValue Number) →
    (value.mask (.string text)).throws = value.holds LogScalar.isBigint false
  | .scalar value => by cases value <;> rfl
  | .array items => items.throws_mask text
  | .object entries => entries.throws_mask text

theorem LogItems.throws_mask (text : Text) : (items : LogItems Number) →
    (items.mask (.string text)).throws = items.holds LogScalar.isBigint false
  | .nil => rfl
  | .cons item items => by
      simp only [LogItems.mask, LogItems.throws, LogItems.holds, item.throws_mask text,
        items.throws_mask text]

theorem LogEntries.throws_mask (text : Text) : (entries : LogEntries Number) →
    (entries.mask (.string text)).throws = entries.holds LogScalar.isBigint false
  | .nil => rfl
  | .cons key value entries => by
      simp only [LogEntries.mask, LogEntries.throws, LogEntries.holds, entries.throws_mask text]
      split
      · rfl
      · rw [value.throws_mask text]

end

mutual

theorem LogValue.throws_redact_mask (text : Text) : (value : LogValue Number) → ∀ depth,
    ((value.mask (.string text)).redact depth).throws = value.shows LogScalar.isBigint false depth
  | .scalar value, _ => by cases value <;> rfl
  | .array items, depth => by
      simp only [LogValue.mask, LogValue.redact, LogValue.shows]
      split
      · exact items.throws_mask text
      · exact items.throws_redact_mask text _
  | .object entries, depth => by
      simp only [LogValue.mask, LogValue.redact, LogValue.shows]
      split
      · exact entries.throws_mask text
      · exact entries.throws_redact_mask text _

theorem LogItems.throws_redact_mask (text : Text) : (items : LogItems Number) → ∀ depth,
    ((items.mask (.string text)).redact depth).throws = items.shows LogScalar.isBigint false depth
  | .nil, _ => rfl
  | .cons item items, depth => by
      simp only [LogItems.mask, LogItems.redact, LogItems.throws, LogItems.shows,
        item.throws_redact_mask text, items.throws_redact_mask text]

theorem LogEntries.throws_redact_mask (text : Text) : (entries : LogEntries Number) → ∀ depth,
    ((entries.mask (.string text)).redact depth).throws =
      entries.shows LogScalar.isBigint false depth
  | .nil, _ => rfl
  | .cons key value entries, depth => by
      simp only [LogEntries.mask, LogEntries.redact, LogEntries.shows]
      by_cases proto : key = protoKey
      · simp only [proto, if_true, ne_eq, not_true_eq_false, decide_false, Bool.false_and,
          Bool.false_or, entries.throws_redact_mask text]
      · cases sensitive : isSensitive key with
        | true =>
            simp only [proto, if_false, if_true, LogEntries.throws, LogValue.throws,
              entries.throws_redact_mask text, Bool.not_true, Bool.and_false, Bool.false_and]
        | false =>
            simp only [proto, if_false, Bool.false_eq_true, LogEntries.throws,
              entries.throws_redact_mask text, value.throws_redact_mask text, ne_eq,
              not_false_eq_true, decide_true, Bool.not_false, Bool.and_true, Bool.true_and]

end

def marks (text : Text) : Nat := text.count 'x'

def totalMarks (texts : List Text) : Nat :=
  texts.foldr (fun text total => marks text + total) 0

/-- Both texts are there or neither is, and the second has as many marks, or more. -/
structure Grows (more : Bool) (before after : Option Text) : Prop where
  both : before.isSome = after.isSome
  marks : marks (before.getD []) + more.toNat ≤ marks (after.getD [])

theorem marks_append (first second : Text) :
    marks (first ++ second) = marks first + marks second := List.count_append

theorem marks_join (texts : List Text) : marks (Text.join [','] texts) = totalMarks texts := by
  induction texts with
  | nil => rfl
  | cons text texts ih =>
      cases texts with
      | nil => simp [Text.join, totalMarks, List.intercalate]
      | cons next texts =>
          have joined : Text.join [','] (text :: next :: texts) =
              text ++ ([','] ++ Text.join [','] (next :: texts)) := by
            simp [Text.join, List.intercalate]
          have comma : marks [','] = 0 := rfl
          rw [joined, marks_append, marks_append, ih, comma, Nat.zero_add]
          rfl

theorem marks_enclosed {opening closing : Char} (opens : opening ≠ 'x') (closes : closing ≠ 'x')
    (texts : List Text) :
    marks (opening :: Text.join [','] texts ++ [closing]) = totalMarks texts := by
  rw [← List.singleton_append, List.append_assoc, marks_append, marks_append, marks_join]
  simp [marks, opens, closes]

theorem Grows.same (text : Option Text) : Grows false text text := ⟨rfl, Nat.le_refl _⟩

theorem Grows.enclosed {more : Bool} {before after : List Text} {opening closing : Char}
    (opens : opening ≠ 'x') (closes : closing ≠ 'x')
    (grows : totalMarks before + more.toNat ≤ totalMarks after) :
    Grows more (some (opening :: Text.join [','] before ++ [closing]))
      (some (opening :: Text.join [','] after ++ [closing])) := by
  refine ⟨rfl, ?_⟩
  simp only [Option.getD_some, marks_enclosed opens closes]
  exact grows

theorem toNat_or_le (first second : Bool) :
    (first || second).toNat ≤ first.toNat + second.toNat := by
  cases first
  · simp
  · simp

theorem totalMarks_cons (text : Text) (texts : List Text) :
    totalMarks (text :: texts) = marks text + totalMarks texts := rfl

theorem Grows.item {first rest : Bool} {before after : Option Text} {earlier later : List Text}
    (grows : Grows first before after)
    (others : totalMarks earlier + rest.toNat ≤ totalMarks later) :
    totalMarks (before.getD ['n', 'u', 'l', 'l'] :: earlier) + (first || rest).toNat ≤
      totalMarks (after.getD ['n', 'u', 'l', 'l'] :: later) := by
  have either := toNat_or_le first rest
  have null : ∀ text : Option Text,
      MeshcoreObserver.marks (text.getD ['n', 'u', 'l', 'l']) =
        MeshcoreObserver.marks (text.getD []) := by
    intro text
    cases text
    · rfl
    · rfl
  have := grows.marks
  rw [totalMarks_cons, totalMarks_cons, null, null]
  omega

theorem Grows.member {first rest : Bool} {before after : Option Text}
    {earlier later : List Text} (key : Text) (grows : Grows first before after)
    (others : totalMarks earlier + rest.toNat ≤ totalMarks later) :
    totalMarks (addMember key before earlier) + (first || rest).toNat ≤
      totalMarks (addMember key after later) := by
  have either := toNat_or_le first rest
  rcases grows with ⟨both, grows⟩
  cases before with
  | none =>
      cases after with
      | none =>
          simp only [Option.getD_none] at grows
          simp only [addMember]
          omega
      | some _ => cases both
  | some text =>
      cases after with
      | none => cases both
      | some other =>
          simp only [Option.getD_some] at grows
          have colon : ∀ text, MeshcoreObserver.marks (JsonText.quote key ++ ':' :: text) =
              MeshcoreObserver.marks (JsonText.quote key) + MeshcoreObserver.marks text := by
            intro text
            rw [marks_append]
            simp [MeshcoreObserver.marks]
          simp only [addMember, totalMarks_cons, colon]
          omega

def blank : LogScalar Number := .string []

def marked : LogScalar Number := .string ['x']

theorem grows_secret (numberText : Number → Text) :
    Grows true ((blank : LogScalar Number).text numberText)
      ((marked : LogScalar Number).text numberText) :=
  ⟨rfl, Nat.le_refl 1⟩

section Grows

variable (numberText : Number → Text)

mutual

theorem LogValue.grows : (value : LogValue Number) →
    Grows (value.holds noScalar true) ((value.mask blank).text numberText)
      ((value.mask marked).text numberText)
  | .scalar _ => .same _
  | .array items => .enclosed (by decide) (by decide) items.grows
  | .object entries => .enclosed (by decide) (by decide) entries.grows

theorem LogItems.grows : (items : LogItems Number) →
    totalMarks ((items.mask blank).texts numberText) + (items.holds noScalar true).toNat ≤
      totalMarks ((items.mask marked).texts numberText)
  | .nil => Nat.le_refl _
  | .cons item items => item.grows.item items.grows

theorem LogEntries.grows : (entries : LogEntries Number) →
    totalMarks ((entries.mask blank).texts numberText) + (entries.holds noScalar true).toNat ≤
      totalMarks ((entries.mask marked).texts numberText)
  | .nil => Nat.le_refl _
  | .cons key value entries => by
      simp only [LogEntries.mask, LogEntries.texts, LogEntries.holds]
      apply Grows.member key _ entries.grows
      split
      · exact grows_secret numberText
      · exact value.grows

end

mutual

theorem LogValue.grows_redact : (value : LogValue Number) → ∀ depth,
    Grows (value.shows noScalar true depth) (((value.mask blank).redact depth).text numberText)
      (((value.mask marked).redact depth).text numberText)
  | .scalar _, _ => .same _
  | .array items, depth => by
      simp only [LogValue.mask, LogValue.redact, LogValue.shows]
      split
      · exact .enclosed (by decide) (by decide) (items.grows numberText)
      · exact .enclosed (by decide) (by decide) (items.grows_redact _)
  | .object entries, depth => by
      simp only [LogValue.mask, LogValue.redact, LogValue.shows]
      split
      · exact .enclosed (by decide) (by decide) (entries.grows numberText)
      · exact .enclosed (by decide) (by decide) (entries.grows_redact _)

theorem LogItems.grows_redact : (items : LogItems Number) → ∀ depth,
    totalMarks (((items.mask blank).redact depth).texts numberText) +
        (items.shows noScalar true depth).toNat ≤
      totalMarks (((items.mask marked).redact depth).texts numberText)
  | .nil, _ => Nat.le_refl _
  | .cons item items, depth => (item.grows_redact depth).item (items.grows_redact depth)

theorem LogEntries.grows_redact : (entries : LogEntries Number) → ∀ depth,
    totalMarks (((entries.mask blank).redact depth).texts numberText) +
        (entries.shows noScalar true depth).toNat ≤
      totalMarks (((entries.mask marked).redact depth).texts numberText)
  | .nil, _ => Nat.le_refl _
  | .cons key value entries, depth => by
      have rest := entries.grows_redact depth
      simp only [LogEntries.mask, LogEntries.redact, LogEntries.shows]
      by_cases proto : key = protoKey
      · simpa [proto] using rest
      · cases sensitive : isSensitive key with
        | true =>
            simp only [proto, if_false, if_true, LogEntries.texts, Bool.not_true, Bool.and_false,
              Bool.false_and]
            exact Grows.member key (.same _) rest
        | false =>
            simp only [proto, if_false, Bool.false_eq_true, LogEntries.texts, ne_eq,
              not_false_eq_true, decide_true, Bool.not_false, Bool.and_true, Bool.true_and]
            exact Grows.member key (value.grows_redact depth) rest

end

end Grows

theorem LogValue.hasKeys_mask (hole : LogScalar Number) (value : LogValue Number) :
    (value.mask hole).hasKeys = value.hasKeys := by
  cases value with
  | scalar _ => rfl
  | array items => cases items <;> rfl
  | object entries => simp only [LogValue.mask, LogValue.hasKeys, entries.keys_mask hole]

theorem LogValue.hasKeys_of_exposes {value : LogValue Number}
    (exposes : value.exposesSecret = true) : value.hasKeys = true := by
  cases value with
  | scalar _ => cases exposes
  | array items =>
      cases items with
      | nil => cases exposes
      | cons item items => rfl
  | object entries =>
      cases entries with
      | nil => cases exposes
      | cons key value entries => rfl

/-- The same values under every key but the sensitive ones. -/
def SameApartFromSecrets (first second : LogValue Number) : Prop :=
  first.deleteSecrets = second.deleteSecrets

/-- The logger does the same with both values, at every level and whatever else the line says. -/
def SameLines (numberText : Number → Text) (first second : LogValue Number) : Prop :=
  ∀ threshold timestamp level source message,
    writeLog numberText threshold timestamp level source message first =
      writeLog numberText threshold timestamp level source message second

theorem SameApartFromSecrets.hasKeys {first second : LogValue Number}
    (same : SameApartFromSecrets first second) : first.hasKeys = second.hasKeys := by
  rw [← first.hasKeys_mask .undefined, ← second.hasKeys_mask .undefined]
  exact congrArg LogValue.hasKeys same

theorem SameApartFromSecrets.shows {first second : LogValue Number}
    (same : SameApartFromSecrets first second) (leaf : LogScalar Number → Bool) (secret : Bool) :
    first.shows leaf secret 0 = second.shows leaf secret 0 := by
  rw [← first.shows_mask leaf secret .undefined, ← second.shows_mask leaf secret .undefined]
  exact congrArg (LogValue.shows leaf secret 0) same

theorem sameApartFromSecrets_mask (hole : LogScalar Number) (value : LogValue Number) :
    SameApartFromSecrets value (value.mask hole) :=
  (value.mask_mask hole .undefined).symm

theorem throws_logLine (timestamp : Text) (level : LogLevel) (source message : Text)
    (metadata : LogValue Number) :
    (logLine timestamp level source message metadata).throws =
      (metadata.hasKeys && (metadata.redact 0).throws) := by
  simp only [logLine, LogEntries.throws, LogValue.throws, Bool.false_or]
  cases metadata.hasKeys
  · rfl
  · simp [LogEntries.throws]

/-- The line reads the metadata only if it has keys, and only through its redaction. -/
theorem logLine_congr {first second : LogValue Number} (keys : first.hasKeys = second.hasKeys)
    (redacts : first.hasKeys = true → first.redact 0 = second.redact 0) (timestamp : Text)
    (level : LogLevel) (source message : Text) :
    logLine timestamp level source message first =
      logLine timestamp level source message second := by
  cases keyed : first.hasKeys with
  | true => rw [logLine, logLine, ← keys, redacts keyed]
  | false =>
      rw [logLine, logLine, ← keys, keyed, if_neg Bool.false_ne_true, if_neg Bool.false_ne_true]

theorem sameLines_of_redact {numberText : Number → Text} {first second : LogValue Number}
    (keys : first.hasKeys = second.hasKeys) (redacts : first.redact 0 = second.redact 0) :
    SameLines numberText first second := by
  intro threshold timestamp level source message
  rw [writeLog, writeLog, logLine_congr keys fun _ => redacts]

theorem sameLines_of_throws {numberText : Number → Text} {first second : LogValue Number}
    (keys : first.hasKeys = second.hasKeys) (firstThrows : (first.redact 0).throws = true)
    (secondThrows : (second.redact 0).throws = true) : SameLines numberText first second := by
  intro threshold timestamp level source message
  simp only [writeLog, throws_logLine, firstThrows, secondThrows, Bool.and_true, keys]
  split
  · rfl
  · split
    · rfl
    · rename_i keyless
      rw [logLine_congr keys]
      intro keyed
      rw [keys] at keyed
      exact absurd keyed keyless

/-- A line with blank secrets is no line with marked secrets. -/
theorem not_sameLines_mask (numberText : Number → Text) {metadata : LogValue Number}
    (exposes : metadata.exposesSecret = true) (writes : metadata.showsBigint = false) :
    ¬SameLines numberText (metadata.mask blank) (metadata.mask marked) := by
  intro same
  have keys := LogValue.hasKeys_of_exposes exposes
  have line := same .debug [] .debug [] []
  have quiet : ∀ text, ((metadata.mask (.string text)).redact 0).throws = false := by
    intro text
    rw [metadata.throws_redact_mask text 0]
    exact writes
  have blankQuiet : ((metadata.mask blank).redact 0).throws = false := quiet []
  have markedQuiet : ((metadata.mask marked).redact 0).throws = false := quiet ['x']
  simp only [writeLog, throws_logLine, Nat.lt_irrefl, if_false, blankQuiet, markedQuiet,
    Bool.and_false, Bool.false_eq_true, LogOutput.written.injEq, true_and] at line
  have counts := congrArg marks line
  rw [marks_enclosed (by decide) (by decide), marks_enclosed (by decide) (by decide)] at counts
  have grows := metadata.grows_redact numberText 0
  rw [show metadata.shows noScalar true 0 = true from exposes] at grows
  have nothing : totalMarks [] + false.toNat ≤ totalMarks [] := Nat.le_refl _
  have more := Grows.member "timestamp".toList (Grows.same (some (JsonText.quote []))) <|
    Grows.member "level".toList (Grows.same (some (JsonText.quote LogLevel.debug.name))) <|
      Grows.member "source".toList (Grows.same (some (JsonText.quote []))) <|
        Grows.member "message".toList (Grows.same (some (JsonText.quote []))) <|
          Grows.member "meta".toList grows nothing
  simp only [logLine, LogValue.hasKeys_mask, keys, if_true, LogEntries.texts, LogValue.text,
    LogScalar.text] at counts
  simp only [Bool.or_false, Bool.or_true] at more
  rw [counts] at more
  exact Nat.not_succ_le_self _ more

/-- The logger treats a value like every other that differs from it in its secrets alone exactly
when none of these lies below the depth at which `redact` stops, or no line is written because of
a `bigint` that is no secret. -/
theorem redaction_noninterferes_iff (numberText : Number → Text) {metadata : LogValue Number}
    (formed : metadata.WellFormed) :
    (∀ other : LogValue Number, other.WellFormed → SameApartFromSecrets metadata other →
      SameLines numberText metadata other) ↔
      (metadata.exposesSecret = true → metadata.showsBigint = true) := by
  constructor
  · intro interferes exposes
    by_contra silent
    apply not_sameLines_mask numberText exposes (by simpa using silent)
    have lines : ∀ hole, SameLines numberText metadata (metadata.mask hole) := fun hole =>
      interferes _ (metadata.wellFormed_mask hole formed) (sameApartFromSecrets_mask hole metadata)
    intro threshold timestamp level source message
    rw [← lines blank, ← lines marked]
  · intro hidden other _ same
    cases exposes : metadata.exposesSecret with
    | true =>
        have shows : metadata.shows LogScalar.isBigint false 0 = true := hidden exposes
        apply sameLines_of_throws same.hasKeys
        · exact metadata.throws_of_shows 0 shows
        · exact other.throws_of_shows 0 (same.shows LogScalar.isBigint false ▸ shows)
    | false =>
        have clean : metadata.shows noScalar true 0 = false := exposes
        apply sameLines_of_redact same.hasKeys
        rw [← metadata.redact_mask .undefined 0 clean,
          ← other.redact_mask .undefined 0 (same.shows noScalar true ▸ clean)]
        exact congrArg (LogValue.redact 0) same

/-- The value, with `depth` objects around it. -/
def nested (value : LogValue Number) : Nat → LogValue Number
  | 0 => value
  | depth + 1 => .object (.cons ['a'] (nested value depth) .nil)

theorem wellFormed_nested {value : LogValue Number} (formed : value.WellFormed) (depth : Nat) :
    (nested value depth).WellFormed := by
  induction depth with
  | zero => exact formed
  | succ depth ih => exact ⟨List.nodup_singleton _, ih, trivial⟩

theorem wellFormed_entry (key : Text) (value : LogScalar Number) :
    (LogValue.object (.cons key (.scalar value) .nil)).WellFormed :=
  ⟨List.nodup_singleton _, trivial, trivial⟩

theorem shallow_secrets_are_redacted :
    SameLines Text.ofInt
      (nested (.object (.cons ['j', 'w', 't'] (.scalar (.string ['e', 'y'])) .nil)) 5)
      (nested (.object (.cons ['j', 'w', 't'] (.scalar (.number 7)) .nil)) 5) := by
  refine (redaction_noninterferes_iff Text.ofInt ?_).mpr ?_ _ ?_ rfl
  · exact wellFormed_nested (wellFormed_entry _ _) 5
  · decide +kernel
  · exact wellFormed_nested (wellFormed_entry _ _) 5

/-- Two tokens in an object six levels below the metadata give two lines. -/
theorem deep_secrets_are_written :
    ¬∀ first second : LogValue Int, first.WellFormed → second.WellFormed →
      SameApartFromSecrets first second → SameLines Text.ofInt first second := by
  intro always
  let metadata : LogValue Int :=
    nested (.object (.cons ['t', 'o', 'k', 'e', 'n'] (.scalar .null) .nil)) 6
  have exposes : metadata.exposesSecret = true := by decide +kernel
  have writes : metadata.showsBigint = false := by decide +kernel
  refine not_sameLines_mask Text.ofInt exposes writes (always _ _ ?_ ?_ rfl)
  · exact LogValue.wellFormed_mask _ _ (wellFormed_nested (wellFormed_entry _ _) 6)
  · exact LogValue.wellFormed_mask _ _ (wellFormed_nested (wellFormed_entry _ _) 6)

end MeshcoreObserver
