import MeshcoreObserver.Json.JsonText

/-!
# Printed JSON

A JSON text has no control character, whatever the texts in it are. It is
therefore one line.
-/

namespace JsonText

def isPrinted (char : Char) : Bool := 0x20 ≤ char.toNat

theorem isPrinted_of_isDigit {char : Char} (digit : char.isDigit) : isPrinted char := by
  simp only [Char.isDigit, Bool.and_eq_true, decide_eq_true_eq] at digit
  have lower : 48 ≤ char.toNat := digit.1
  simp only [isPrinted, decide_eq_true_eq]
  omega

theorem isPrinted_hexDigit {value : Nat} (small : value < 16) : isPrinted (hexDigit value) := by
  have digits : (List.range 16).all (fun value => isPrinted (hexDigit value)) = true := by decide
  exact List.all_eq_true.mp digits value (List.mem_range.mpr small)

theorem printed_escape (char : Char) : (escape char).all isPrinted := by
  simp only [escape]
  split
  · rename_i special
    rcases special with rfl | rfl
    · decide
    · decide
  · iterate 5
      split
      · decide
    split
    · rename_i control
      have high : char.toNat / 16 < 16 := by omega
      have low : char.toNat % 16 < 16 := by omega
      simp only [List.all_cons, List.all_nil, isPrinted_hexDigit high, isPrinted_hexDigit low]
      decide
    · rename_i visible
      simpa [isPrinted] using visible

theorem printed_quote (value : List Char) : (quote value).all isPrinted := by
  have escaped : (value.flatMap escape).all isPrinted := by
    simp [List.all_flatMap, printed_escape]
  simp only [quote, List.cons_append, List.all_cons, List.all_append, escaped]
  decide

theorem printed_toDigits (value : Nat) : (Nat.toDigits 10 value).all isPrinted :=
  List.all_eq_true.mpr fun _ mem => isPrinted_of_isDigit (isDigit_toDigits mem)

theorem printed_decimal (value : Int) : (decimal value).all isPrinted := by
  cases value with
  | ofNat value => exact printed_toDigits value
  | negSucc value =>
      simp only [decimal, List.all_cons, printed_toDigits]
      decide

theorem printed_numberText (mantissa exponent : Int) :
    (numberText mantissa exponent).all isPrinted := by
  simp only [numberText, List.all_append, printed_decimal]
  split
  · decide
  · simp only [List.all_cons, printed_decimal]
    decide

/-- What stands between other texts is printed where they are. -/
theorem printed_between {first last : Char} (ends : isPrinted first && isPrinted last)
    {text : List Char} (printed : text.all isPrinted) :
    (first :: text ++ [last]).all isPrinted := by
  simp only [Bool.and_eq_true] at ends
  simp [printed, ends]

mutual

theorem Json.printed : (value : Json) → value.text.all isPrinted
  | .null => by decide
  | .bool true => by decide
  | .bool false => by decide
  | .number mantissa exponent => printed_numberText mantissa exponent
  | .string value => printed_quote value
  | .array items => printed_between (by decide) items.printed
  | .object members => printed_between (by decide) members.printed

theorem Items.printed : (items : Items) → items.text.all isPrinted
  | .nil => rfl
  | .cons item .nil => item.printed
  | .cons item (.cons next items) => by
      have rest := (Items.cons next items).printed
      simp only [Items.text, List.all_append, List.all_cons, item.printed, rest]
      decide

theorem Members.printed : (members : Members) → members.text.all isPrinted
  | .nil => rfl
  | .cons name value .nil => by
      simp only [Members.text, List.all_append, List.all_cons, printed_quote, value.printed]
      decide
  | .cons name value (.cons next other members) => by
      have rest := (Members.cons next other members).printed
      simp only [Members.text, List.all_append, List.all_cons, printed_quote, value.printed, rest]
      decide

end

/-- A JSON text is one line. -/
theorem Json.not_break (value : Json) : ∀ char ∈ value.text, char ≠ '\n' ∧ char ≠ '\r' := by
  intro char mem
  have printed := List.all_eq_true.mp value.printed char mem
  constructor
  · rintro rfl
    cases printed
  · rintro rfl
    cases printed

end JsonText
