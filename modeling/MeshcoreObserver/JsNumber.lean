import MeshcoreObserver.Json.JsonText
import MeshcoreObserver.Text
import Mathlib.Data.Int.Log
import Mathlib.Data.Rat.Floor
import Mathlib.Tactic.FieldSimp
import Mathlib.Tactic.Linarith
import Mathlib.Tactic.NormNum

/-!
# Numbers of texts

`Number(text)`: the grammar of numeric literals, and the double that is nearest
to what the literal says. The two zeros are one number here. A safe integer is
read back from its decimal digits.
-/

namespace MeshcoreObserver

open JsonText

inductive JsNumber where
  | nan
  | infinity (negative : Bool)
  | finite (value : ℚ)
  deriving DecidableEq, Repr

/-- The nearest integer, the even one of two. -/
def roundHalfEven (value : ℚ) : ℤ :=
  let rest := value - ⌊value⌋
  if rest < 1 / 2 then ⌊value⌋
  else if 1 / 2 < rest then ⌊value⌋ + 1
  else if ⌊value⌋ % 2 = 0 then ⌊value⌋
  else ⌊value⌋ + 1

/-- The exponent of the last place of a double of this size. -/
def lastPlace (value : ℚ) : ℤ := max (Int.log 2 |value| - 52) (-1074)

namespace JsNumber

/-- `Math.min(first, second)`. -/
def min : JsNumber → JsNumber → JsNumber
  | .nan, _ | _, .nan => .nan
  | .infinity true, _ | _, .infinity true => .infinity true
  | .infinity false, other | other, .infinity false => other
  | .finite first, .finite second => .finite (Min.min first second)

@[simp]
theorem nan_min (other : JsNumber) : nan.min other = .nan := rfl

@[simp]
theorem infinity_min_finite (value : ℚ) : (infinity false).min (.finite value) = .finite value :=
  rfl

@[simp]
theorem finite_min_finite (first second : ℚ) :
    (finite first).min (.finite second) = .finite (Min.min first second) := rfl

def round (value : ℚ) : JsNumber :=
  let place : ℚ := 2 ^ lastPlace value
  let rounded := roundHalfEven (value / place) * place
  if 2 ^ 1024 ≤ |rounded| then .infinity (value < 0) else .finite rounded

def ofRadix (radix : Nat) (digits : Text) : JsNumber :=
  if digits ≠ [] ∧ digits.all fun digit => (Text.hexValue? digit).any (· < radix) then
    round (digits.foldl (fun value digit => value * radix + (Text.hexValue? digit).getD 0) 0 : Nat)
  else .nan

def readFractionOf (text : Text) : Text × Text :=
  if text.head? = some '.' then readDigits (text.drop 1) else ([], text)

def ofUnsignedDecimal (negative : Bool) (text : Text) : JsNumber :=
  if text = "Infinity".toList then .infinity negative
  else
    let whole := readDigits text
    let fraction := readFractionOf whole.2
    if whole.1 = [] ∧ fraction.1 = [] then .nan
    else
      match readExponent fraction.2 with
      | some (exponent, []) =>
          round (signed negative (natural (whole.1 ++ fraction.1)) *
            10 ^ (exponent - fraction.1.length))
      | _ => .nan

def radixOf (text : Text) : Option Nat :=
  if text.take 2 = ['0', 'x'] ∨ text.take 2 = ['0', 'X'] then some 16
  else if text.take 2 = ['0', 'o'] ∨ text.take 2 = ['0', 'O'] then some 8
  else if text.take 2 = ['0', 'b'] ∨ text.take 2 = ['0', 'B'] then some 2
  else none

def readSign (text : Text) : Bool × Text :=
  if text.head? = some '+' then (false, text.drop 1) else readMinus text

/-- `Number(text)`. -/
def ofText (text : Text) : JsNumber :=
  if text.trim = [] then .finite 0
  else
    match radixOf text.trim with
    | some radix => ofRadix radix (text.trim.drop 2)
    | none => ofUnsignedDecimal (readSign text.trim).1 (readSign text.trim).2

/-- The integer a number is, as `type: 'integer'` takes it. -/
def toInt? : JsNumber → Option Int
  | .finite value => if value.den = 1 then some value.num else none
  | _ => none

theorem toInt?_eq_some {number : JsNumber} {value : Int} :
    number.toInt? = some value ↔ number = .finite value := by
  cases number with
  | nan => simp [toInt?]
  | infinity negative => simp [toInt?]
  | finite rational =>
      simp only [toInt?, finite.injEq]
      constructor
      · intro integral
        split at integral
        · rename_i whole
          cases integral
          exact ((Rat.den_eq_one_iff rational).mp whole).symm
        · cases integral
      · rintro rfl
        simp

theorem roundHalfEven_intCast (value : Int) : roundHalfEven value = value := by
  have nothing : (0 : ℚ) < 1 / 2 := by norm_num
  simp only [roundHalfEven, Int.floor_intCast, sub_self, if_pos nothing]

theorem abs_intCast_lt {value : Int} (safe : value.natAbs < 2 ^ 53) :
    |(value : ℚ)| < 2 ^ 53 := by
  rw [← Int.cast_abs, ← Nat.cast_natAbs]
  exact_mod_cast safe

theorem lastPlace_nonpos {value : Int} (safe : value.natAbs < 2 ^ 53) :
    lastPlace value ≤ 0 := by
  have log : Int.log 2 |(value : ℚ)| < 53 := by
    by_cases zero : value = 0
    · simp [zero]
    · have positive : (0 : ℚ) < |(value : ℚ)| := by
        rw [abs_pos]
        exact_mod_cast zero
      apply (Int.lt_zpow_iff_log_lt (by decide) positive).mp
      exact_mod_cast abs_intCast_lt safe
  rw [lastPlace]
  omega

theorem round_intCast {value : Int} (safe : value.natAbs < 2 ^ 53) :
    round value = .finite value := by
  obtain ⟨places, place⟩ : ∃ places : Nat, lastPlace value = -(places : Int) :=
    ⟨(lastPlace value).natAbs, by have := lastPlace_nonpos safe; omega⟩
  have shifted : (value : ℚ) / 2 ^ lastPlace value = ((value * 2 ^ places : Int) : ℚ) := by
    rw [place, zpow_neg, zpow_natCast, div_inv_eq_mul]
    push_cast
    rfl
  have restored : ((value * 2 ^ places : Int) : ℚ) * 2 ^ lastPlace (value : ℚ) = value := by
    rw [← shifted]
    exact div_mul_cancel₀ _ (zpow_ne_zero _ two_ne_zero)
  have bounded : ¬(2 : ℚ) ^ 1024 ≤ |(value : ℚ)| := by
    have wide : (2 : ℚ) ^ 53 ≤ 2 ^ 1024 := pow_le_pow_right₀ (by norm_num) (by norm_num)
    exact not_le.mpr ((abs_intCast_lt safe).trans_le wide)
  simp only [round, shifted, roundHalfEven_intCast, restored, if_neg bounded]

theorem ofInt_eq_decimal (value : Int) : Text.ofInt value = decimal value := by
  cases value with
  | ofNat value => rfl
  | negSucc value => rfl

theorem isDigit_or_minus {value : Int} {char : Char} (charMem : char ∈ Text.ofInt value) :
    char.isDigit = true ∨ char = '-' := by
  cases value with
  | ofNat value => exact Or.inl (isDigit_toDigits charMem)
  | negSucc value =>
      rcases List.mem_cons.mp charMem with rfl | digit
      · exact Or.inr rfl
      · exact Or.inl (isDigit_toDigits digit)

theorem ofInt_ne_nil (value : Int) : Text.ofInt value ≠ [] := by
  cases value with
  | ofNat value => exact Nat.toDigits_ne_nil
  | negSucc value => exact List.cons_ne_nil _ _

theorem isWhitespace_of_digit {char : Char} (digit : char.isDigit = true ∨ char = '-') :
    Text.isWhitespace char = false := by
  rcases digit with digit | rfl
  · simp only [Char.isDigit, Bool.and_eq_true, decide_eq_true_eq, ge_iff_le,
      UInt32.le_iff_toNat_le] at digit
    have low : 48 ≤ char.toNat := digit.1
    have high : char.toNat ≤ 57 := digit.2
    simp only [Text.isWhitespace, decide_eq_false_iff_not]
    omega
  · rfl

theorem radixOf_ofInt (value : Int) : radixOf (Text.ofInt value) = none := by
  have apart : ∀ marker : Char, marker.isDigit = false → marker ≠ '-' →
      (Text.ofInt value).take 2 ≠ ['0', marker] := by
    intro marker notDigit notMinus same
    have markerMem : marker ∈ (Text.ofInt value).take 2 := by
      rw [same]
      exact List.mem_cons_of_mem _ List.mem_cons_self
    rcases isDigit_or_minus (List.mem_of_mem_take markerMem) with digit | minus
    · rw [notDigit] at digit
      cases digit
    · exact notMinus minus
  have hexadecimal := And.intro (apart 'x' rfl (by decide)) (apart 'X' rfl (by decide))
  have octal := And.intro (apart 'o' rfl (by decide)) (apart 'O' rfl (by decide))
  have binary := And.intro (apart 'b' rfl (by decide)) (apart 'B' rfl (by decide))
  rw [radixOf, if_neg (not_or.mpr hexadecimal), if_neg (not_or.mpr octal),
    if_neg (not_or.mpr binary)]

theorem readSign_ofInt (value : Int) :
    readSign (Text.ofInt value) = (decide (value < 0), Nat.toDigits 10 value.natAbs) := by
  have unsigned : (Text.ofInt value).head? ≠ some '+' := by
    intro plus
    rcases isDigit_or_minus (List.mem_of_head? plus) with digit | minus
    · cases digit
    · cases minus
  have read := readMinus_decimal value []
  rw [List.append_nil, List.append_nil, ← ofInt_eq_decimal] at read
  rw [readSign, if_neg unsigned, read]

/-- The digits of a safe integer are read back. -/
theorem ofText_ofInt {value : Int} (safe : value.natAbs < 2 ^ 53) :
    ofText (Text.ofInt value) = .finite value := by
  have trimmed : (Text.ofInt value).trim = Text.ofInt value :=
    Text.trim_eq_self fun char charMem => isWhitespace_of_digit (isDigit_or_minus charMem)
  have digits : readDigits (Nat.toDigits 10 value.natAbs) = (Nat.toDigits 10 value.natAbs, []) := by
    have allDigits : ∀ char ∈ Nat.toDigits 10 value.natAbs, char.isDigit :=
      fun _ => isDigit_toDigits
    have ended : ∀ char : Char, [].head? = some char → ¬char.isDigit := nofun
    have read := readDigits_append allDigits ended
    rwa [List.append_nil] at read
  have notInfinity : Nat.toDigits 10 value.natAbs ≠ "Infinity".toList := by
    intro same
    have letter : 'I' ∈ Nat.toDigits 10 value.natAbs := by
      rw [same]
      exact List.mem_cons_self
    cases isDigit_toDigits letter
  have fraction : readFractionOf [] = ([], []) := rfl
  have exponent : readExponent [] = some (0, []) := rfl
  rw [ofText, trimmed, if_neg (ofInt_ne_nil value), radixOf_ofInt, readSign_ofInt]
  simp only [ofUnsignedDecimal, if_neg notInfinity, digits, fraction, Nat.toDigits_ne_nil,
    false_and, if_false, exponent, List.append_nil, natural_toDigits, signed_natAbs,
    List.length_nil, Nat.cast_zero, sub_self, zpow_zero, mul_one]
  exact round_intCast safe

end JsNumber

end MeshcoreObserver
