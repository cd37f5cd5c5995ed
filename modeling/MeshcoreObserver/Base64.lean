import Mathlib.Data.List.DropRight
import Mathlib.Data.List.Induction

/-!
# Base64

Bytes as texts of 64 digits, three bytes as four of them, with the padding of the
last group and without it; and the reader of the alphabet for URLs, which takes
no padding and refuses digits that say more than their bytes. What is written is
read back, and consists of letters, digits, `-` and `_`.
-/

namespace Base64

def digit (value : Nat) : Char :=
  if value < 26 then Char.ofNat (0x41 + value)
  else if value < 52 then Char.ofNat (0x61 + (value - 26))
  else if value < 62 then Char.ofNat (0x30 + (value - 52))
  else if value = 62 then '+'
  else '/'

def encode : List UInt8 → List Char
  | first :: second :: third :: bytes =>
      digit (first.toNat / 4) :: digit (first.toNat % 4 * 16 + second.toNat / 16) ::
        digit (second.toNat % 16 * 4 + third.toNat / 64) :: digit (third.toNat % 64) ::
          encode bytes
  | [first, second] =>
      [digit (first.toNat / 4), digit (first.toNat % 4 * 16 + second.toNat / 16),
        digit (second.toNat % 16 * 4), '=']
  | [first] => [digit (first.toNat / 4), digit (first.toNat % 4 * 16), '=', '=']
  | [] => []

/-- The digit in the alphabet for URLs. -/
def urlChar (char : Char) : Char :=
  if char = '+' then '-' else if char = '/' then '_' else char

/-- The text for URLs, without its padding. -/
def urlText (text : List Char) : List Char := (text.map urlChar).rdropWhile fun char => char = '='

def urlValue? (char : Char) : Option Nat :=
  let code := char.toNat
  if 0x41 ≤ code ∧ code ≤ 0x5A then some (code - 0x41)
  else if 0x61 ≤ code ∧ code ≤ 0x7A then some (code - 0x61 + 26)
  else if 0x30 ≤ code ∧ code ≤ 0x39 then some (code - 0x30 + 52)
  else if char = '-' then some 62
  else if char = '_' then some 63
  else none

def decodeValues : List Nat → Option (List UInt8)
  | first :: second :: third :: fourth :: values =>
      (decodeValues values).map fun bytes =>
        UInt8.ofNat (first * 4 + second / 16) :: UInt8.ofNat (second % 16 * 16 + third / 4) ::
          UInt8.ofNat (third % 4 * 64 + fourth) :: bytes
  | [first, second, third] =>
      if third % 4 = 0 then
        some [UInt8.ofNat (first * 4 + second / 16), UInt8.ofNat (second % 16 * 16 + third / 4)]
      else none
  | [first, second] =>
      if second % 16 = 0 then some [UInt8.ofNat (first * 4 + second / 16)] else none
  | [_] => none
  | [] => some []

/-- Reads a text in the alphabet for URLs. -/
def urlDecode (text : List Char) : Option (List UInt8) := (text.mapM urlValue?).bind decodeValues

/-- The values of the digits of bytes. -/
def valuesOf : List UInt8 → List Nat
  | first :: second :: third :: bytes =>
      first.toNat / 4 :: (first.toNat % 4 * 16 + second.toNat / 16) ::
        (second.toNat % 16 * 4 + third.toNat / 64) :: third.toNat % 64 :: valuesOf bytes
  | [first, second] =>
      [first.toNat / 4, first.toNat % 4 * 16 + second.toNat / 16, second.toNat % 16 * 4]
  | [first] => [first.toNat / 4, first.toNat % 4 * 16]
  | [] => []

theorem lt_of_mem_valuesOf (bytes : List UInt8) : ∀ value ∈ valuesOf bytes, value < 64 := by
  induction bytes using valuesOf.induct with
  | case1 first second third bytes ih =>
      have firstBound := first.toNat_lt
      have secondBound := second.toNat_lt
      have thirdBound := third.toNat_lt
      simp only [valuesOf, List.forall_mem_cons]
      exact ⟨by omega, by omega, by omega, by omega, ih⟩
  | case2 first second =>
      have firstBound := first.toNat_lt
      have secondBound := second.toNat_lt
      simp only [valuesOf, List.forall_mem_cons]
      exact ⟨by omega, by omega, by omega, fun value valueMem => nomatch valueMem⟩
  | case3 first =>
      have firstBound := first.toNat_lt
      simp only [valuesOf, List.forall_mem_cons]
      exact ⟨by omega, by omega, fun value valueMem => nomatch valueMem⟩
  | case4 =>
      intro value valueMem
      cases valueMem

theorem encode_eq (bytes : List UInt8) :
    ∃ padding, encode bytes = (valuesOf bytes).map digit ++ List.replicate padding '=' := by
  induction bytes using valuesOf.induct with
  | case1 first second third bytes ih =>
      rcases ih with ⟨padding, written⟩
      exact ⟨padding, by simp only [encode, valuesOf, written, List.map_cons, List.cons_append]⟩
  | case2 first second => exact ⟨1, rfl⟩
  | case3 first => exact ⟨2, rfl⟩
  | case4 => exact ⟨0, rfl⟩

theorem digit_spec {value : Nat} (small : value < 64) :
    urlChar (digit value) ≠ '=' ∧ urlChar (digit value) ≠ '.' ∧
      urlValue? (urlChar (digit value)) = some value := by
  have all : ∀ value < 64, urlChar (digit value) ≠ '=' ∧ urlChar (digit value) ≠ '.' ∧
      urlValue? (urlChar (digit value)) = some value := by
    decide
  exact all value small

theorem rdropWhile_padding {text : List Char} (clean : ∀ char ∈ text, char ≠ '=') (padding : Nat) :
    (text ++ List.replicate padding '=').rdropWhile (fun char => char = '=') = text := by
  induction padding with
  | zero =>
      rw [List.replicate_zero, List.append_nil, List.rdropWhile_eq_self_iff]
      intro filled last
      exact clean _ (List.getLast_mem filled) (of_decide_eq_true last)
  | succ padding ih =>
      rw [List.replicate_succ', ← List.append_assoc, List.rdropWhile_concat_pos _ _ _ (by decide)]
      exact ih

/-- Nothing but the padding is removed. -/
theorem urlText_encode (bytes : List UInt8) :
    urlText (encode bytes) = (valuesOf bytes).map fun value => urlChar (digit value) := by
  rcases encode_eq bytes with ⟨padding, written⟩
  have pad : urlChar '=' = '=' := by decide
  rw [urlText, written, List.map_append, List.map_map, List.map_replicate, pad]
  refine rdropWhile_padding (fun char charMem => ?_) padding
  rcases List.mem_map.mp charMem with ⟨value, valueMem, rfl⟩
  exact (digit_spec (lt_of_mem_valuesOf bytes value valueMem)).1

theorem decodeValues_valuesOf (bytes : List UInt8) :
    decodeValues (valuesOf bytes) = some bytes := by
  induction bytes using valuesOf.induct with
  | case1 first second third bytes ih =>
      have firstBound := first.toNat_lt
      have secondBound := second.toNat_lt
      have thirdBound := third.toNat_lt
      have firstBack : first.toNat / 4 * 4 + (first.toNat % 4 * 16 + second.toNat / 16) / 16 =
          first.toNat := by omega
      have secondBack : (first.toNat % 4 * 16 + second.toNat / 16) % 16 * 16 +
          (second.toNat % 16 * 4 + third.toNat / 64) / 4 = second.toNat := by omega
      have thirdBack : (second.toNat % 16 * 4 + third.toNat / 64) % 4 * 64 + third.toNat % 64 =
          third.toNat := by omega
      simp only [valuesOf, decodeValues, ih, Option.map_some, firstBack, secondBack, thirdBack,
        UInt8.ofNat_toNat]
  | case2 first second =>
      have firstBound := first.toNat_lt
      have secondBound := second.toNat_lt
      have firstBack : first.toNat / 4 * 4 + (first.toNat % 4 * 16 + second.toNat / 16) / 16 =
          first.toNat := by omega
      have secondBack : (first.toNat % 4 * 16 + second.toNat / 16) % 16 * 16 +
          second.toNat % 16 * 4 / 4 = second.toNat := by omega
      have aligned : second.toNat % 16 * 4 % 4 = 0 := by omega
      simp only [valuesOf, decodeValues, aligned, if_true, firstBack, secondBack, UInt8.ofNat_toNat]
  | case3 first =>
      have firstBound := first.toNat_lt
      have firstBack : first.toNat / 4 * 4 + first.toNat % 4 * 16 / 16 = first.toNat := by omega
      have aligned : first.toNat % 4 * 16 % 16 = 0 := by omega
      simp only [valuesOf, decodeValues, aligned, if_true, firstBack, UInt8.ofNat_toNat]
  | case4 => rfl

/-- What is written for bytes is read back as these bytes. -/
theorem urlDecode_urlText (bytes : List UInt8) :
    urlDecode (urlText (encode bytes)) = some bytes := by
  have read : ∀ values : List Nat, (∀ value ∈ values, value < 64) →
      (values.map fun value => urlChar (digit value)).mapM urlValue? = some values := by
    intro values small
    induction values with
    | nil => rfl
    | cons value values ih =>
        have spec := digit_spec (small value List.mem_cons_self)
        have rest := ih fun other otherMem => small other (List.mem_cons_of_mem value otherMem)
        simp only [List.map_cons, List.mapM_cons, spec.2.2, rest, Option.pure_def,
          Option.bind_eq_bind, Option.bind_some]
  rw [urlDecode, urlText_encode, read _ (lt_of_mem_valuesOf bytes), Option.bind_some,
    decodeValues_valuesOf]

theorem ne_dot_of_mem_urlText {bytes : List UInt8} {char : Char}
    (charMem : char ∈ urlText (encode bytes)) : char ≠ '.' := by
  rw [urlText_encode] at charMem
  rcases List.mem_map.mp charMem with ⟨value, valueMem, rfl⟩
  exact (digit_spec (lt_of_mem_valuesOf bytes value valueMem)).2.1

end Base64
