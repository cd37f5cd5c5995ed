import MeshcoreObserver.Utf8
import Mathlib.Data.List.TakeWhile

/-!
# application/x-www-form-urlencoded

`URLSearchParams`: the text that is written for a list of names and values, and
the list that is parsed from a text. What is written is parsed again, whatever
the names and values are.
-/

namespace FormUrlEncoded

open MeshcoreObserver

/-- ASCII letters and digits, `*`, `-`, `.` and `_`. -/
def isPlain (value : Nat) : Bool :=
  (0x30 ≤ value && value ≤ 0x39) || (0x41 ≤ value && value ≤ 0x5A) ||
    (0x61 ≤ value && value ≤ 0x7A) || value = 0x2A || value = 0x2D || value = 0x2E || value = 0x5F

def hexDigit (value : Nat) : Char :=
  Char.ofNat (if value < 10 then 0x30 + value else 0x41 + (value - 10))

def encodeByte (byte : UInt8) : Text :=
  if byte.toNat = 0x20 then ['+']
  else if isPlain byte.toNat then [Char.ofNat byte.toNat]
  else ['%', hexDigit (byte.toNat / 16), hexDigit (byte.toNat % 16)]

def encode (text : Text) : Text := text.utf8.flatMap encodeByte

def entryText (entry : Text × Text) : Text := encode entry.1 ++ '=' :: encode entry.2

/-- `searchParams.toString()`. -/
def serialize (entries : List (Text × Text)) : Text :=
  ['&'].intercalate (entries.map entryText)

/-- The bytes of a name or value, with its blanks and percent-encoded bytes. -/
def decodeBytes : Text → List UInt8
  | [] => []
  | char :: text =>
      if char = '+' then 0x20 :: decodeBytes text
      else if char = '%' then
        match text with
        | high :: low :: rest =>
            match Text.hexValue? high, Text.hexValue? low with
            | some high, some low => UInt8.ofNat (high * 16 + low) :: decodeBytes rest
            | _, _ => 0x25 :: decodeBytes (high :: low :: rest)
        | [other] => 0x25 :: decodeBytes [other]
        | [] => [0x25]
      else String.utf8EncodeChar char ++ decodeBytes text

def decode (text : Text) : Text := Utf8.decode none (decodeBytes text)

/-- `new URLSearchParams(text)`. -/
def parse (text : Text) : List (Text × Text) :=
  ((text.splitOn '&').filter fun piece => piece ≠ []).map fun piece =>
    (decode (piece.takeWhile fun char => char ≠ '='),
      decode ((piece.dropWhile fun char => char ≠ '=').drop 1))

theorem hexValue_hexDigit {value : Nat} (small : value < 16) :
    Text.hexValue? (hexDigit value) = some value := by
  have all : ∀ value < 16, Text.hexValue? (hexDigit value) = some value := by decide
  exact all value small

theorem plain_spec {value : Nat} (plain : isPlain value = true) :
    Char.ofNat value ≠ '+' ∧ Char.ofNat value ≠ '%' ∧ Char.ofNat value ≠ '&' ∧
      Char.ofNat value ≠ '=' ∧ String.utf8EncodeChar (Char.ofNat value) = [UInt8.ofNat value] := by
  have all : ∀ value < 128, isPlain value = true →
      Char.ofNat value ≠ '+' ∧ Char.ofNat value ≠ '%' ∧ Char.ofNat value ≠ '&' ∧
        Char.ofNat value ≠ '=' ∧
          String.utf8EncodeChar (Char.ofNat value) = [UInt8.ofNat value] := by
    decide
  have bound : value < 128 := by
    simp only [isPlain, Bool.or_eq_true, Bool.and_eq_true, decide_eq_true_eq] at plain
    omega
  exact all value bound plain

theorem decodeBytes_encodeByte (byte : UInt8) (text : Text) :
    decodeBytes (encodeByte byte ++ text) = byte :: decodeBytes text := by
  have restored : UInt8.ofNat byte.toNat = byte := UInt8.ofNat_toNat
  rw [encodeByte]
  split
  · rename_i blank
    have isBlank : byte = 0x20 := UInt8.toNat_inj.mp blank
    rw [isBlank, List.singleton_append, decodeBytes.eq_def]
    rfl
  · split
    · rename_i plain
      rcases plain_spec plain with ⟨notPlus, notPercent, _, _, encoded⟩
      rw [List.singleton_append, decodeBytes.eq_def]
      simp only [if_neg notPlus, if_neg notPercent, encoded, restored, List.singleton_append]
    · have bound := byte.toNat_lt
      have highNibble : byte.toNat / 16 < 16 := by omega
      have lowNibble : byte.toNat % 16 < 16 := by omega
      have high := hexValue_hexDigit highNibble
      have low := hexValue_hexDigit lowNibble
      have notPlus : '%' ≠ '+' := by decide
      have whole : byte.toNat / 16 * 16 + byte.toNat % 16 = byte.toNat := by omega
      simp only [List.cons_append, List.nil_append, decodeBytes, if_neg notPlus, if_true, high, low,
        whole, restored]

theorem decodeBytes_flatMap (bytes : List UInt8) :
    decodeBytes (bytes.flatMap encodeByte) = bytes := by
  induction bytes with
  | nil => rfl
  | cons byte bytes ih => rw [List.flatMap_cons, decodeBytes_encodeByte, ih]

theorem decode_encode (text : Text) : decode (encode text) = text := by
  have decoded := Utf8.decode_utf8 text []
  rw [List.append_nil] at decoded
  rw [decode, encode, decodeBytes_flatMap, decoded]
  exact List.append_nil text

theorem not_separator {text : Text} {char : Char} (charMem : char ∈ encode text) :
    char ≠ '&' ∧ char ≠ '=' := by
  rcases List.mem_flatMap.mp charMem with ⟨byte, _, own⟩
  have bound := byte.toNat_lt
  rw [encodeByte] at own
  split at own
  · rw [List.mem_singleton.mp own]
    decide
  · split at own
    · rename_i plain
      rcases plain_spec plain with ⟨_, _, notAmpersand, notEquals, _⟩
      rw [List.mem_singleton.mp own]
      exact ⟨notAmpersand, notEquals⟩
    · have digits : ∀ value < 16, hexDigit value ≠ '&' ∧ hexDigit value ≠ '=' := by decide
      simp only [List.mem_cons, List.not_mem_nil, or_false] at own
      rcases own with rfl | rfl | rfl
      · decide
      · exact digits _ (by omega)
      · exact digits _ (by omega)

theorem takeWhile_entryText (entry : Text × Text) :
    ((entryText entry).takeWhile fun char => char ≠ '=') = encode entry.1 := by
  have name : ∀ char ∈ encode entry.1, decide (char ≠ '=') = true := fun char charMem =>
    decide_eq_true (not_separator charMem).2
  rw [entryText, List.takeWhile_append_of_pos name, List.takeWhile_cons_of_neg (by decide),
    List.append_nil]

theorem dropWhile_entryText (entry : Text × Text) :
    ((entryText entry).dropWhile fun char => char ≠ '=') = '=' :: encode entry.2 := by
  have name : ∀ char ∈ encode entry.1, decide (char ≠ '=') = true := fun char charMem =>
    decide_eq_true (not_separator charMem).2
  rw [entryText, List.dropWhile_append_of_pos name, List.dropWhile_cons_of_neg (by decide)]

theorem ampersand_not_mem (entry : Text × Text) : '&' ∉ entryText entry := by
  intro ampersand
  rcases List.mem_append.mp ampersand with name | rest
  · exact (not_separator name).1 rfl
  · rcases List.mem_cons.mp rest with equals | value
    · cases equals
    · exact (not_separator value).1 rfl

/-- What is written is parsed again. -/
theorem parse_serialize (entries : List (Text × Text)) : parse (serialize entries) = entries := by
  cases entries with
  | nil => rfl
  | cons first entries =>
      have pieces : (serialize (first :: entries)).splitOn '&' =
          (first :: entries).map entryText := by
        apply List.splitOn_intercalate
        · intro piece pieceMem
          rcases List.mem_map.mp pieceMem with ⟨entry, _, rfl⟩
          exact ampersand_not_mem entry
        · exact List.cons_ne_nil _ _
      have nonempty : ∀ piece ∈ (first :: entries).map entryText, decide (piece ≠ []) = true := by
        intro piece pieceMem
        rcases List.mem_map.mp pieceMem with ⟨entry, _, rfl⟩
        rw [decide_eq_true_eq, entryText]
        exact List.append_ne_nil_of_right_ne_nil _ (List.cons_ne_nil _ _)
      rw [parse, pieces, List.filter_eq_self.mpr nonempty, List.map_map]
      apply List.map_id''
      rintro ⟨name, value⟩
      simp only [Function.comp_apply, takeWhile_entryText, dropWhile_entryText, List.drop_succ_cons,
        List.drop_zero, decode_encode]

end FormUrlEncoded
