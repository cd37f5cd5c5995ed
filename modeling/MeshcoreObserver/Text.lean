import Mathlib.Data.List.TakeWhile

/-!
# Texts

A JavaScript string that is well formed, as the list of its code points, with
the operations of the language the observer uses on it. `toLowerCase` is a
parameter wherever it occurs: what is proved holds for every case mapping.
-/

namespace MeshcoreObserver

/-- A well-formed string. -/
abbrev Text := List Char

/-- The name under which an assignment makes no key of an object. -/
def protoKey : Text := ['_', '_', 'p', 'r', 'o', 't', 'o', '_', '_']

namespace Text

/-- `WhiteSpace` and `LineTerminator` of the language: what `trim` removes. -/
def isWhitespace (char : Char) : Bool :=
  let code := char.toNat
  (0x9 ≤ code ∧ code ≤ 0xD) ∨ code = 0x20 ∨ code = 0xA0 ∨ code = 0x1680 ∨
    (0x2000 ≤ code ∧ code ≤ 0x200A) ∨ code = 0x2028 ∨ code = 0x2029 ∨ code = 0x202F ∨
    code = 0x205F ∨ code = 0x3000 ∨ code = 0xFEFF

def trim (text : Text) : Text :=
  ((text.dropWhile isWhitespace).reverse.dropWhile isWhitespace).reverse

/-- `Buffer.from(text, 'utf8')`. -/
def utf8 (text : Text) : List UInt8 := text.flatMap String.utf8EncodeChar

/-- `text.length`: UTF-16 code units. -/
def utf16Length : Text → Nat
  | [] => 0
  | char :: text => (if char.toNat < 0x10000 then 1 else 2) + utf16Length text

def splitFirst (pattern : Text) : Text → Option (Text × Text)
  | [] => none
  | char :: text =>
      if pattern.isPrefixOf (char :: text) then
        some ([], (char :: text).drop pattern.length)
      else (splitFirst pattern text).map fun parts => (char :: parts.1, parts.2)

def join (separator : Text) (texts : List Text) : Text := List.intercalate separator texts

def hexDigit (value : Nat) : Char :=
  Char.ofNat (if value < 10 then 0x30 + value else 0x61 + (value - 10))

def hex (bytes : List UInt8) : Text :=
  bytes.flatMap fun byte => [hexDigit (byte.toNat / 16), hexDigit (byte.toNat % 16)]

/-- `text.toUpperCase()` where only ASCII letters have a case. -/
def upperHex (bytes : List UInt8) : Text := (hex bytes).map Char.toUpper

/-- The value of a character of `/[0-9A-Fa-f]/`. -/
def hexValue? (char : Char) : Option Nat :=
  let code := char.toNat
  if 0x30 ≤ code ∧ code ≤ 0x39 then some (code - 0x30)
  else if 0x41 ≤ code ∧ code ≤ 0x46 then some (code - 0x41 + 10)
  else if 0x61 ≤ code ∧ code ≤ 0x66 then some (code - 0x61 + 10)
  else none

/-- `Buffer.from(text, 'hex')`: the bytes in front of the first pair that is not one. -/
def bytesOfHex : Text → List UInt8
  | high :: low :: text =>
      match hexValue? high, hexValue? low with
      | some high, some low => UInt8.ofNat (high * 16 + low) :: bytesOfHex text
      | _, _ => []
  | _ => []

def ofInt : Int → Text
  | .ofNat value => Nat.toDigits 10 value
  | .negSucc value => '-' :: Nat.toDigits 10 (value + 1)

theorem append_of_splitFirst {pattern text before after : Text}
    (split : splitFirst pattern text = some (before, after)) :
    text = before ++ (pattern ++ after) := by
  induction text generalizing before with
  | nil => cases split
  | cons char text ih =>
      simp only [splitFirst] at split
      split at split
      · rename_i found
        rcases List.isPrefixOf_iff_prefix.mp found with ⟨rest, whole⟩
        simp only [← whole, List.drop_left, Option.some.injEq, Prod.mk.injEq] at split
        rcases split with ⟨rfl, rfl⟩
        exact whole.symm
      · rcases Option.map_eq_some_iff.mp split with ⟨parts, later, same⟩
        cases same
        exact congrArg (char :: ·) (ih later)

theorem splitFirst_append {first : Char} {rest before after : Text} (absent : first ∉ before) :
    splitFirst (first :: rest) (before ++ (first :: rest ++ after)) = some (before, after) := by
  induction before with
  | nil =>
      have found : (first :: rest).isPrefixOf (first :: (rest ++ after)) := by
        rw [List.isPrefixOf_iff_prefix]
        exact List.prefix_append (first :: rest) after
      simp only [List.nil_append, List.cons_append, splitFirst, if_pos found]
      simp
  | cons char before ih =>
      simp only [List.mem_cons, not_or] at absent
      have apart : ¬(first :: rest).isPrefixOf (char :: (before ++ (first :: rest ++ after))) := by
        simp [absent.1]
      rw [List.cons_append, splitFirst, if_neg apart, ih absent.2]
      rfl

theorem takeWhile_of_not_mem {stop : Char} {text : Text} (absent : stop ∉ text) :
    (text.takeWhile fun char => char ≠ stop) = text := by
  rw [List.takeWhile_eq_self_iff]
  intro char charMem
  rw [decide_eq_true_eq]
  rintro rfl
  exact absent charMem

theorem trim_eq_self {text : Text} (solid : ∀ char ∈ text, isWhitespace char = false) :
    text.trim = text := by
  have whole : ∀ text : Text, (∀ char ∈ text, isWhitespace char = false) →
      text.dropWhile isWhitespace = text := by
    intro text solid
    cases text with
    | nil => rfl
    | cons char text =>
        exact List.dropWhile_cons_of_neg (by rw [solid char List.mem_cons_self]; decide)
  rw [trim, whole text solid, whole text.reverse, List.reverse_reverse]
  intro char charMem
  exact solid char (List.mem_reverse.mp charMem)

end Text

end MeshcoreObserver
