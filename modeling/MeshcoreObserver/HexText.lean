import MeshcoreObserver.Text

/-!
# Bytes as hexadecimal text

What is written for some bytes is read as these bytes, in lower case and in upper
case. Two characters stand for a byte, and every pair of them is of the form
`normalizeRawPacketEvent` checks.
-/

namespace MeshcoreObserver

namespace Text

theorem hexValue_hexDigit {value : Nat} (small : value < 16) :
    hexValue? (hexDigit value) = some value := by
  have all : ∀ value < 16, hexValue? (hexDigit value) = some value := by decide
  exact all value small

theorem hexValue_toUpper {value : Nat} (small : value < 16) :
    hexValue? (hexDigit value).toUpper = some value := by
  have all : ∀ value < 16, hexValue? (hexDigit value).toUpper = some value := by decide
  exact all value small

/-- Two digits for each byte. -/
def hexPairs (digit : Nat → Char) (bytes : List UInt8) : Text :=
  bytes.flatMap fun byte => [digit (byte.toNat / 16), digit (byte.toNat % 16)]

theorem hex_eq (bytes : List UInt8) : hex bytes = hexPairs hexDigit bytes := rfl

theorem upperHex_eq (bytes : List UInt8) :
    upperHex bytes = hexPairs (fun value => (hexDigit value).toUpper) bytes := by
  simp only [upperHex, hex, List.map_flatMap]
  rfl

section Pairs

variable {digit : Nat → Char} (read : ∀ value < 16, hexValue? (digit value) = some value)
include read

theorem bytesOfHex_hexPairs (bytes : List UInt8) : bytesOfHex (hexPairs digit bytes) = bytes := by
  induction bytes with
  | nil => rfl
  | cons byte bytes ih =>
      have bound := byte.toNat_lt
      have high := read (byte.toNat / 16) (by omega)
      have low := read (byte.toNat % 16) (by omega)
      have whole : byte.toNat / 16 * 16 + byte.toNat % 16 = byte.toNat := by omega
      have cons : hexPairs digit (byte :: bytes) =
          digit (byte.toNat / 16) :: digit (byte.toNat % 16) :: hexPairs digit bytes := rfl
      simp only [cons, bytesOfHex, high, low, whole, ih, UInt8.ofNat_toNat]

end Pairs

theorem bytesOfHex_hex (bytes : List UInt8) : bytesOfHex (hex bytes) = bytes := by
  rw [hex_eq]
  exact bytesOfHex_hexPairs (fun _ small => hexValue_hexDigit small) bytes

theorem bytesOfHex_upperHex (bytes : List UInt8) : bytesOfHex (upperHex bytes) = bytes := by
  rw [upperHex_eq]
  exact bytesOfHex_hexPairs (fun _ small => hexValue_toUpper small) bytes

theorem take_hexPairs (digit : Nat → Char) (count : Nat) (bytes : List UInt8) :
    (hexPairs digit bytes).take (2 * count) = hexPairs digit (bytes.take count) := by
  induction count generalizing bytes with
  | zero => simp [hexPairs]
  | succ count ih =>
      cases bytes with
      | nil => simp [hexPairs]
      | cons byte bytes =>
          have twice : 2 * (count + 1) = 2 * count + 2 := by omega
          have rest := ih bytes
          simp only [hexPairs] at rest ⊢
          simp [twice, rest]

/-- `/^([0-9A-Fa-f]{2})*$/`. -/
def isHexPairs : Text → Bool
  | [] => true
  | high :: low :: text => (hexValue? high).isSome && (hexValue? low).isSome && isHexPairs text
  | [_] => false

theorem isHexPairs_upperHex (bytes : List UInt8) : isHexPairs (upperHex bytes) := by
  rw [upperHex_eq]
  induction bytes with
  | nil => rfl
  | cons byte bytes ih =>
      have bound := byte.toNat_lt
      have high : byte.toNat / 16 < 16 := by omega
      have low : byte.toNat % 16 < 16 := by omega
      simp only [hexPairs, List.flatMap_cons, List.cons_append, List.nil_append, isHexPairs,
        hexValue_toUpper high, hexValue_toUpper low]
      exact ih

end Text

end MeshcoreObserver
