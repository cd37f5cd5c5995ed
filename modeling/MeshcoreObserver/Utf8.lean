import MeshcoreObserver.Text

/-!
# Reading UTF-8

`buffer.toString('utf8')` on arbitrary bytes: the decoder of the encoding
standard, which writes one replacement character for each longest prefix of a
sequence that cannot be completed. What `Text.utf8` writes is read back whatever
bytes follow it.
-/

namespace MeshcoreObserver

namespace Utf8

def replacement : Char := Char.ofNat 0xFFFD

/-- A sequence under way: its value so far, the bytes it still needs, and the bounds of the
next one. -/
structure Pending where
  codePoint : Nat
  needed : Nat
  lower : Nat
  upper : Nat
  deriving DecidableEq, Repr

inductive Lead where
  | char (char : Char)
  | pending (pending : Pending)
  | invalid
  deriving DecidableEq, Repr

def lead (byte : Nat) : Lead :=
  if byte ≤ 0x7F then .char (Char.ofNat byte)
  else if 0xC2 ≤ byte ∧ byte ≤ 0xDF then .pending ⟨byte - 0xC0, 1, 0x80, 0xBF⟩
  else if 0xE0 ≤ byte ∧ byte ≤ 0xEF then
    .pending ⟨byte - 0xE0, 2, if byte = 0xE0 then 0xA0 else 0x80,
      if byte = 0xED then 0x9F else 0xBF⟩
  else if 0xF0 ≤ byte ∧ byte ≤ 0xF4 then
    .pending ⟨byte - 0xF0, 3, if byte = 0xF0 then 0x90 else 0x80,
      if byte = 0xF4 then 0x8F else 0xBF⟩
  else .invalid

/-- The decoder. A byte that does not continue a sequence begins another one. -/
def decode : Option Pending → List UInt8 → Text
  | none, [] => []
  | some _, [] => [replacement]
  | none, byte :: bytes =>
      match lead byte.toNat with
      | .char char => char :: decode none bytes
      | .pending pending => decode (some pending) bytes
      | .invalid => replacement :: decode none bytes
  | some pending, byte :: bytes =>
      if pending.lower ≤ byte.toNat ∧ byte.toNat ≤ pending.upper then
        let codePoint := pending.codePoint * 64 + (byte.toNat - 0x80)
        if pending.needed = 1 then Char.ofNat codePoint :: decode none bytes
        else decode (some ⟨codePoint, pending.needed - 1, 0x80, 0xBF⟩) bytes
      else
        match lead byte.toNat with
        | .char char => replacement :: char :: decode none bytes
        | .pending pending => replacement :: decode (some pending) bytes
        | .invalid => replacement :: replacement :: decode none bytes

theorem toNat_ofNat {value : Nat} (bound : value < 256) : (UInt8.ofNat value).toNat = value := by
  rw [UInt8.toNat_ofNat', Nat.mod_eq_of_lt bound]

theorem decode_continue (codePoint needed lower upper value : Nat) (bytes : List UInt8)
    (above : lower ≤ value % 0x40 + 0x80) (below : value % 0x40 + 0x80 ≤ upper) :
    decode (some ⟨codePoint, needed, lower, upper⟩) (UInt8.ofNat (value % 0x40 + 0x80) :: bytes) =
      if needed = 1 then Char.ofNat (codePoint * 64 + value % 0x40) :: decode none bytes
      else decode (some ⟨codePoint * 64 + value % 0x40, needed - 1, 0x80, 0xBF⟩) bytes := by
  have byte : (UInt8.ofNat (value % 0x40 + 0x80)).toNat = value % 0x40 + 0x80 :=
    toNat_ofNat (by omega)
  rw [decode, byte, if_pos ⟨above, below⟩, Nat.add_sub_cancel]

theorem decode_lead {byte : Nat} {pending : Pending} (bound : byte < 256)
    (leads : lead byte = .pending pending) (bytes : List UInt8) :
    decode none (UInt8.ofNat byte :: bytes) = decode (some pending) bytes := by
  rw [decode, toNat_ofNat bound, leads]

theorem decode_utf8EncodeChar (char : Char) (bytes : List UInt8) :
    decode none (String.utf8EncodeChar char ++ bytes) = char :: decode none bytes := by
  have restored : Char.ofNat char.val.toNat = char := Char.ofNat_toNat char
  have valid : char.val.toNat < 0xD800 ∨ 0xDFFF < char.val.toNat ∧ char.val.toNat < 0x110000 :=
    char.valid
  unfold String.utf8EncodeChar
  generalize char.val.toNat = value at restored valid
  subst char
  dsimp only
  split
  · rename_i one
    have byte : lead value = .char (Char.ofNat value) := if_pos one
    rw [List.singleton_append, decode, toNat_ofNat (by omega), byte]
  · split
    · have leads : lead (value / 64 % 0x20 + 0xC0) =
          .pending ⟨value / 64 % 0x20, 1, 0x80, 0xBF⟩ := by
        rw [lead, if_neg (by omega), if_pos (by omega), Nat.add_sub_cancel]
      have total : value / 64 % 0x20 * 64 + value % 0x40 = value := by omega
      simp only [List.cons_append, List.nil_append]
      rw [decode_lead (by omega) leads, decode_continue _ _ _ _ _ _ (by omega) (by omega),
        if_pos rfl, total]
    · split
      · have leads : lead (value / 4096 % 0x10 + 0xE0) = .pending ⟨value / 4096 % 0x10, 2,
            if value / 4096 % 0x10 + 0xE0 = 0xE0 then 0xA0 else 0x80,
            if value / 4096 % 0x10 + 0xE0 = 0xED then 0x9F else 0xBF⟩ := by
          rw [lead, if_neg (by omega), if_neg (by omega), if_pos (by omega), Nat.add_sub_cancel]
        have total : (value / 4096 % 0x10 * 64 + value / 64 % 0x40) * 64 + value % 0x40 =
            value := by
          omega
        simp only [List.cons_append, List.nil_append]
        rw [decode_lead (by omega) leads, decode_continue, if_neg (by omega),
          decode_continue _ _ _ _ _ _ (by omega) (by omega), if_pos rfl, total]
        · split <;> omega
        · split <;> omega
      · have leads : lead (value / 262144 % 0x08 + 0xF0) = .pending ⟨value / 262144 % 0x08, 3,
            if value / 262144 % 0x08 + 0xF0 = 0xF0 then 0x90 else 0x80,
            if value / 262144 % 0x08 + 0xF0 = 0xF4 then 0x8F else 0xBF⟩ := by
          rw [lead, if_neg (by omega), if_neg (by omega), if_neg (by omega), if_pos (by omega),
            Nat.add_sub_cancel]
        have total : ((value / 262144 % 0x08 * 64 + value / 4096 % 0x40) * 64 +
            value / 64 % 0x40) * 64 + value % 0x40 = value := by omega
        simp only [List.cons_append, List.nil_append]
        rw [decode_lead (by omega) leads, decode_continue, if_neg (by omega),
          decode_continue _ _ _ _ _ _ (by omega) (by omega), if_neg (by omega),
          decode_continue _ _ _ _ _ _ (by omega) (by omega), if_pos rfl, total]
        · split <;> omega
        · split <;> omega

/-- What `utf8` writes is read back. -/
theorem decode_utf8 (text : Text) (bytes : List UInt8) :
    decode none (text.utf8 ++ bytes) = text ++ decode none bytes := by
  induction text with
  | nil => rfl
  | cons char text ih =>
      rw [Text.utf8, List.flatMap_cons, List.append_assoc, decode_utf8EncodeChar]
      exact congrArg (char :: ·) ih

end Utf8

end MeshcoreObserver
