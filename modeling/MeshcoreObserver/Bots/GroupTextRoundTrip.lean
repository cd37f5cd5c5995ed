import MeshcoreObserver.Bots.GroupTextCrypto
import Mathlib.Logic.Equiv.Basic

/-!
# Reading group texts back

`decryptGroupText` undoes the encryption of MeshCore: header, text and NULs up to
a whole block. The decryption is stated with what its comparison of MACs throws,
the one call in it that is not guarded. AES and HMAC occur through what is
documented of them.
-/

namespace MeshcoreObserver

/-- What is documented of HMAC-SHA256 and of AES-128-ECB without padding. -/
structure GroupTextCipher.Documented (cipher : GroupTextCipher)
    (encrypt : List UInt8 → List UInt8 → List UInt8) : Prop where
  hmacSha256_length : ∀ key bytes, (cipher.hmacSha256 key bytes).length = 32
  encrypt_length : ∀ key plaintext, key.length = 16 → plaintext.length % 16 = 0 →
    (encrypt key plaintext).length = plaintext.length
  decrypt_encrypt : ∀ key plaintext, key.length = 16 → plaintext.length % 16 = 0 →
    cipher.aes128EcbDecrypt key (encrypt key plaintext) = some plaintext

def writeUInt32LE (value : UInt32) : List UInt8 :=
  [UInt8.ofNat (value.toNat % 256), UInt8.ofNat (value.toNat / 256 % 256),
    UInt8.ofNat (value.toNat / 65536 % 256), UInt8.ofNat (value.toNat / 16777216 % 256)]

/-- Timestamp, flags, text and NULs. -/
def groupTextPlaintext (timestamp : UInt32) (flags : UInt8) (message : Text) (padding : Nat) :
    List UInt8 :=
  writeUInt32LE timestamp ++ [flags] ++ message.utf8 ++ List.replicate padding 0

/-- A name that stands in front of a message, with what separates them. -/
def attributed (sender message : Text) : Text := sender ++ (": ".toList ++ message)

/-- `timingSafeEqual(a, b)`. -/
def timingSafeEqual (left right : List UInt8) : Except Text Bool :=
  if left.length = right.length then .ok (left = right)
  else .error "Input buffers must have the same byte length".toList

/-- `decryptGroupText(...)` with what it throws. The decipher is called inside a `try`. -/
def runDecryptGroupText (cipher : GroupTextCipher) (ciphertext cipherMac key16 : List UInt8) :
    Except Text (Option DecryptedGroupText) :=
  if ciphertext.length < 16 ∨ ciphertext.length % 16 ≠ 0 then .ok none
  else
    match timingSafeEqual (calculateMac cipher ciphertext key16) (cipherMac.take 2) with
    | .error error => .error error
    | .ok false => .ok none
    | .ok true =>
        match cipher.aes128EcbDecrypt key16 ciphertext with
        | none => .ok none
        | some plaintext =>
            if plaintext.length < 5 then .ok none
            else
              let decrypted := parsePlaintext plaintext
              if decrypted.SchemaValid then .ok (some decrypted) else .ok none

/-- The ciphertext of a plaintext and its MAC, read with the same key. -/
def decryptEncrypted (cipher : GroupTextCipher) (encrypt : List UInt8 → List UInt8 → List UInt8)
    (key16 plaintext : List UInt8) : Except Text (Option DecryptedGroupText) :=
  runDecryptGroupText cipher (encrypt key16 plaintext)
    (calculateMac cipher (encrypt key16 plaintext) key16) key16

section Decryption

variable {cipher : GroupTextCipher} {encrypt : List UInt8 → List UInt8 → List UInt8}

/-- A MAC of two bytes is compared with one of two bytes: nothing is thrown. -/
theorem runDecryptGroupText_eq (documented : cipher.Documented encrypt)
    (ciphertext key16 : List UInt8) {cipherMac : List UInt8} (two : 2 ≤ cipherMac.length) :
    runDecryptGroupText cipher ciphertext cipherMac key16 =
      .ok (decryptGroupText cipher ciphertext cipherMac key16) := by
  have same : (calculateMac cipher ciphertext key16).length = (cipherMac.take 2).length := by
    rw [calculateMac, List.length_take, List.length_take, documented.hmacSha256_length]
    omega
  simp only [runDecryptGroupText, decryptGroupText, timingSafeEqual, if_pos same]
  split
  · rfl
  · by_cases equal : calculateMac cipher ciphertext key16 = cipherMac.take 2
    · simp only [equal, decide_true, ne_eq, not_true_eq_false, if_false]
      cases cipher.aes128EcbDecrypt key16 ciphertext with
      | none => rfl
      | some plaintext =>
          simp only
          split
          · rfl
          · split
            · rfl
            · rfl
    · simp only [equal, decide_false, ne_eq, not_false_eq_true, if_true]

/-- What is encrypted is read as its plaintext says. -/
theorem decryptEncrypted_eq (documented : cipher.Documented encrypt)
    {key16 plaintext : List UInt8} (secret : key16.length = 16) (nonempty : plaintext ≠ [])
    (blocks : plaintext.length % 16 = 0) :
    decryptEncrypted cipher encrypt key16 plaintext = .ok (some (parsePlaintext plaintext)) := by
  have length := documented.encrypt_length key16 plaintext secret blocks
  have positive := List.length_pos_iff.mpr nonempty
  have two : (calculateMac cipher (encrypt key16 plaintext) key16).length = 2 := by
    rw [calculateMac, List.length_take, documented.hmacSha256_length]
    rfl
  rw [decryptEncrypted, runDecryptGroupText_eq documented _ _ (by omega), decryptGroupText_eq]
  · omega
  · rw [List.take_of_length_le (by omega)]
  · exact documented.decrypt_encrypt key16 plaintext secret blocks
  · omega

/-- A ciphertext of the wrong length, or with another MAC, is none of this key. -/
theorem decryptGroupText_eq_none {ciphertext cipherMac key16 : List UInt8}
    (refused : ciphertext.length < 16 ∨ ciphertext.length % 16 ≠ 0 ∨
      calculateMac cipher ciphertext key16 ≠ cipherMac.take 2) :
    decryptGroupText cipher ciphertext cipherMac key16 = none := by
  rw [decryptGroupText]
  by_cases blocks : ciphertext.length < 16 ∨ ciphertext.length % 16 ≠ 0
  · exact if_pos blocks
  · rw [if_neg blocks, if_pos]
    rcases refused with short | uneven | mac
    · exact absurd (Or.inl short) blocks
    · exact absurd (Or.inr uneven) blocks
    · exact mac

end Decryption

theorem readUInt32LE_writeUInt32LE (value : UInt32) (bytes : List UInt8) :
    readUInt32LE (writeUInt32LE value ++ bytes) = value.toNat := by
  have bound := value.toNat_lt
  simp only [readUInt32LE, writeUInt32LE, List.cons_append, List.nil_append, List.take_succ_cons,
    List.take_zero, List.foldr_cons, List.foldr_nil, Utf8.toNat_ofNat (Nat.mod_lt _ (by decide))]
  omega

theorem parsePlaintext_groupTextPlaintext (timestamp : UInt32) (flags : UInt8) {message : Text}
    (padding : Nat) (plain : '\x00' ∉ message) :
    parsePlaintext (groupTextPlaintext timestamp flags message padding) =
      { timestamp := timestamp.toNat, flags := flags.toNat
        sender := (splitSender message).1, text := (splitSender message).2 } := by
  have text : plaintextText (groupTextPlaintext timestamp flags message padding) = message := by
    rw [groupTextPlaintext, plaintextText_encode _ _ _ rfl, Text.takeWhile_of_not_mem plain]
  have header : readUInt32LE (groupTextPlaintext timestamp flags message padding) =
      timestamp.toNat := by
    simp only [groupTextPlaintext, List.append_assoc, readUInt32LE_writeUInt32LE]
  simp only [parsePlaintext, text, header]
  rfl

theorem not_mem_attributed {sender message : Text} (senderPlain : '\x00' ∉ sender)
    (messagePlain : '\x00' ∉ message) : '\x00' ∉ attributed sender message := by
  have separator : '\x00' ∉ ": ".toList := by decide
  simp only [attributed, List.mem_append, not_or]
  exact ⟨senderPlain, separator, messagePlain⟩

/-- A prefix without NUL of the text in front of the first NUL is one of the whole text. -/
theorem splitSender_takeWhile_eq_none {decoded : Text}
    (anonymous : ∀ sender message, IsSenderName sender → '\x00' ∉ sender →
      decoded ≠ attributed sender message) :
    splitSender (decoded.takeWhile fun char => char ≠ '\x00') =
      (none, decoded.takeWhile fun char => char ≠ '\x00') := by
  rcases split : splitSender (decoded.takeWhile fun char => char ≠ '\x00') with ⟨sender, content⟩
  cases sender with
  | some sender =>
      rcases splitSender_eq_some.mp split with ⟨whole, named⟩
      have senderPlain : '\x00' ∉ sender := by
        intro nulMem
        have inside : '\x00' ∈ decoded.takeWhile fun char => char ≠ '\x00' := by
          rw [whole]
          exact List.mem_append_left _ nulMem
        simpa using List.mem_takeWhile_imp inside
      have parts := List.takeWhile_append_dropWhile (p := fun char => decide (char ≠ '\x00'))
        (l := decoded)
      rw [whole, List.append_assoc, List.append_assoc] at parts
      exact absurd parts.symm (anonymous sender _ named senderPlain)
  | none =>
      simp only [splitSender] at split
      split at split
      · exact split.symm
      · split at split
        · cases split
        · exact split.symm

/-- Decryption undoes encryption: what a sender wrote is read, a text without a sender is read up
to its first NUL, everything else is refused, and nothing is thrown. -/
theorem decryptGroupText_undoes_encryption {cipher : GroupTextCipher}
    {encrypt : List UInt8 → List UInt8 → List UInt8} (documented : cipher.Documented encrypt)
    {key16 : List UInt8} (secret : key16.length = 16) :
    (∀ (timestamp : UInt32) (flags : UInt8) (sender message : Text) (padding : Nat),
      IsSenderName sender → '\x00' ∉ sender → '\x00' ∉ message →
        (groupTextPlaintext timestamp flags (attributed sender message) padding).length % 16 = 0 →
          decryptEncrypted cipher encrypt key16
              (groupTextPlaintext timestamp flags (attributed sender message) padding) =
            .ok (some ⟨timestamp.toNat, flags.toNat, some sender, message⟩)) ∧
    (∀ plaintext : List UInt8, plaintext ≠ [] → plaintext.length % 16 = 0 →
      (∀ sender message, IsSenderName sender → '\x00' ∉ sender →
        Utf8.decode none (plaintext.drop 5) ≠ attributed sender message) →
          decryptEncrypted cipher encrypt key16 plaintext =
            .ok (some ⟨readUInt32LE plaintext, (plaintext.getD 4 0).toNat, none,
              (Utf8.decode none (plaintext.drop 5)).takeWhile fun char => char ≠ '\x00'⟩)) ∧
    (∀ ciphertext cipherMac : List UInt8, 2 ≤ cipherMac.length →
      (¬(0 < ciphertext.length ∧ ciphertext.length % 16 = 0) ∨
        calculateMac cipher ciphertext key16 ≠ cipherMac.take 2) →
          runDecryptGroupText cipher ciphertext cipherMac key16 = .ok none) ∧
    ∀ ciphertext cipherMac key : List UInt8, 2 ≤ cipherMac.length →
      ∃ result, runDecryptGroupText cipher ciphertext cipherMac key = .ok result := by
  refine ⟨?_, ?_, ?_, ?_⟩
  · intro timestamp flags sender message padding named senderPlain messagePlain blocks
    have nonempty : groupTextPlaintext timestamp flags (attributed sender message) padding ≠ [] :=
      List.cons_ne_nil _ _
    have split : splitSender (attributed sender message) = (some sender, message) :=
      splitSender_eq_some.mpr ⟨rfl, named⟩
    have plain := not_mem_attributed senderPlain messagePlain
    rw [decryptEncrypted_eq documented secret nonempty blocks,
      parsePlaintext_groupTextPlaintext timestamp flags padding plain, split]
  · intro plaintext nonempty blocks anonymous
    have split := splitSender_takeWhile_eq_none anonymous
    rw [decryptEncrypted_eq documented secret nonempty blocks, parsePlaintext,
      plaintextText, split]
  · intro ciphertext cipherMac two refused
    rw [runDecryptGroupText_eq documented ciphertext key16 two, decryptGroupText_eq_none]
    rcases refused with length | mac
    · omega
    · exact Or.inr (Or.inr mac)
  · intro ciphertext cipherMac key two
    exact ⟨_, runDecryptGroupText_eq documented ciphertext key two⟩

def howlKey : List UInt8 :=
  [0xEB, 0x50, 0xA1, 0xBC, 0xB3, 0xE4, 0xE5, 0xD7, 0xBF, 0x69, 0xA5, 0x7C, 0x9D, 0xAD, 0xA2, 0x11]

def howlPlaintext : List UInt8 :=
  groupTextPlaintext 1772918551 0 (attributed "Howl 👾".toList "prefix 0101".toList) 5

def howlCiphertext : List UInt8 :=
  [0x56, 0x26, 0x48, 0x1A, 0x5B, 0xA6, 0x42, 0x47, 0xAB, 0x25, 0x76, 0x6E, 0x41, 0x0B, 0x02, 0x6E,
    0x06, 0x78, 0xA3, 0x2D, 0xA9, 0xF0, 0xC3, 0x94, 0x6F, 0xAE, 0x5B, 0x71, 0x4C, 0xAB, 0x17, 0x0F]

def howlHmacSha256 (key bytes : List UInt8) : List UInt8 :=
  if key = howlKey ++ List.replicate 16 0 ∧ bytes = howlCiphertext then
    [0xB3, 0xB1, 0xEF, 0xC7, 0xDE, 0x7A, 0x79, 0x7B, 0xA1, 0x62, 0xFE, 0x27, 0x05, 0x7D, 0x18, 0x22,
      0x71, 0xA5, 0x24, 0xA2, 0x11, 0x5F, 0x37, 0x01, 0xE7, 0xD2, 0x77, 0x8E, 0x59, 0xA0, 0xF6, 0x0A]
  else List.replicate 32 0

/-- AES-128 on the captured group text: its plaintext and its ciphertext change places. -/
def howlCipher (key : List UInt8) : List UInt8 ≃ List UInt8 :=
  if key = howlKey then Equiv.swap howlPlaintext howlCiphertext else Equiv.refl _

def howlGroupTextCipher : GroupTextCipher :=
  { hmacSha256 := howlHmacSha256
    aes128EcbDecrypt := fun key bytes =>
      if key.length = 16 ∧ bytes.length % 16 = 0 then some ((howlCipher key).symm bytes)
      else none }

theorem length_swap {first second : List UInt8} (same : first.length = second.length)
    (bytes : List UInt8) : (Equiv.swap first second bytes).length = bytes.length := by
  rw [Equiv.swap_apply_def]
  split
  · rename_i own
    rw [own, same]
  · split
    · rename_i own
      rw [own, same]
    · rfl

theorem length_howlCipher (key bytes : List UInt8) :
    (howlCipher key bytes).length = bytes.length := by
  have same : howlPlaintext.length = howlCiphertext.length := by decide
  rw [howlCipher]
  split
  · exact length_swap same bytes
  · rfl

theorem howlGroupTextCipher_documented :
    howlGroupTextCipher.Documented fun key => howlCipher key where
  hmacSha256_length key bytes := by
    simp only [howlGroupTextCipher, howlHmacSha256]
    split
    · rfl
    · rfl
  encrypt_length key plaintext _ _ := length_howlCipher key plaintext
  decrypt_encrypt key plaintext secret blocks := by
    simp only [howlGroupTextCipher, length_howlCipher, secret, blocks, and_self, if_true,
      Equiv.symm_apply_apply]

/-- The group text of another observer's tests. -/
theorem decryptGroupText_undoes_encryption_of_howl :
    decryptEncrypted howlGroupTextCipher (fun key => howlCipher key) howlKey howlPlaintext =
      .ok (some ⟨1772918551, 0, some "Howl 👾".toList, "prefix 0101".toList⟩) := by
  have secret : howlKey.length = 16 := rfl
  have undone := decryptGroupText_undoes_encryption howlGroupTextCipher_documented secret
  exact undone.1 1772918551 0 "Howl 👾".toList "prefix 0101".toList 5 (by decide) (by decide)
    (by decide) (by decide)

end MeshcoreObserver
