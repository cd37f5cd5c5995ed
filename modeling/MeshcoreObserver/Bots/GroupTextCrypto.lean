import MeshcoreObserver.Utf8

/-!
# Group texts

`decryptGroupText`: the MAC of a ciphertext, its plaintext, and the heuristic
split of the text into a sender and a message. HMAC-SHA256 and AES-128-ECB are
parameters; `none` stands for a decipher that throws.
-/

namespace MeshcoreObserver

structure GroupTextCipher where
  hmacSha256 : List UInt8 → List UInt8 → List UInt8
  aes128EcbDecrypt : List UInt8 → List UInt8 → Option (List UInt8)

structure DecryptedGroupText where
  timestamp : Nat
  flags : Nat
  sender : Option Text
  text : Text
  deriving DecidableEq, Repr

/-- `decryptedGroupTextSchema`. -/
def DecryptedGroupText.SchemaValid (decrypted : DecryptedGroupText) : Prop :=
  decrypted.timestamp ≤ 4294967295 ∧ decrypted.flags ≤ 255 ∧
    ∀ sender ∈ decrypted.sender, 1 ≤ sender.length ∧ sender.length ≤ 49

instance DecryptedGroupText.decidableSchemaValid (decrypted : DecryptedGroupText) :
    Decidable decrypted.SchemaValid :=
  inferInstanceAs (Decidable (_ ∧ _ ∧ _))

def readUInt32LE (bytes : List UInt8) : Nat :=
  (bytes.take 4).foldr (fun byte value => byte.toNat + 256 * value) 0

def plaintextText (plaintext : List UInt8) : Text :=
  (Utf8.decode none (plaintext.drop 5)).takeWhile fun char => char ≠ '\x00'

/-- A text that looks like a plausible name. -/
def IsSenderName (candidate : Text) : Prop :=
  candidate ≠ [] ∧ Text.utf16Length candidate < 50 ∧
    ∀ char ∈ candidate, char ≠ ':' ∧ char ≠ '[' ∧ char ≠ ']'

instance IsSenderName.decidable (candidate : Text) : Decidable (IsSenderName candidate) :=
  have _plain : Decidable (∀ char ∈ candidate, char ≠ ':' ∧ char ≠ '[' ∧ char ≠ ']') :=
    List.decidableBAll _ candidate
  inferInstanceAs (Decidable (_ ∧ _ ∧ _))

/-- The sender and the message, when the prefix looks like a plausible name. -/
def splitSender (text : Text) : Option Text × Text :=
  match Text.splitFirst ": ".toList text with
  | none => (none, text)
  | some (candidate, content) =>
      if IsSenderName candidate then (some candidate, content) else (none, text)

def parsePlaintext (plaintext : List UInt8) : DecryptedGroupText :=
  let split := splitSender (plaintextText plaintext)
  { timestamp := readUInt32LE plaintext
    flags := (plaintext.getD 4 0).toNat
    sender := split.1
    text := split.2 }

def calculateMac (cipher : GroupTextCipher) (ciphertext key16 : List UInt8) : List UInt8 :=
  (cipher.hmacSha256 (key16 ++ List.replicate 16 0) ciphertext).take 2

def decryptGroupText (cipher : GroupTextCipher) (ciphertext cipherMac key16 : List UInt8) :
    Option DecryptedGroupText :=
  if ciphertext.length < 16 ∨ ciphertext.length % 16 ≠ 0 then none
  else if calculateMac cipher ciphertext key16 ≠ cipherMac.take 2 then none
  else
    match cipher.aes128EcbDecrypt key16 ciphertext with
    | none => none
    | some plaintext =>
        if plaintext.length < 5 then none
        else
          let decrypted := parsePlaintext plaintext
          if decrypted.SchemaValid then some decrypted else none

theorem length_le_utf16Length (text : Text) : text.length ≤ Text.utf16Length text := by
  induction text with
  | nil => exact Nat.le_refl 0
  | cons char text ih =>
      simp only [Text.utf16Length, List.length_cons]
      split
      · omega
      · omega

theorem readUInt32LE_le (bytes : List UInt8) : readUInt32LE bytes ≤ 4294967295 := by
  have bound : ∀ (count : Nat) (bytes : List UInt8),
      (bytes.take count).foldr (fun byte value => byte.toNat + 256 * value) 0 < 256 ^ count := by
    intro count
    induction count with
    | zero => simp
    | succ count ih =>
        intro bytes
        cases bytes with
        | nil =>
            simp only [List.take_nil, List.foldr_nil]
            exact Nat.pow_pos (by omega)
        | cons byte bytes =>
            have rest := ih bytes
            have small := byte.toNat_lt
            simp only [List.take_succ_cons, List.foldr_cons]
            omega
  have four := bound 4 bytes
  simp only [readUInt32LE]
  omega

/-- A text is attributed to a sender exactly when it begins with a plausible name, a colon and a
blank. -/
theorem splitSender_eq_some {text sender content : Text} :
    splitSender text = (some sender, content) ↔
      text = sender ++ (": ".toList ++ content) ∧ IsSenderName sender := by
  constructor
  · intro split
    simp only [splitSender] at split
    split at split
    · cases split
    · rename_i found
      split at split
      · rename_i named
        cases split
        exact ⟨Text.append_of_splitFirst found, named⟩
      · cases split
  · rintro ⟨rfl, named⟩
    have absent : ':' ∉ sender := fun colonMem => (named.2.2 ':' colonMem).1 rfl
    have found : Text.splitFirst ": ".toList (sender ++ (": ".toList ++ content)) =
        some (sender, content) :=
      Text.splitFirst_append absent
    simp only [splitSender, found, if_pos named]

theorem parsePlaintext_schemaValid (plaintext : List UInt8) :
    (parsePlaintext plaintext).SchemaValid := by
  refine ⟨readUInt32LE_le plaintext, ?_, ?_⟩
  · have small := (plaintext.getD 4 0).toNat_lt
    simp only [parsePlaintext]
    omega
  · intro sender senderMem
    rcases (splitSender_eq_some.mp (Prod.ext senderMem rfl)).2 with ⟨named, short, _⟩
    have units := length_le_utf16Length sender
    have length := List.length_pos_iff.mpr named
    omega

/-- A ciphertext with a valid MAC is read as its plaintext says. -/
theorem decryptGroupText_eq {cipher : GroupTextCipher}
    {ciphertext cipherMac key16 plaintext : List UInt8}
    (blocks : 16 ≤ ciphertext.length ∧ ciphertext.length % 16 = 0)
    (mac : calculateMac cipher ciphertext key16 = cipherMac.take 2)
    (decrypts : cipher.aes128EcbDecrypt key16 ciphertext = some plaintext)
    (long : 5 ≤ plaintext.length) :
    decryptGroupText cipher ciphertext cipherMac key16 = some (parsePlaintext plaintext) := by
  have valid := parsePlaintext_schemaValid plaintext
  rw [decryptGroupText, if_neg (by omega), if_neg (by simp [mac]), decrypts]
  simp only [if_neg (Nat.not_lt.mpr long), if_pos valid]

theorem plaintext_of_decryptGroupText {cipher : GroupTextCipher}
    {ciphertext cipherMac key16 : List UInt8} {decrypted : DecryptedGroupText}
    (read : decryptGroupText cipher ciphertext cipherMac key16 = some decrypted) :
    ∃ plaintext, cipher.aes128EcbDecrypt key16 ciphertext = some plaintext ∧
      decrypted = parsePlaintext plaintext := by
  simp only [decryptGroupText] at read
  split at read
  · cases read
  · split at read
    · cases read
    · split at read
      · cases read
      · rename_i plaintext decrypts
        split at read
        · cases read
        · split at read
          · cases read
            exact ⟨plaintext, decrypts, rfl⟩
          · cases read

/-- The text of a message that was encoded with a header and NUL padding is the message up to its
first NUL. -/
theorem plaintextText_encode (header : List UInt8) (message : Text) (padding : Nat)
    (five : header.length = 5) :
    plaintextText (header ++ message.utf8 ++ List.replicate padding 0) =
      message.takeWhile fun char => char ≠ '\x00' := by
  have zeros : ∀ count, (Utf8.decode none (List.replicate count 0)).takeWhile
      (fun char => char ≠ '\x00') = [] := by
    intro count
    cases count with
    | zero => rfl
    | succ count => rfl
  have dropped : (header ++ message.utf8 ++ List.replicate padding 0).drop 5 =
      message.utf8 ++ List.replicate padding 0 := by
    rw [List.append_assoc, ← five, List.drop_left]
  rw [plaintextText, dropped, Utf8.decode_utf8, List.takeWhile_append, zeros]
  split
  · rename_i whole
    rw [List.append_nil]
    exact ((List.takeWhile_prefix _).eq_of_length whole).symm
  · rfl

end MeshcoreObserver
