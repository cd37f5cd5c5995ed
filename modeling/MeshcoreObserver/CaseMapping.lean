import MeshcoreObserver.Text

/-!
# Case mappings

`toLowerCase` and `toUpperCase`. The mappings of Unicode are a parameter, with
what its tables say of ASCII: its characters are mapped among themselves, and of
the others only İ and the Kelvin sign have an ASCII character in lower case, only
the ligature ﬀ nothing but hexadecimal digits in upper case. A lower case may
depend on the characters around.
-/

namespace MeshcoreObserver

def IsAscii (char : Char) : Prop := char.toNat < 128

instance IsAscii.decidable (char : Char) : Decidable (IsAscii char) :=
  inferInstanceAs (Decidable (_ < _))

/-- `/[0-9A-F]/`. -/
def IsUpperHexDigit (char : Char) : Prop := char.isDigit ∨ ('A' ≤ char ∧ char ≤ 'F')

instance IsUpperHexDigit.decidable (char : Char) : Decidable (IsUpperHexDigit char) :=
  inferInstanceAs (Decidable (_ ∨ _))

structure CaseMapping where
  /-- The lower case of a character between what stands before and behind it. -/
  lower : Text → Text → Char → Text
  upper : Char → Text
  lower_ascii : ∀ before after char, IsAscii char → lower before after char = [char.toLower]
  lower_ne_nil : ∀ before after char, lower before after char ≠ []
  lower_other : ∀ before after char, ¬IsAscii char →
    ∀ mapped ∈ lower before after char, IsAscii mapped → mapped = 'i' ∨ mapped = 'k'
  upper_ascii : ∀ char, IsAscii char → upper char = [char.toUpper]
  upper_ne_nil : ∀ char, upper char ≠ []
  upper_other : ∀ char, ¬IsAscii char → ∀ mapped ∈ upper char, IsAscii mapped → mapped.isUpper
  upper_hex : ∀ char, ¬IsAscii char → (∀ mapped ∈ upper char, IsUpperHexDigit mapped) → char = 'ﬀ'

/-- Equality where only ASCII letters have a case. -/
def SameIgnoringCase (text other : Text) : Prop :=
  text.map Char.toLower = other.map Char.toLower

instance SameIgnoringCase.decidable (text other : Text) : Decidable (SameIgnoringCase text other) :=
  inferInstanceAs (Decidable (_ = _))

namespace CaseMapping

variable (mapping : CaseMapping)

def lowerBehind (before : Text) : Text → Text
  | [] => []
  | char :: after => mapping.lower before after char ++ lowerBehind (before ++ [char]) after

def toLowerCase (text : Text) : Text := mapping.lowerBehind [] text

def toUpperCase (text : Text) : Text := text.flatMap mapping.upper

theorem isAscii_of_le (bound : Char) {char : Char} (below : char.val ≤ bound.val)
    (ascii : IsAscii bound) : IsAscii char :=
  Nat.lt_of_le_of_lt (UInt32.le_iff_toNat_le.mp below) ascii

theorem isAscii_of_isUpper {char : Char} (upper : char.isUpper) : IsAscii char := by
  have bounds : 'A'.val ≤ char.val ∧ char.val ≤ 'Z'.val := of_decide_eq_true upper
  exact isAscii_of_le 'Z' bounds.2 (by decide)

theorem isAscii_of_isUpperHexDigit {char : Char} (digit : IsUpperHexDigit char) : IsAscii char := by
  rcases digit with decimal | ⟨_, below⟩
  · simp only [Char.isDigit, Bool.and_eq_true, decide_eq_true_eq] at decimal
    exact isAscii_of_le '9' decimal.2 (by decide)
  · exact isAscii_of_le 'F' below (by decide)

theorem toLower_of_not_ascii {char : Char} (other : ¬IsAscii char) : char.toLower = char := by
  have outside : ¬(char.val ≥ 'A'.val ∧ char.val ≤ 'Z'.val) := fun inside =>
    other (isAscii_of_le 'Z' inside.2 (by decide))
  exact dif_neg outside

theorem toUpper_of_not_ascii {char : Char} (other : ¬IsAscii char) : char.toUpper = char := by
  have outside : ¬('a'.val ≤ char.val ∧ char.val ≤ 'z'.val) := fun inside =>
    other (isAscii_of_le 'z' inside.2 (by decide))
  exact dif_neg outside

/-- A fact about the ASCII characters is one about 128 numbers. -/
theorem forall_ascii {P : Char → Prop} (each : ∀ code < 128, P (Char.ofNat code)) {char : Char}
    (ascii : IsAscii char) : P char := by
  have known := each char.toNat ascii
  rwa [Char.ofNat_toNat] at known

/-- ASCII without `i` and `k` is the lower case of ASCII only. -/
theorem lowerBehind_eq_iff (before : Text) {text target : Text}
    (plain : ∀ char ∈ target, IsAscii char ∧ char ≠ 'i' ∧ char ≠ 'k') :
    mapping.lowerBehind before text = target ↔ text.map Char.toLower = target := by
  induction text generalizing before target with
  | nil => exact Iff.rfl
  | cons char text ih =>
      rw [lowerBehind, List.map_cons]
      by_cases ascii : IsAscii char
      · rw [mapping.lower_ascii _ _ _ ascii, List.singleton_append]
        cases target with
        | nil => simp only [List.cons_ne_nil]
        | cons first target =>
            rw [List.cons.injEq, List.cons.injEq,
              ih _ fun later laterMem => plain later (List.mem_cons_of_mem first laterMem)]
      · constructor
        · intro same
          rcases List.exists_mem_of_ne_nil _ (mapping.lower_ne_nil before text char) with
            ⟨mapped, mappedMem⟩
          have inTarget : mapped ∈ target := by
            rw [← same]
            exact List.mem_append_left _ mappedMem
          rcases plain mapped inTarget with ⟨mappedAscii, notI, notK⟩
          rcases mapping.lower_other before text char ascii mapped mappedMem mappedAscii with
            isI | isK
          · exact absurd isI notI
          · exact absurd isK notK
        · rintro rfl
          refine absurd ?_ ascii
          have inTarget := plain char.toLower List.mem_cons_self
          rw [toLower_of_not_ascii ascii] at inTarget
          exact inTarget.1

theorem toLowerCase_eq_iff {text target : Text}
    (plain : ∀ char ∈ target, IsAscii char ∧ char ≠ 'i' ∧ char ≠ 'k' ∧ char.toLower = char) :
    mapping.toLowerCase text = target ↔ SameIgnoringCase text target := by
  have lowered : target.map Char.toLower = target :=
    (List.map_congr_left fun char charMem => (plain char charMem).2.2.2).trans (List.map_id target)
  rw [toLowerCase, lowerBehind_eq_iff, SameIgnoringCase, lowered]
  exact fun char charMem => ⟨(plain char charMem).1, (plain char charMem).2.1,
    (plain char charMem).2.2.1⟩

/-- There is no capital of ASCII in a lower case. -/
theorem not_isUpper_of_mem_lowerBehind {before text : Text} {char : Char}
    (charMem : char ∈ mapping.lowerBehind before text) : char.isUpper = false := by
  induction text generalizing before with
  | nil => cases charMem
  | cons first text ih =>
      rcases List.mem_append.mp charMem with own | later
      · by_cases ascii : IsAscii first
        · rw [mapping.lower_ascii _ _ _ ascii, List.mem_singleton] at own
          rw [own]
          exact forall_ascii (P := fun first => first.toLower.isUpper = false) (by decide) ascii
        · by_cases mappedAscii : IsAscii char
          · rcases mapping.lower_other before text first ascii char own mappedAscii with rfl | rfl
            · rfl
            · rfl
          · rw [← Bool.not_eq_true]
            exact fun isUpper => mappedAscii (isAscii_of_isUpper isUpper)
      · exact ih later

theorem not_isUpper_of_mem_toLowerCase {text : Text} {char : Char}
    (charMem : char ∈ mapping.toLowerCase text) : char.isUpper = false :=
  mapping.not_isUpper_of_mem_lowerBehind charMem

theorem toUpperCase_of_ascii {text : Text} (ascii : ∀ char ∈ text, IsAscii char) :
    mapping.toUpperCase text = text.map Char.toUpper := by
  induction text with
  | nil => rfl
  | cons char text ih =>
      have rest := ih fun other later => ascii other (List.mem_cons_of_mem char later)
      rw [toUpperCase] at rest
      rw [toUpperCase, List.flatMap_cons, rest,
        mapping.upper_ascii char (ascii char List.mem_cons_self)]
      rfl

/-- An upper case has no small letters of ASCII. -/
theorem toUpper_of_mem_toUpperCase {text : Text} {char : Char}
    (charMem : char ∈ mapping.toUpperCase text) : char.toUpper = char := by
  rcases List.mem_flatMap.mp charMem with ⟨origin, _, own⟩
  by_cases ascii : IsAscii origin
  · rw [mapping.upper_ascii origin ascii, List.mem_singleton] at own
    rw [own]
    exact forall_ascii (P := fun origin => origin.toUpper.toUpper = origin.toUpper) (by decide)
      ascii
  · by_cases mappedAscii : IsAscii char
    · have capital := mapping.upper_other origin ascii char own mappedAscii
      exact forall_ascii (P := fun char => char.isUpper → char.toUpper = char) (by decide)
        mappedAscii capital
    · exact toUpper_of_not_ascii mappedAscii

/-- The mapping in which only ASCII letters have a case. -/
def asciiOnly : CaseMapping where
  lower _ _ char := [char.toLower]
  upper char := [char.toUpper]
  lower_ascii _ _ _ _ := rfl
  lower_ne_nil _ _ _ := List.cons_ne_nil _ _
  lower_other _ _ char other := by
    intro mapped mappedMem ascii
    rw [List.mem_singleton, toLower_of_not_ascii other] at mappedMem
    subst mapped
    exact absurd ascii other
  upper_ascii _ _ := rfl
  upper_ne_nil _ := List.cons_ne_nil _ _
  upper_other char other := by
    intro mapped mappedMem ascii
    rw [List.mem_singleton, toUpper_of_not_ascii other] at mappedMem
    subst mapped
    exact absurd ascii other
  upper_hex char other := by
    intro hex
    have digit := hex char.toUpper List.mem_cons_self
    rw [toUpper_of_not_ascii other] at digit
    exact absurd (isAscii_of_isUpperHexDigit digit) other

end CaseMapping

end MeshcoreObserver
