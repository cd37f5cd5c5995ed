import Mathlib.Data.List.Infix
import Mathlib.Data.List.TakeWhile

/-!
# LIKE

The operator of SQL on texts, where only ASCII letters have a case: `%` stands
for any text, `_` for any character, and every other character for itself in
either case. A literal pattern in front of a single `%` asks for a prefix, and
one between two of them for a part. Both operands are read as C strings, up to
their first NUL.
-/

namespace Sqlite

def like : List Char → List Char → Bool
  | [], text => text.isEmpty
  | char :: pattern, text =>
      if char = '%' then text.tails.any (like pattern)
      else
        match text with
        | [] => false
        | other :: text => (char = '_' || other.toUpper = char.toUpper) && like pattern text

/-- A text without wildcards. -/
def Literal (pattern : List Char) : Prop := ∀ char ∈ pattern, char ≠ '%' ∧ char ≠ '_'

theorem like_percent (text : List Char) : like ['%'] text = true := by
  simp only [like, if_true, List.any_eq_true]
  exact ⟨[], (List.mem_tails [] text).mpr (List.nil_suffix), rfl⟩

theorem like_append_percent {pattern : List Char} (literal : Literal pattern)
    (text : List Char) :
    like (pattern ++ ['%']) text = true ↔
      pattern.map Char.toUpper <+: text.map Char.toUpper := by
  induction pattern generalizing text with
  | nil =>
      simp only [List.nil_append, like_percent, List.map_nil, List.nil_prefix]
  | cons char pattern ih =>
      have plain := literal char List.mem_cons_self
      have rest : Literal pattern := fun other later =>
        literal other (List.mem_cons_of_mem char later)
      cases text with
      | nil =>
          simp [like, plain.1]
      | cons other text =>
          simp only [List.cons_append, like, if_neg plain.1, plain.2, decide_false,
            Bool.false_or, Bool.and_eq_true, decide_eq_true_eq, ih rest, List.map_cons,
            List.cons_prefix_cons]
          constructor
          · rintro ⟨same, later⟩
            exact ⟨same.symm, later⟩
          · rintro ⟨same, later⟩
            exact ⟨same.symm, later⟩

/-- A literal pattern between two `%` stands in the text somewhere. -/
theorem like_percent_append_percent {pattern : List Char} (literal : Literal pattern)
    (text : List Char) :
    like ('%' :: (pattern ++ ['%'])) text = true ↔
      pattern.map Char.toUpper <:+: text.map Char.toUpper := by
  simp only [like, if_true, List.any_eq_true, List.mem_tails, like_append_percent literal]
  constructor
  · rintro ⟨part, suffix, starts⟩
    exact starts.isInfix.trans (suffix.map Char.toUpper).isInfix
  · intro inside
    rcases List.infix_iff_prefix_suffix.mp inside with ⟨upper, starts, suffix⟩
    rcases List.suffix_map_iff.mp suffix with ⟨part, partSuffix, rfl⟩
    exact ⟨part, partSuffix, starts⟩

/-- What is no capital is the upper case of itself alone. -/
theorem eq_of_toUpper_eq {char upper : Char} (plain : upper.isUpper = false)
    (same : char.toUpper = upper) : char = upper := by
  by_cases lower : 'a'.val ≤ char.val ∧ char.val ≤ 'z'.val
  · have all : ∀ code, code < 128 → 'a'.val ≤ (Char.ofNat code).val ∧
        (Char.ofNat code).val ≤ 'z'.val → (Char.ofNat code).toUpper.isUpper = true := by
      decide
    have below := UInt32.le_iff_toNat_le.mp lower.2
    have bound : char.toNat < 128 := Nat.lt_of_le_of_lt below (by decide)
    have capital := all char.toNat bound
    rw [Char.ofNat_toNat, same, plain] at capital
    cases capital lower
  · have unchanged : char.toUpper = char := dif_neg lower
    rwa [unchanged] at same

/-- A text that a pattern stands for: nothing for `%`, and a dash for `_`. -/
def expansion (pattern : List Char) : List Char :=
  (pattern.filter fun char => char ≠ '%').map fun char => if char = '_' then '-' else char

theorem literal_expansion (pattern : List Char) : Literal (expansion pattern) := by
  intro char charMem
  rcases List.mem_map.mp charMem with ⟨origin, originMem, rfl⟩
  have plain := of_decide_eq_true (List.mem_filter.mp originMem).2
  split
  · exact ⟨by decide, by decide⟩
  · rename_i other
    exact ⟨plain, other⟩

theorem like_expansion (pattern : List Char) : like pattern (expansion pattern) = true := by
  induction pattern with
  | nil => rfl
  | cons char pattern ih =>
      by_cases percent : char = '%'
      · subst char
        have skipped : expansion ('%' :: pattern) = expansion pattern := rfl
        simp only [like, if_true, List.any_eq_true, skipped]
        exact ⟨expansion pattern, (List.mem_tails _ _).mpr List.suffix_rfl, ih⟩
      · have kept : expansion (char :: pattern) =
            (if char = '_' then '-' else char) :: expansion pattern := by
          rw [expansion, List.filter_cons_of_pos (by rwa [decide_eq_true_eq]), List.map_cons]
          rfl
        rw [kept]
        simp only [like, if_neg percent, ih, Bool.and_true, Bool.or_eq_true, decide_eq_true_eq]
        by_cases any : char = '_'
        · exact Or.inl any
        · rw [if_neg any]
          exact Or.inr rfl

theorem like_cons_percent {pattern text : List Char} (matched : like pattern text = true) :
    like ('%' :: pattern) text = true := by
  simp only [like, if_true, List.any_eq_true]
  exact ⟨text, (List.mem_tails _ _).mpr List.suffix_rfl, matched⟩

theorem like_append_percent_of_like {pattern text : List Char}
    (matched : like pattern text = true) : like (pattern ++ ['%']) text = true := by
  induction pattern generalizing text with
  | nil => exact like_percent text
  | cons char pattern ih =>
      by_cases percent : char = '%'
      · simp only [like, if_pos percent, List.any_eq_true, List.cons_append] at matched ⊢
        rcases matched with ⟨part, suffix, later⟩
        exact ⟨part, suffix, ih later⟩
      · cases text with
        | nil =>
            simp only [like, if_neg percent] at matched
            cases matched
        | cons other text =>
            simp only [like, if_neg percent, Bool.and_eq_true, List.cons_append] at matched ⊢
            exact ⟨matched.1, ih matched.2⟩

def cString (text : List Char) : List Char := text.takeWhile fun char => char ≠ '\x00'

/-- `text LIKE pattern` on values that may hold a NUL. -/
def likeValues (pattern text : List Char) : Bool := like (cString pattern) (cString text)

theorem cString_eq_self {text : List Char} (plain : '\x00' ∉ text) : cString text = text := by
  rw [cString, List.takeWhile_eq_self_iff]
  intro char charMem
  rw [decide_eq_true_eq]
  rintro rfl
  exact plain charMem

theorem nul_not_mem_cString (text : List Char) : '\x00' ∉ cString text := by
  intro nulMem
  have before := List.mem_takeWhile_imp nulMem
  exact absurd before (by decide)

theorem likeValues_eq_like {pattern text : List Char} (plainPattern : '\x00' ∉ pattern)
    (plainText : '\x00' ∉ text) : likeValues pattern text = like pattern text := by
  rw [likeValues, cString_eq_self plainPattern, cString_eq_self plainText]

theorem nul_not_mem_expansion (pattern : List Char) :
    '\x00' ∉ expansion (cString pattern) := by
  intro nulMem
  rcases List.mem_map.mp nulMem with ⟨origin, originMem, same⟩
  have nul : origin = '\x00' := by
    split at same
    · cases same
    · exact same
  rw [nul] at originMem
  exact nul_not_mem_cString pattern (List.mem_filter.mp originMem).1

/-- A pattern between two `%` matches the expansion of what is in front of its first NUL. -/
theorem likeValues_expansion (pattern : List Char) :
    likeValues ('%' :: (pattern ++ ['%'])) (expansion (cString pattern)) = true := by
  have matched := like_expansion (cString pattern)
  rw [likeValues, cString_eq_self (nul_not_mem_expansion _)]
  by_cases plain : '\x00' ∈ pattern
  · have cut : cString ('%' :: (pattern ++ ['%'])) = '%' :: cString pattern := by
      rw [cString, List.takeWhile_cons_of_pos (by decide), List.takeWhile_append, if_neg]
      · rfl
      · intro whole
        have same := (List.takeWhile_prefix _).eq_of_length whole
        rw [← same] at plain
        exact nul_not_mem_cString pattern plain
    rw [cut]
    exact like_cons_percent matched
  · have whole : '\x00' ∉ '%' :: (pattern ++ ['%']) := by simp [plain]
    rw [cString_eq_self whole, cString_eq_self plain] at *
    exact like_cons_percent (like_append_percent_of_like matched)

end Sqlite
