import Mathlib.Algebra.Order.Field.Basic
import Mathlib.Algebra.Order.Floor.Ring

/-!
# Ladders

An ascending list of rungs that goes on with the multiples of its last one.
Climbing it to a height stops at the least step that reaches the height, so a
greater height is reached by no smaller a step.
-/

namespace Counting

universe u

variable {Number : Type u} [Field Number] [LinearOrder Number] [FloorRing Number]

def topRung (first : Number) (rungs : List Number) : Number := rungs.getLast?.getD first

/-- The rungs of a ladder, and the multiples of the last of them. -/
def steps (first : Number) (rungs : List Number) : Set Number :=
  {step | step ∈ first :: rungs ∨ ∃ count : ℕ, 0 < count ∧ step = count * topRung first rungs}

/-- The first rung that reaches a height, or the first multiple of the last rung that does. -/
def climb (first : Number) (rungs : List Number) (height : Number) : Number :=
  match (first :: rungs).find? fun rung => height ≤ rung with
  | some rung => rung
  | none => ⌈height / topRung first rungs⌉ * topRung first rungs

variable {first height : Number} {rungs : List Number}

omit [Field Number] [LinearOrder Number] [FloorRing Number] in
theorem topRung_mem (first : Number) (rungs : List Number) :
    topRung first rungs ∈ first :: rungs := by
  rw [topRung]
  cases last : rungs.getLast? with
  | none => exact List.mem_cons_self
  | some rung => exact List.mem_cons_of_mem first (List.mem_of_getLast? last)

omit [Field Number] [FloorRing Number] in
theorem le_topRung (ascending : (first :: rungs).Pairwise (· < ·)) {rung : Number}
    (rungMem : rung ∈ first :: rungs) : rung ≤ topRung first rungs := by
  rcases List.eq_nil_or_concat rungs with rfl | ⟨before, last, rfl⟩
  · rw [List.mem_singleton] at rungMem
    exact le_of_eq rungMem
  · rw [List.concat_eq_append] at ascending rungMem ⊢
    have top : topRung first (before ++ [last]) = last := by
      rw [topRung, List.getLast?_concat, Option.getD_some]
    rw [← List.cons_append, List.mem_append, List.mem_singleton] at rungMem
    rw [← List.cons_append, List.pairwise_append] at ascending
    rw [top]
    rcases rungMem with former | rfl
    · exact le_of_lt (ascending.2.2 rung former last (List.mem_singleton_self last))
    · exact le_refl rung

omit [FloorRing Number] in
theorem pos_of_mem (ascending : (first :: rungs).Pairwise (· < ·)) (positive : 0 < first)
    {rung : Number} (rungMem : rung ∈ first :: rungs) : 0 < rung := by
  rcases List.mem_cons.mp rungMem with rfl | later
  · exact positive
  · exact positive.trans ((List.pairwise_cons.mp ascending).1 rung later)

theorem climb_le_of_rung {step : Number} (ascending : (first :: rungs).Pairwise (· < ·))
    (stepMem : step ∈ first :: rungs) (reaches : height ≤ step) :
    climb first rungs height ≤ step := by
  rw [climb]
  split
  · rename_i rung found
    rcases List.find?_eq_some_iff_append.mp found with ⟨_, before, after, whole, lower⟩
    rw [whole] at ascending stepMem
    rcases List.mem_append.mp stepMem with former | later
    · have short := lower step former
      simp [reaches] at short
    · rcases List.mem_cons.mp later with rfl | later
      · exact le_refl step
      · exact le_of_lt ((List.pairwise_cons.mp (List.pairwise_append.mp ascending).2.1).1 step
          later)
  · rename_i missing
    have short := List.find?_eq_none.mp missing step stepMem
    simp [reaches] at short

section Least

variable [IsStrictOrderedRing Number]

theorem climb_mem (ascending : (first :: rungs).Pairwise (· < ·)) (positive : 0 < first)
    (height : Number) :
    climb first rungs height ∈ steps first rungs ∧ height ≤ climb first rungs height := by
  have topPos : 0 < topRung first rungs := pos_of_mem ascending positive (topRung_mem first rungs)
  rw [climb]
  split
  · rename_i rung found
    have reaches := List.find?_some found
    rw [decide_eq_true_eq] at reaches
    exact ⟨Or.inl (List.mem_of_find?_eq_some found), reaches⟩
  · rename_i missing
    have tooHigh : topRung first rungs < height := by
      have short := List.find?_eq_none.mp missing _ (topRung_mem first rungs)
      simpa using short
    have count : 0 < ⌈height / topRung first rungs⌉ :=
      Int.ceil_pos.mpr (div_pos (topPos.trans tooHigh) topPos)
    constructor
    · refine Or.inr ⟨⌈height / topRung first rungs⌉.toNat, by omega, ?_⟩
      congr 1
      rw [← Int.cast_natCast, Int.toNat_of_nonneg (le_of_lt count)]
    · rw [← div_le_iff₀ topPos]
      exact Int.le_ceil _

theorem climb_le_of_multiple (ascending : (first :: rungs).Pairwise (· < ·))
    (positive : 0 < first) {count : ℕ} (countPos : 0 < count)
    (reaches : height ≤ count * topRung first rungs) :
    climb first rungs height ≤ count * topRung first rungs := by
  have topPos : 0 < topRung first rungs := pos_of_mem ascending positive (topRung_mem first rungs)
  by_cases topReaches : height ≤ topRung first rungs
  · have one : (1 : Number) ≤ count := by exact_mod_cast countPos
    calc climb first rungs height
        ≤ topRung first rungs :=
          climb_le_of_rung ascending (topRung_mem first rungs) topReaches
      _ ≤ count * topRung first rungs := le_mul_of_one_le_left (le_of_lt topPos) one
  · have missing : ((first :: rungs).find? fun rung => decide (height ≤ rung)) = none := by
      rw [List.find?_eq_none]
      intro rung rungMem
      have below := le_topRung ascending rungMem
      simpa using lt_of_le_of_lt below (not_le.mp topReaches)
    simp only [climb, missing]
    apply mul_le_mul_of_nonneg_right _ (le_of_lt topPos)
    rw [← div_le_iff₀ topPos] at reaches
    have ceiling : ⌈height / topRung first rungs⌉ ≤ (count : ℤ) := by
      apply Int.ceil_le.mpr
      exact_mod_cast reaches
    exact_mod_cast ceiling

/-- The step a climb stops at is the least one that reaches the height. -/
theorem isLeast_climb (ascending : (first :: rungs).Pairwise (· < ·)) (positive : 0 < first)
    (height : Number) :
    IsLeast {step | step ∈ steps first rungs ∧ height ≤ step} (climb first rungs height) := by
  constructor
  · exact climb_mem ascending positive height
  · rintro step ⟨rungMem | ⟨count, countPos, rfl⟩, reaches⟩
    · exact climb_le_of_rung ascending rungMem reaches
    · exact climb_le_of_multiple ascending positive countPos reaches

/-- A greater height is reached by no smaller a step. -/
theorem climb_mono (ascending : (first :: rungs).Pairwise (· < ·)) (positive : 0 < first)
    {lower higher : Number} (below : lower ≤ higher) :
    climb first rungs lower ≤ climb first rungs higher := by
  refine (isLeast_climb ascending positive higher).mono (isLeast_climb ascending positive lower) ?_
  rintro step ⟨isStep, reaches⟩
  exact ⟨isStep, below.trans reaches⟩

end Least

end Counting
