import Mathlib.Data.List.Pairwise

/-!
# Filtering a sorted list

In a list where the elements with a property come first, the others are what its
longest initial part with the property leaves.
-/

namespace Counting

universe u

variable {Element : Type u} {property : Element → Bool} {list : List Element}

/-- The elements without the property, where the others come first. -/
theorem dropWhile_eq_filter
    (front : list.Pairwise fun first other => property other = true → property first = true) :
    list.dropWhile property = list.filter fun element => !property element := by
  induction list with
  | nil => rfl
  | cons first list ih =>
      rw [List.pairwise_cons] at front
      cases holds : property first with
      | true =>
          rw [List.dropWhile_cons_of_pos holds, ih front.2, List.filter_cons_of_neg]
          simp [holds]
      | false =>
          have lacks : ¬property first = true := by simp [holds]
          rw [List.dropWhile_cons_of_neg lacks, List.filter_cons_of_pos (by simp [holds])]
          congr 1
          symm
          rw [List.filter_eq_self]
          intro other otherMem
          cases otherHolds : property other with
          | true => exact absurd (front.1 other otherMem otherHolds) lacks
          | false => rfl

end Counting
