import Mathlib.Algebra.BigOperators.Group.List.Basic
import Mathlib.Algebra.GroupWithZero.Nat
import Mathlib.Data.List.Infix

/-!
# Longest prefixes within a budget

The loop that takes elements off a list as long as their costs stay within a
budget. Costs only add up, so a prefix of a list that fits fits as well: the
loop stops at the longest prefix that does.
-/

namespace Counting

universe u

variable {Element : Type u}

/-- The prefix of a list with a property of which every other one is a prefix. -/
structure IsLongestPrefix (Fits : List Element → Prop) (list part : List Element) : Prop where
  isPrefix : part <+: list
  fits : Fits part
  longest : ∀ other, other <+: list → Fits other → other <+: part

namespace IsLongestPrefix

variable {Fits : List Element → Prop} {list : List Element}

theorem whole (fits : Fits list) : IsLongestPrefix Fits list list where
  isPrefix := List.prefix_rfl
  fits := fits
  longest := by
    intro other shorter _
    exact shorter

end IsLongestPrefix

section Budget

variable (cost : Element → Nat) (budget : Nat)

def totalCost (list : List Element) : Nat := (list.map cost).sum

/-- Takes elements as long as the budget lasts, with what has been used of it so far. -/
def takeWithin : Nat → List Element → List Element
  | _, [] => []
  | used, element :: list =>
      if budget < used + cost element then []
      else element :: takeWithin (used + cost element) list

@[simp] theorem totalCost_nil : totalCost cost [] = 0 := rfl

@[simp] theorem totalCost_cons (element : Element) (list : List Element) :
    totalCost cost (element :: list) = cost element + totalCost cost list := by
  simp [totalCost]

theorem isLongestPrefix_takeWithin (used : Nat) (list : List Element) (start : used ≤ budget) :
    IsLongestPrefix (fun part => used + totalCost cost part ≤ budget) list
      (takeWithin cost budget used list) := by
  induction list generalizing used with
  | nil =>
      apply IsLongestPrefix.whole
      simp only [totalCost_nil]
      omega
  | cons element list ih =>
      simp only [takeWithin]
      split
      · rename_i full
        refine ⟨List.nil_prefix, by simpa using start, ?_⟩
        intro other shorter fits
        rcases List.prefix_cons_iff.mp shorter with rfl | ⟨rest, rfl, _⟩
        · exact List.prefix_rfl
        · simp only [totalCost_cons] at fits
          omega
      · rename_i room
        have tail := ih (used + cost element) (by omega)
        refine ⟨List.cons_prefix_cons.mpr ⟨rfl, tail.isPrefix⟩, ?_, ?_⟩
        · have fits := tail.fits
          simp only [totalCost_cons]
          omega
        · intro other shorter fits
          rcases List.prefix_cons_iff.mp shorter with rfl | ⟨rest, rfl, restShorter⟩
          · exact List.nil_prefix
          · simp only [totalCost_cons] at fits
            apply List.cons_prefix_cons.mpr
            refine ⟨rfl, ?_⟩
            apply tail.longest rest restShorter
            omega

end Budget

end Counting
