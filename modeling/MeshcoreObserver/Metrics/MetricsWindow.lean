import MeshcoreObserver.Text
import Mathlib.Algebra.Order.Ring.Unbundled.Rat

/-!
# Windows

The half-open windows the queries of the store range over, and the one before a
selected window that the overview compares it with. A bound of a query is bound
as an SQL real, so any rational is one.
-/

namespace MeshcoreObserver

/-- `[start, end)`. -/
structure Window where
  start : ℚ
  finish : ℚ
  deriving DecidableEq

namespace Window

/-- `time >= ? AND time < ?`. -/
def contains (window : Window) (time : Int) : Bool :=
  window.start ≤ (time : ℚ) && (time : ℚ) < window.finish

theorem contains_iff {window : Window} {time : Int} :
    window.contains time = true ↔ window.start ≤ (time : ℚ) ∧ (time : ℚ) < window.finish := by
  simp only [contains, Bool.and_eq_true, decide_eq_true_eq]

def comparison (window : Window) : Window :=
  { start := window.start - (window.finish - window.start), finish := window.start }

end Window

/-- The window of the trends, where the samples reach back far enough. -/
def comparisonWindow (range : Option Text) (window : Window) (earliestSampleAt : Option Int) :
    Option Window :=
  if range = some ['a', 'l', 'l'] then none
  else
    match earliestSampleAt with
    | none => none
    | some earliest =>
        if (earliest : ℚ) ≤ window.comparison.start then some window.comparison else none

end MeshcoreObserver
