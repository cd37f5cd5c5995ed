import Mathlib.Logic.Function.Basic

/-!
# Views rendered for new data only

A view keeps the signature of the data it was last rendered from, and is left alone
when data of that signature comes again. It is the view that rendering every time
would give, as long as whatever else changes the view leaves in place what its last
data put there.
-/

namespace Transition

universe u v w

/-- Rendering of a view, which changes nothing when it is done twice in a row. -/
structure Renderer (Data : Type u) (Signature : Type v) (View : Type w) where
  signature : Data → Signature
  render : Data → View → View
  injective : Function.Injective signature
  again : ∀ data view, render data (render data view) = render data view

/-- A view with the signature of what it was last rendered from. -/
structure Memo (Signature : Type v) (View : Type w) where
  last : Option Signature
  view : View
  deriving DecidableEq

namespace Renderer

variable {Data : Type u} {Signature : Type v} {View : Type w} [DecidableEq Signature]
  (renderer : Renderer Data Signature View) (memo : Memo Signature View)

/-- The view shows the data: rendering it once more would change nothing. -/
def Shows (data : Data) (view : View) : Prop := renderer.render data view = view

def offer (data : Data) : Memo Signature View :=
  if memo.last = some (renderer.signature data) then memo
  else ⟨some (renderer.signature data), renderer.render data memo.view⟩

/-- The view shows the data whose signature it keeps. -/
def Current : Prop :=
  ∀ data, memo.last = some (renderer.signature data) → renderer.Shows data memo.view

variable {renderer memo}

omit [DecidableEq Signature] in
theorem current_new (view : View) : renderer.Current ⟨none, view⟩ := by
  intro data last
  cases last

/-- The view is what rendering every time gives. -/
theorem Current.view_offer (current : renderer.Current memo) (data : Data) :
    (renderer.offer memo data).view = renderer.render data memo.view := by
  simp only [offer]
  split
  · rename_i same
    exact (current data same).symm
  · rfl

theorem Current.shows (current : renderer.Current memo) (data : Data) :
    renderer.Shows data (renderer.offer memo data).view := by
  rw [Shows, current.view_offer data, renderer.again]

theorem last_offer (data : Data) :
    (renderer.offer memo data).last = some (renderer.signature data) := by
  simp only [offer]
  split
  · assumption
  · rfl

theorem Current.offer (current : renderer.Current memo) (data : Data) :
    renderer.Current (renderer.offer memo data) := by
  intro other last
  rw [last_offer] at last
  cases renderer.injective (Option.some.inj last)
  exact current.shows data

omit [DecidableEq Signature] in
/-- A change of the view that leaves alone what its data put there. -/
theorem Current.change (current : renderer.Current memo) {change : View → View}
    (keeps : ∀ data, renderer.Shows data memo.view → renderer.Shows data (change memo.view)) :
    renderer.Current { memo with view := change memo.view } := by
  intro data last
  exact keeps data (current data last)

end Renderer

end Transition
