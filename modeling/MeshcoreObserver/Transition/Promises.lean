import Mathlib.Logic.Function.Basic

/-!
# Promises

Promises settle at most once. A reaction that was registered on a promise may run
once the promise has settled: it calls its handler for the outcome, or hands the
outcome on where it has none, and what comes of that settles the promise derived
from it. The reactions of settled promises run in any order, so that what holds
here holds for the queue of jobs of an engine.

The names of the promises and what the handlers do are left to the program.
-/

namespace Transition

universe u v w x

inductive Settlement (Value : Type u) (Error : Type v) where
  | fulfilled (value : Value)
  | rejected (error : Error)
  deriving DecidableEq, Repr

/-- `source.then(onFulfilled, onRejected)`, with the promise this returns. -/
structure Reaction (Name : Type u) (Handler : Type v) where
  source : Name
  onFulfilled : Option Handler
  onRejected : Option Handler
  derived : Name
  deriving DecidableEq, Repr

def Reaction.handler {Name : Type u} {Handler : Type v} {Value : Type w} {Error : Type x}
    (reaction : Reaction Name Handler) : Settlement Value Error → Option Handler
  | .fulfilled _ => reaction.onFulfilled
  | .rejected _ => reaction.onRejected

/-- The outcomes of the settled promises and the reactions that have not run. -/
structure PromiseHeap (Name : Type u) (Handler : Type v) (Value : Type w) (Error : Type x) where
  settlement : Name → Option (Settlement Value Error)
  reactions : List (Reaction Name Handler)

namespace PromiseHeap

variable {Name : Type u} {Handler : Type v} {Value : Type w} {Error : Type x}
  [DecidableEq Name] [DecidableEq Handler]
  (heap : PromiseHeap Name Handler Value Error)

/-- Settles a promise that is pending. -/
def settle (name : Name) (outcome : Settlement Value Error) :
    PromiseHeap Name Handler Value Error :=
  if (heap.settlement name).isSome then heap
  else { heap with settlement := Function.update heap.settlement name (some outcome) }

def register (reaction : Reaction Name Handler) : PromiseHeap Name Handler Value Error :=
  { heap with reactions := heap.reactions ++ [reaction] }

def remove (reaction : Reaction Name Handler) : PromiseHeap Name Handler Value Error :=
  { heap with reactions := heap.reactions.filter fun other => other ≠ reaction }

/-- The outcome a reaction is to run with. -/
def due (reaction : Reaction Name Handler) : Option (Settlement Value Error) :=
  if reaction ∈ heap.reactions then heap.settlement reaction.source else none

/-- What `Promise.allSettled` gives for a list of promises, once all of them have settled. -/
def allSettled : List Name → Option (List (Settlement Value Error))
  | [] => some []
  | name :: names =>
      (heap.settlement name).bind fun outcome => (allSettled names).map fun rest => outcome :: rest

/-- The heap with the outcomes changed, and the same reactions. -/
def map (change : Name → Settlement Value Error → Settlement Value Error) :
    PromiseHeap Name Handler Value Error :=
  { heap with settlement := fun name => (heap.settlement name).map (change name) }

variable {heap} {name other : Name} {outcome : Settlement Value Error}
  {reaction added : Reaction Name Handler}

omit [DecidableEq Handler] in
theorem settlement_settle (pending : heap.settlement name = none) :
    (heap.settle name outcome).settlement other =
      if other = name then some outcome else heap.settlement other := by
  simp only [settle, pending, Option.isSome_none, Bool.false_eq_true, if_false,
    Function.update_apply]

omit [DecidableEq Handler] in
theorem settlement_settle_of_ne (apart : other ≠ name) :
    (heap.settle name outcome).settlement other = heap.settlement other := by
  simp only [settle]
  split
  · rfl
  · exact Function.update_of_ne apart _ _

omit [DecidableEq Handler] in
@[simp] theorem reactions_settle : (heap.settle name outcome).reactions = heap.reactions := by
  simp only [settle]
  split
  · rfl
  · rfl

omit [DecidableEq Name] [DecidableEq Handler] in
@[simp] theorem settlement_register : (heap.register added).settlement = heap.settlement := rfl

omit [DecidableEq Name] [DecidableEq Handler] in
@[simp] theorem mem_register :
    reaction ∈ (heap.register added).reactions ↔ reaction ∈ heap.reactions ∨ reaction = added := by
  simp [register]

@[simp] theorem settlement_remove : (heap.remove added).settlement = heap.settlement := rfl

@[simp] theorem mem_remove :
    reaction ∈ (heap.remove added).reactions ↔ reaction ∈ heap.reactions ∧ reaction ≠ added := by
  simp [remove]

theorem due_eq_some :
    heap.due reaction = some outcome ↔
      reaction ∈ heap.reactions ∧ heap.settlement reaction.source = some outcome := by
  simp only [due, Option.ite_none_right_eq_some]

omit [DecidableEq Handler] in
/-- What has settled stays settled, as it was. -/
theorem settlement_settle_keeps (settled : heap.settlement other = some outcome)
    (added : Settlement Value Error) :
    (heap.settle name added).settlement other = some outcome := by
  by_cases same : other = name
  · subst other
    simp [settle, settled]
  · rw [settlement_settle_of_ne same, settled]

omit [DecidableEq Name] [DecidableEq Handler] in
/-- The outcomes are those of the promises, in their order. -/
theorem allSettled_eq_some {names : List Name} {settled : List (Settlement Value Error)} :
    heap.allSettled names = some settled ↔ names.map heap.settlement = settled.map some := by
  induction names generalizing settled with
  | nil =>
      cases settled with
      | nil => simp [allSettled]
      | cons outcome others => simp [allSettled]
  | cons name names ih =>
      constructor
      · intro all
        rcases Option.bind_eq_some_iff.mp all with ⟨outcome, first, rest⟩
        rcases Option.map_eq_some_iff.mp rest with ⟨others, othersSettled, rfl⟩
        simp [first, ih.mp othersSettled]
      · intro same
        cases settled with
        | nil => simp at same
        | cons outcome others =>
            simp only [List.map_cons, List.cons.injEq] at same
            simp [allSettled, same.1, ih.mpr same.2]

omit [DecidableEq Name] [DecidableEq Handler] in
theorem isSome_allSettled {names : List Name} :
    (heap.allSettled names).isSome ↔ ∀ name ∈ names, (heap.settlement name).isSome := by
  induction names with
  | nil => simp [allSettled]
  | cons name names ih =>
      cases settled : heap.settlement name with
      | none => simp [allSettled, settled]
      | some outcome => simp [allSettled, settled, ih]

section Map

variable (change : Name → Settlement Value Error → Settlement Value Error)

omit [DecidableEq Handler] in
theorem map_settle :
    (heap.settle name outcome).map change =
      (heap.map change).settle name (change name outcome) := by
  simp only [settle, map, Option.isSome_map]
  split
  · rfl
  · congr 1
    funext other
    simp only [Function.update_apply]
    split
    · subst other
      rfl
    · rfl

theorem due_map :
    (heap.map change).due reaction = (heap.due reaction).map (change reaction.source) := by
  by_cases registered : reaction ∈ heap.reactions
  · simp [due, map, registered]
  · simp [due, map, registered]

end Map

end PromiseHeap

end Transition
