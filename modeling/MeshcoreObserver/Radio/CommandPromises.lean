import MeshcoreObserver.Radio.CommandQueue
import MeshcoreObserver.Transition.EventSystem
import MeshcoreObserver.Transition.Promises
import Mathlib.Data.List.Nodup
import Mathlib.Data.List.Range

/-!
# The promises of the command queue

`run(task)` derives two promises: the result it returns, which calls the task once
the tail has settled, and the next tail, which settles with the result whatever
becomes of it. Calls, tasks and settlements come in any order: a task that is
called completes at some later time, by throwing, by returning a value or by
returning a promise, and that promise settles when it likes.

At most one task is in flight, since the only tail that can call the next task is
behind the result of the last one. The promises refine the chain of links that
the other modules build on.
-/

namespace MeshcoreObserver

open Transition

universe u v

/-- `undefined` is the value `none`. -/
abbrev TaskOutcome (Value : Type u) (Error : Type v) := Settlement (Option Value) Error

inductive QueuePromise where
  | resolved
  | result (number : Nat)
  | tail (number : Nat)
  | task (number : Nat)
  deriving DecidableEq, Repr

inductive QueueHandler where
  | callTask (number : Nat)
  | ignore
  deriving DecidableEq, Repr

abbrev QueueReaction := Reaction QueuePromise QueueHandler

/-- How the body of a task ends. -/
inductive TaskCompletion (Value : Type u) (Error : Type v) where
  | throws (error : Error)
  | returns (value : Option Value)
  | promise
  deriving DecidableEq, Repr

/-- The outcome of the task, where the body decides it. -/
def TaskCompletion.outcome {Value : Type u} {Error : Type v} :
    TaskCompletion Value Error → Option (TaskOutcome Value Error)
  | .throws error => some (.rejected error)
  | .returns value => some (.fulfilled value)
  | .promise => none

/-- A queue with the calls of `run`, in their order, and what has become of their tasks: those
that were called, those on the stack, and the outcomes of those that are over. -/
structure PromiseQueue (Value : Type u) (Error : Type v) where
  heap : PromiseHeap QueuePromise QueueHandler (Option Value) Error
  tail : QueuePromise
  calls : Nat
  started : List Nat
  calling : List Nat
  outcomes : List (Nat × TaskOutcome Value Error)

inductive QueueEvent (Value : Type u) (Error : Type v) where
  | run
  | reacts (reaction : QueueReaction)
  | completes (number : Nat) (completion : TaskCompletion Value Error)
  | settles (number : Nat) (outcome : TaskOutcome Value Error)
  deriving DecidableEq, Repr

namespace PromiseQueue

variable {Value : Type u} {Error : Type v}

def new : PromiseQueue Value Error :=
  { heap :=
      { settlement := fun name => if name = .resolved then some (.fulfilled none) else none
        reactions := [] }
    tail := .resolved
    calls := 0
    started := []
    calling := []
    outcomes := [] }

/-- `tail.then(() => task())`. -/
def callReaction (tail : QueuePromise) (number : Nat) : QueueReaction :=
  { source := tail, onFulfilled := some (.callTask number), onRejected := none
    derived := .result number }

/-- `result.then(() => undefined, () => undefined)`. -/
def ignoreReaction (number : Nat) : QueueReaction :=
  { source := .result number, onFulfilled := some .ignore, onRejected := some .ignore
    derived := .tail number }

/-- A result takes over the outcome of the promise its task has returned. -/
def adoptReaction (number : Nat) : QueueReaction :=
  { source := .task number, onFulfilled := none, onRejected := none, derived := .result number }

def run (queue : PromiseQueue Value Error) : PromiseQueue Value Error :=
  { queue with
    heap := (queue.heap.register (callReaction queue.tail queue.calls)).register
      (ignoreReaction queue.calls)
    tail := .tail queue.calls
    calls := queue.calls + 1 }

def react (queue : PromiseQueue Value Error) (reaction : QueueReaction)
    (outcome : TaskOutcome Value Error) : PromiseQueue Value Error :=
  match reaction.handler outcome with
  | none =>
      { queue with heap := (queue.heap.remove reaction).settle reaction.derived outcome }
  | some (.callTask number) =>
      { queue with
        heap := queue.heap.remove reaction
        started := queue.started ++ [number]
        calling := queue.calling ++ [number] }
  | some .ignore =>
      { queue with heap := (queue.heap.remove reaction).settle reaction.derived (.fulfilled none) }

/-- A task is over, and its result has the outcome. -/
def conclude (queue : PromiseQueue Value Error) (number : Nat)
    (outcome : TaskOutcome Value Error) : PromiseQueue Value Error :=
  { queue with
    heap := queue.heap.settle (.result number) outcome
    calling := queue.calling.erase number
    outcomes := queue.outcomes ++ [(number, outcome)] }

def complete (queue : PromiseQueue Value Error) (number : Nat) :
    TaskCompletion Value Error → PromiseQueue Value Error
  | .throws error => queue.conclude number (.rejected error)
  | .returns value => queue.conclude number (.fulfilled value)
  | .promise =>
      { queue with
        heap := queue.heap.register (adoptReaction number)
        calling := queue.calling.erase number }

/-- The promise a task has returned settles. -/
def settle (queue : PromiseQueue Value Error) (number : Nat)
    (outcome : TaskOutcome Value Error) : PromiseQueue Value Error :=
  { queue with
    heap := queue.heap.settle (.task number) outcome
    outcomes := queue.outcomes ++ [(number, outcome)] }

def step (queue : PromiseQueue Value Error) :
    QueueEvent Value Error → Option (PromiseQueue Value Error)
  | .run => some queue.run
  | .reacts reaction => (queue.heap.due reaction).map fun outcome => queue.react reaction outcome
  | .completes number completion =>
      if number ∈ queue.calling then some (queue.complete number completion) else none
  | .settles number outcome =>
      if adoptReaction number ∈ queue.heap.reactions ∧
          (queue.heap.settlement (.task number)).isNone then
        some (queue.settle number outcome)
      else none

/-- The tasks that were called and are not over. -/
def inFlight (queue : PromiseQueue Value Error) : List Nat :=
  queue.started.filter fun number => number ∉ queue.outcomes.map Prod.fst

end PromiseQueue

/-- The runs of a command queue. -/
def promiseQueueSystem (Value : Type u) (Error : Type v) :
    EventSystem (PromiseQueue Value Error) (QueueEvent Value Error) where
  Initial queue := queue = .new
  step := PromiseQueue.step

namespace PromiseQueue

variable {Value : Type u} {Error : Type v} {queue : PromiseQueue Value Error}

/-- What the first unfinished call is doing. -/
inductive Phase (Value : Type u) (Error : Type v) where
  | idle
  | calling
  | promised
  | adopting (outcome : TaskOutcome Value Error)
  | resulted (outcome : TaskOutcome Value Error)

namespace Phase

/-- The number of unfinished calls that were started. -/
def busy : Phase Value Error → Nat
  | .idle => 0
  | _ => 1

def onStack (number : Nat) : Phase Value Error → List Nat
  | .calling => [number]
  | _ => []

/-- The outcome of the task, once it is over. -/
def outcome : Phase Value Error → Option (TaskOutcome Value Error)
  | .adopting outcome => some outcome
  | .resulted outcome => some outcome
  | _ => none

def result : Phase Value Error → Option (TaskOutcome Value Error)
  | .resulted outcome => some outcome
  | _ => none

def adopts : Phase Value Error → Bool
  | .promised => true
  | .adopting _ => true
  | _ => false

end Phase

def tailBefore : Nat → QueuePromise
  | 0 => .resolved
  | number + 1 => .tail number

/-- The first calls are finished, one may be under way, and the others wait. -/
structure Chained (queue : PromiseQueue Value Error) (finished : Nat)
    (phase : Phase Value Error) : Prop where
  tail : queue.tail = tailBefore queue.calls
  within : finished + phase.busy ≤ queue.calls
  started : queue.started = List.range (finished + phase.busy)
  calling : queue.calling = phase.onStack finished
  outcomes : queue.outcomes.map Prod.fst =
    List.range (finished + phase.outcome.toList.length)
  ended : ∀ outcome ∈ phase.outcome, (finished, outcome) ∈ queue.outcomes
  results : ∀ number outcome, queue.heap.settlement (.result number) = some outcome ↔
    number < finished ∧ (number, outcome) ∈ queue.outcomes ∨
      number = finished ∧ phase.result = some outcome
  tails : ∀ number, queue.heap.settlement (.tail number) =
    if number < finished then some (.fulfilled none) else none
  resolved : queue.heap.settlement .resolved = some (.fulfilled none)
  awaited : phase.result = none → queue.heap.settlement (.task finished) = phase.outcome
  tasks : ∀ number, finished < number → queue.heap.settlement (.task number) = none
  reactions : ∀ reaction, reaction ∈ queue.heap.reactions ↔
    (∃ number, finished + phase.busy ≤ number ∧ number < queue.calls ∧
        reaction = callReaction (tailBefore number) number) ∨
      (∃ number, finished ≤ number ∧ number < queue.calls ∧
        reaction = ignoreReaction number) ∨
      phase.adopts = true ∧ reaction = adoptReaction finished

/-- What the events do to the chain. -/
inductive Advance (queue : PromiseQueue Value Error) (finished : Nat) :
    Phase Value Error → QueueEvent Value Error → PromiseQueue Value Error → Nat →
      Phase Value Error → Prop
  | run (phase) : Advance queue finished phase .run queue.run finished phase
  | starts (next : finished < queue.calls) :
      Advance queue finished .idle (.reacts (callReaction (tailBefore finished) finished))
        { queue with
          heap := queue.heap.remove (callReaction (tailBefore finished) finished)
          started := queue.started ++ [finished]
          calling := queue.calling ++ [finished] }
        finished .calling
  | concludes (completion outcome)
      (ends : completion.outcome = some outcome) :
      Advance queue finished .calling (.completes finished completion)
        (queue.conclude finished outcome) finished (.resulted outcome)
  | promises :
      Advance queue finished .calling (.completes finished .promise)
        (queue.complete finished .promise) finished .promised
  | settles (outcome) :
      Advance queue finished .promised (.settles finished outcome)
        (queue.settle finished outcome) finished (.adopting outcome)
  | adopts (outcome) :
      Advance queue finished (.adopting outcome) (.reacts (adoptReaction finished))
        { queue with
          heap := (queue.heap.remove (adoptReaction finished)).settle (.result finished) outcome }
        finished (.resulted outcome)
  | finishes (outcome) :
      Advance queue finished (.resulted outcome) (.reacts (ignoreReaction finished))
        { queue with
          heap := (queue.heap.remove (ignoreReaction finished)).settle (.tail finished)
            (.fulfilled none) }
        (finished + 1) .idle

theorem react_ignore (queue : PromiseQueue Value Error) (number : Nat)
    (outcome : TaskOutcome Value Error) :
    queue.react (ignoreReaction number) outcome =
      { queue with
        heap := (queue.heap.remove (ignoreReaction number)).settle (.tail number)
          (.fulfilled none) } := by
  cases outcome with
  | fulfilled value => rfl
  | rejected error => rfl

theorem react_adopt (queue : PromiseQueue Value Error) (number : Nat)
    (outcome : TaskOutcome Value Error) :
    queue.react (adoptReaction number) outcome =
      { queue with
        heap := (queue.heap.remove (adoptReaction number)).settle (.result number) outcome } := by
  cases outcome with
  | fulfilled value => rfl
  | rejected error => rfl

namespace Chained

variable {finished : Nat} {phase : Phase Value Error}

theorem mem_calling (chained : queue.Chained finished phase) {number : Nat}
    (calling : number ∈ queue.calling) : number = finished ∧ phase = .calling := by
  rw [chained.calling] at calling
  cases phase with
  | calling => exact ⟨List.mem_singleton.mp calling, rfl⟩
  | idle => cases calling
  | promised => cases calling
  | adopting outcome => cases calling
  | resulted outcome => cases calling

/-- A tail that has settled is the one before the first unfinished call, or an earlier one. -/
theorem tailBefore_settled (chained : queue.Chained finished phase) {number : Nat}
    {outcome : TaskOutcome Value Error}
    (settled : queue.heap.settlement (tailBefore number) = some outcome) :
    number ≤ finished ∧ outcome = .fulfilled none := by
  cases number with
  | zero =>
      have resolved := chained.resolved
      rw [tailBefore] at settled
      rw [resolved] at settled
      cases settled
      exact ⟨Nat.zero_le _, rfl⟩
  | succ number =>
      rw [tailBefore, chained.tails] at settled
      split at settled
      · cases settled
        exact ⟨by omega, rfl⟩
      · cases settled

/-- The reactions that can run are those of the first unfinished call. -/
theorem due_cases (chained : queue.Chained finished phase) {reaction : QueueReaction}
    {outcome : TaskOutcome Value Error} (due : queue.heap.due reaction = some outcome) :
    Advance queue finished phase (.reacts reaction) (queue.react reaction outcome)
        finished .calling ∨
      Advance queue finished phase (.reacts reaction) (queue.react reaction outcome)
        finished (.resulted outcome) ∨
      Advance queue finished phase (.reacts reaction) (queue.react reaction outcome)
        (finished + 1) .idle := by
  rcases PromiseHeap.due_eq_some.mp due with ⟨registered, settled⟩
  rcases (chained.reactions reaction).mp registered with
    ⟨number, later, called, rfl⟩ | ⟨number, later, called, rfl⟩ | ⟨adopts, rfl⟩
  · rcases chained.tailBefore_settled settled with ⟨before, rfl⟩
    have idle : phase = .idle := by
      cases phase with
      | idle => rfl
      | calling => exact absurd later (by simp only [Phase.busy]; omega)
      | promised => exact absurd later (by simp only [Phase.busy]; omega)
      | adopting outcome => exact absurd later (by simp only [Phase.busy]; omega)
      | resulted outcome => exact absurd later (by simp only [Phase.busy]; omega)
    have same : number = finished := by omega
    subst idle same
    exact .inl (.starts called)
  · rcases (chained.results number outcome).mp settled with ⟨before, _⟩ | ⟨rfl, resulted⟩
    · omega
    · right
      right
      rw [react_ignore]
      cases phase with
      | resulted own => exact .finishes own
      | idle => cases resulted
      | calling => cases resulted
      | promised => cases resulted
      | adopting own => cases resulted
  · right
    left
    rw [react_adopt]
    cases phase with
    | idle => cases adopts
    | calling => cases adopts
    | resulted own => cases adopts
    | promised =>
        have pending := chained.awaited rfl
        rw [adoptReaction] at settled
        rw [pending] at settled
        cases settled
    | adopting own =>
        have pending := chained.awaited rfl
        rw [adoptReaction] at settled
        rw [pending] at settled
        cases settled
        exact .adopts outcome

/-- Every step advances the chain. -/
theorem step_cases (chained : queue.Chained finished phase) {event : QueueEvent Value Error}
    {after : PromiseQueue Value Error} (stepped : queue.step event = some after) :
    ∃ finishedAfter phaseAfter,
      Advance queue finished phase event after finishedAfter phaseAfter := by
  cases event with
  | run =>
      cases stepped
      exact ⟨_, _, .run phase⟩
  | reacts reaction =>
      rcases Option.map_eq_some_iff.mp stepped with ⟨outcome, due, rfl⟩
      rcases chained.due_cases due with starts | adopts | finishes
      · exact ⟨_, _, starts⟩
      · exact ⟨_, _, adopts⟩
      · exact ⟨_, _, finishes⟩
  | completes number completion =>
      simp only [step, Option.ite_none_right_eq_some, Option.some.injEq] at stepped
      rcases stepped with ⟨calling, rfl⟩
      rcases chained.mem_calling calling with ⟨rfl, rfl⟩
      cases completion with
      | throws error => exact ⟨_, _, .concludes _ _ rfl⟩
      | returns value => exact ⟨_, _, .concludes _ _ rfl⟩
      | promise => exact ⟨_, _, .promises⟩
  | settles number outcome =>
      simp only [step, Option.ite_none_right_eq_some, Option.some.injEq] at stepped
      rcases stepped with ⟨⟨registered, pending⟩, rfl⟩
      rcases (chained.reactions _).mp registered with
        ⟨_, _, _, other⟩ | ⟨_, _, _, other⟩ | ⟨adopts, same⟩
      · cases congrArg Reaction.onFulfilled other
      · cases congrArg Reaction.onFulfilled other
      · cases same
        cases phase with
        | promised => exact ⟨_, _, .settles outcome⟩
        | adopting own =>
            rw [chained.awaited rfl] at pending
            cases pending
        | idle => cases adopts
        | calling => cases adopts
        | resulted own => cases adopts

theorem run (chained : queue.Chained finished phase) : queue.run.Chained finished phase := by
  have reactions := chained.reactions
  refine { chained with tail := rfl, within := ?_, reactions := ?_ }
  · have within := chained.within
    simp only [PromiseQueue.run]
    omega
  · intro reaction
    simp only [PromiseQueue.run, PromiseHeap.mem_register, reactions, chained.tail]
    constructor
    · rintro (((⟨number, later, called, rfl⟩ | ⟨number, later, called, rfl⟩ | adopts) | rfl) |
        rfl)
      · exact .inl ⟨number, later, by omega, rfl⟩
      · exact .inr (.inl ⟨number, later, by omega, rfl⟩)
      · exact .inr (.inr adopts)
      · exact .inl ⟨queue.calls, chained.within, by omega, rfl⟩
      · have within := chained.within
        exact .inr (.inl ⟨queue.calls, by omega, by omega, rfl⟩)
    · rintro (⟨number, later, called, rfl⟩ | ⟨number, later, called, rfl⟩ | adopts)
      · rcases Nat.lt_or_eq_of_le (Nat.le_of_lt_succ called) with before | rfl
        · exact .inl (.inl (.inl ⟨number, later, before, rfl⟩))
        · exact .inl (.inr rfl)
      · rcases Nat.lt_or_eq_of_le (Nat.le_of_lt_succ called) with before | rfl
        · exact .inl (.inl (.inr (.inl ⟨number, later, before, rfl⟩)))
        · exact .inr rfl
      · exact .inl (.inl (.inr (.inr adopts)))

theorem callReaction_inj {number other : Nat}
    (same : callReaction (tailBefore number) number = callReaction (tailBefore other) other) :
    number = other := by
  have handlers := congrArg Reaction.onFulfilled same
  simpa [callReaction] using handlers

theorem ignoreReaction_inj {number other : Nat}
    (same : ignoreReaction number = ignoreReaction other) : number = other := by
  have derived := congrArg Reaction.derived same
  simpa [ignoreReaction] using derived

theorem starts (chained : queue.Chained finished .idle) (next : finished < queue.calls) :
    Chained
      { queue with
        heap := queue.heap.remove (callReaction (tailBefore finished) finished)
        started := queue.started ++ [finished]
        calling := queue.calling ++ [finished] }
      finished .calling := by
  have reactions := chained.reactions
  refine { chained with within := next, started := ?_, calling := ?_, reactions := ?_ }
  · simp only [chained.started, Phase.busy, Nat.add_zero, List.range_succ]
  · simp only [chained.calling, Phase.onStack, List.nil_append]
  · intro reaction
    simp only [PromiseHeap.mem_remove, reactions, Phase.busy, Phase.adopts, Nat.add_zero]
    constructor
    · rintro ⟨⟨number, later, called, rfl⟩ | ⟨number, later, called, rfl⟩ | adopts, other⟩
      · refine .inl ⟨number, ?_, called, rfl⟩
        by_contra before
        have same : number = finished := by omega
        exact other (by rw [same])
      · exact .inr (.inl ⟨number, later, called, rfl⟩)
      · cases adopts.1
    · rintro (⟨number, later, called, rfl⟩ | ⟨number, later, called, rfl⟩ | adopts)
      · refine ⟨.inl ⟨number, by omega, called, rfl⟩, ?_⟩
        intro same
        have equal := callReaction_inj same
        omega
      · refine ⟨.inr (.inl ⟨number, later, called, rfl⟩), ?_⟩
        intro same
        cases congrArg Reaction.onRejected same
      · cases adopts.1

theorem result_pending (chained : queue.Chained finished phase) (none : phase.result = none) :
    queue.heap.settlement (.result finished) = Option.none := by
  rw [Option.eq_none_iff_forall_ne_some]
  intro outcome settled
  rcases (chained.results finished outcome).mp settled with ⟨less, _⟩ | ⟨_, resulted⟩
  · exact Nat.lt_irrefl _ less
  · rw [none] at resulted
    cases resulted

/-- A task has one outcome. -/
theorem outcome_unique (chained : queue.Chained finished phase) {number : Nat}
    {outcome other : TaskOutcome Value Error} (member : (number, outcome) ∈ queue.outcomes)
    (otherMember : (number, other) ∈ queue.outcomes) : outcome = other := by
  have nodup : (queue.outcomes.map Prod.fst).Nodup := by
    rw [chained.outcomes]
    exact List.nodup_range
  have same := List.inj_on_of_nodup_map nodup member otherMember rfl
  exact congrArg Prod.snd same

theorem known_concat {outcomes : List (Nat × TaskOutcome Value Error)} {number : Nat}
    (before : number < finished) (outcome found : TaskOutcome Value Error) :
    (number, found) ∈ outcomes ++ [(finished, outcome)] ↔ (number, found) ∈ outcomes := by
  have apart : number ≠ finished := Nat.ne_of_lt before
  simp [apart]

/-- The result of the first unfinished call settles. -/
theorem results_settle (chained : queue.Chained finished phase) (none : phase.result = none)
    {heap : PromiseHeap QueuePromise QueueHandler (Option Value) Error}
    (same : heap.settlement = queue.heap.settlement) (outcome : TaskOutcome Value Error)
    (number : Nat) (found : TaskOutcome Value Error) :
    (heap.settle (.result finished) outcome).settlement (.result number) = some found ↔
      number < finished ∧ (number, found) ∈ queue.outcomes ∨
        number = finished ∧ some outcome = some found := by
  have pending := chained.result_pending none
  rw [← same] at pending
  rw [PromiseHeap.settlement_settle pending, same]
  by_cases own : number = finished
  · subst number
    rw [if_pos rfl]
    simp
  · have apart : QueuePromise.result number ≠ .result finished := by
      intro equal
      cases equal
      exact own rfl
    rw [if_neg apart, chained.results]
    simp only [own, false_and, or_false]

theorem concludes (chained : queue.Chained finished .calling)
    (outcome : TaskOutcome Value Error) :
    (queue.conclude finished outcome).Chained finished (.resulted outcome) := by
  have results := chained.results_settle rfl rfl outcome
  have outcomes := chained.outcomes
  refine
    { tail := chained.tail
      within := chained.within
      started := chained.started
      calling := ?_
      outcomes := ?_
      ended := ?_
      results := ?_
      tails := ?_
      resolved := ?_
      awaited := ?_
      tasks := ?_
      reactions := ?_ }
  · simp [conclude, chained.calling, Phase.onStack]
  · simp only [Phase.outcome, Option.toList_none, List.length_nil, Nat.add_zero] at outcomes
    simp [conclude, outcomes, Phase.outcome, List.range_succ]
  · intro own same
    cases same
    simp [conclude]
  · intro number found
    simp only [conclude, results]
    constructor
    · rintro (⟨before, member⟩ | resulted)
      · exact .inl ⟨before, (known_concat before _ _).mpr member⟩
      · exact .inr resulted
    · rintro (⟨before, member⟩ | resulted)
      · exact .inl ⟨before, (known_concat before _ _).mp member⟩
      · exact .inr resulted
  · intro number
    rw [← chained.tails]
    apply PromiseHeap.settlement_settle_of_ne
    simp
  · rw [← chained.resolved]
    apply PromiseHeap.settlement_settle_of_ne
    simp
  · intro resulted
    cases resulted
  · intro number later
    rw [← chained.tasks number later]
    apply PromiseHeap.settlement_settle_of_ne
    simp
  · simpa only [conclude, PromiseHeap.reactions_settle, Phase.busy, Phase.adopts] using
      chained.reactions

theorem promises (chained : queue.Chained finished .calling) :
    (queue.complete finished .promise).Chained finished .promised := by
  have reactions := chained.reactions
  refine { chained with calling := ?_, reactions := ?_ }
  · simp [complete, chained.calling, Phase.onStack]
  · intro reaction
    simp only [complete, PromiseHeap.mem_register, reactions, Phase.adopts, Phase.busy,
      Bool.false_eq_true, false_and, or_false, true_and, or_assoc]

theorem settles (chained : queue.Chained finished .promised)
    (outcome : TaskOutcome Value Error) :
    (queue.settle finished outcome).Chained finished (.adopting outcome) := by
  have outcomes := chained.outcomes
  have results := chained.results
  have pending := chained.awaited rfl
  refine
    { tail := chained.tail
      within := chained.within
      started := chained.started
      calling := chained.calling
      outcomes := ?_
      ended := ?_
      results := ?_
      tails := ?_
      resolved := ?_
      awaited := ?_
      tasks := ?_
      reactions := ?_ }
  · simp only [Phase.outcome, Option.toList_none, List.length_nil, Nat.add_zero] at outcomes
    simp [settle, outcomes, Phase.outcome, List.range_succ]
  · intro own same
    cases same
    simp [settle]
  · intro number found
    have apart : QueuePromise.result number ≠ .task finished := by simp
    simp only [settle, PromiseHeap.settlement_settle_of_ne apart, results]
    constructor
    · rintro (⟨before, member⟩ | ⟨_, resulted⟩)
      · exact .inl ⟨before, (known_concat before _ _).mpr member⟩
      · cases resulted
    · rintro (⟨before, member⟩ | ⟨_, resulted⟩)
      · exact .inl ⟨before, (known_concat before _ _).mp member⟩
      · cases resulted
  · intro number
    rw [← chained.tails]
    apply PromiseHeap.settlement_settle_of_ne
    simp
  · rw [← chained.resolved]
    apply PromiseHeap.settlement_settle_of_ne
    simp
  · intro _
    exact (PromiseHeap.settlement_settle pending).trans (if_pos rfl)
  · intro number later
    rw [← chained.tasks number later]
    apply PromiseHeap.settlement_settle_of_ne
    simpa using Nat.ne_of_gt later
  · simpa only [settle, PromiseHeap.reactions_settle, Phase.busy, Phase.adopts] using
      chained.reactions

theorem adopts {outcome : TaskOutcome Value Error}
    (chained : queue.Chained finished (.adopting outcome)) :
    Chained
      { queue with
        heap := (queue.heap.remove (adoptReaction finished)).settle (.result finished) outcome }
      finished (.resulted outcome) := by
  have removed : (queue.heap.remove (adoptReaction finished)).settlement =
      queue.heap.settlement := rfl
  have results := chained.results_settle rfl removed outcome
  have reactions := chained.reactions
  refine
    { tail := chained.tail
      within := chained.within
      started := chained.started
      calling := chained.calling
      outcomes := chained.outcomes
      ended := chained.ended
      results := results
      tails := ?_
      resolved := ?_
      awaited := ?_
      tasks := ?_
      reactions := ?_ }
  · intro number
    rw [← chained.tails, PromiseHeap.settlement_settle_of_ne (by simp)]
    rfl
  · rw [← chained.resolved, PromiseHeap.settlement_settle_of_ne (by simp)]
    rfl
  · intro resulted
    cases resulted
  · intro number later
    rw [← chained.tasks number later, PromiseHeap.settlement_settle_of_ne (by simp)]
    rfl
  · intro reaction
    simp only [PromiseHeap.reactions_settle, PromiseHeap.mem_remove, reactions, Phase.busy]
    constructor
    · rintro ⟨calls | ignores | adopts, other⟩
      · exact .inl calls
      · exact .inr (.inl ignores)
      · exact absurd adopts.2 other
    · rintro (⟨number, later, called, rfl⟩ | ⟨number, later, called, rfl⟩ | adopts)
      · refine ⟨.inl ⟨number, later, called, rfl⟩, ?_⟩
        intro same
        cases congrArg Reaction.onFulfilled same
      · refine ⟨.inr (.inl ⟨number, later, called, rfl⟩), ?_⟩
        intro same
        cases congrArg Reaction.onFulfilled same
      · cases adopts.1

theorem finishes {outcome : TaskOutcome Value Error}
    (chained : queue.Chained finished (.resulted outcome)) :
    Chained
      { queue with
        heap := (queue.heap.remove (ignoreReaction finished)).settle (.tail finished)
          (.fulfilled none) }
      (finished + 1) .idle := by
  have results := chained.results
  have reactions := chained.reactions
  have pending : (queue.heap.remove (ignoreReaction finished)).settlement (.tail finished) =
      none := by
    rw [PromiseHeap.settlement_remove, chained.tails, if_neg (Nat.lt_irrefl _)]
  have own := chained.ended outcome rfl
  have outcomes := chained.outcomes
  refine
    { tail := chained.tail
      within := chained.within
      started := chained.started
      calling := chained.calling
      outcomes := chained.outcomes
      ended := ?_
      results := ?_
      tails := ?_
      resolved := ?_
      awaited := ?_
      tasks := ?_
      reactions := ?_ }
  · intro other same
    cases same
  · intro number found
    rw [PromiseHeap.settlement_settle_of_ne (by simp), PromiseHeap.settlement_remove, results]
    constructor
    · rintro (⟨before, member⟩ | ⟨rfl, resulted⟩)
      · exact .inl ⟨by omega, member⟩
      · cases resulted
        exact .inl ⟨Nat.lt_succ_self _, own⟩
    · rintro (⟨before, member⟩ | ⟨_, resulted⟩)
      · rcases Nat.lt_or_eq_of_le (Nat.le_of_lt_succ before) with earlier | rfl
        · exact .inl ⟨earlier, member⟩
        · exact .inr ⟨rfl, by rw [chained.outcome_unique member own]; rfl⟩
      · cases resulted
  · intro number
    rw [PromiseHeap.settlement_settle pending, PromiseHeap.settlement_remove, chained.tails]
    by_cases last : number = finished
    · subst number
      rw [if_pos rfl, if_pos (Nat.lt_succ_self _)]
    · have apart : QueuePromise.tail number ≠ .tail finished := by simpa using last
      rw [if_neg apart]
      by_cases before : number < finished
      · rw [if_pos before, if_pos (by omega)]
      · rw [if_neg before, if_neg (by omega)]
  · rw [← chained.resolved, PromiseHeap.settlement_settle_of_ne (by simp)]
    rfl
  · intro _
    rw [PromiseHeap.settlement_settle_of_ne (by simp), PromiseHeap.settlement_remove]
    exact chained.tasks _ (Nat.lt_succ_self _)
  · intro number later
    rw [PromiseHeap.settlement_settle_of_ne (by simp), PromiseHeap.settlement_remove]
    exact chained.tasks _ (Nat.lt_of_succ_lt later)
  · intro reaction
    simp only [PromiseHeap.reactions_settle, PromiseHeap.mem_remove, reactions, Phase.busy,
      Phase.adopts]
    constructor
    · rintro ⟨calls | ⟨number, later, called, rfl⟩ | adopts, other⟩
      · exact .inl calls
      · refine .inr (.inl ⟨number, ?_, called, rfl⟩)
        by_contra before
        have same : number = finished := by omega
        exact other (by rw [same])
      · cases adopts.1
    · rintro (⟨number, later, called, rfl⟩ | ⟨number, later, called, rfl⟩ | adopts)
      · refine ⟨.inl ⟨number, later, called, rfl⟩, ?_⟩
        intro same
        cases congrArg Reaction.onRejected same
      · refine ⟨.inr (.inl ⟨number, by omega, called, rfl⟩), ?_⟩
        intro same
        have equal := ignoreReaction_inj same
        omega
      · cases adopts.1

/-- What an event does to the chain, it keeps a chain. -/
theorem advance (chained : queue.Chained finished phase) {event : QueueEvent Value Error}
    {after : PromiseQueue Value Error} {finishedAfter : Nat} {phaseAfter : Phase Value Error}
    (advance : Advance queue finished phase event after finishedAfter phaseAfter) :
    after.Chained finishedAfter phaseAfter := by
  cases advance with
  | run => exact chained.run
  | starts next => exact chained.starts next
  | concludes completion outcome ends => exact chained.concludes outcome
  | promises => exact chained.promises
  | settles outcome => exact chained.settles outcome
  | adopts outcome => exact chained.adopts
  | finishes outcome => exact chained.finishes

end Chained

theorem chained_new : (new : PromiseQueue Value Error).Chained 0 .idle where
  tail := rfl
  within := Nat.le_refl _
  started := rfl
  calling := rfl
  outcomes := rfl
  ended := by
    intro outcome same
    cases same
  results := by
    intro number outcome
    simp [new, Phase.result]
  tails := by
    intro number
    simp [new]
  resolved := rfl
  awaited := fun _ => rfl
  tasks := fun _ _ => rfl
  reactions := by
    intro reaction
    simp [new, Phase.adopts]

end PromiseQueue

end MeshcoreObserver
