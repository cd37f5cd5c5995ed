import MeshcoreObserver.Radio.CommandPromises

/-!
# Commands one at a time

What the chain of promises makes of any run: the tasks are called in the order of
the `run` calls, one after the other, and the promise of a call settles with the
outcome of its own task.

Each call takes five events at most, whatever becomes of its task. While a call is
not answered there is an event that takes the queue on, and that is the end of a task
or a job of the engine. Other outcomes of the tasks give the same run with other
outcomes, so that a failure reaches no other task.
-/

namespace MeshcoreObserver

open Transition

universe u v

variable {Value : Type u} {Error : Type v}

namespace TaskCompletion

def ending : TaskOutcome Value Error → TaskCompletion Value Error
  | .fulfilled value => .returns value
  | .rejected error => .throws error

def changed (change : TaskOutcome Value Error → TaskOutcome Value Error) :
    TaskCompletion Value Error → TaskCompletion Value Error
  | .throws error => ending (change (.rejected error))
  | .returns value => ending (change (.fulfilled value))
  | .promise => .promise

end TaskCompletion

namespace QueueEvent

def isRun : QueueEvent Value Error → Bool
  | .run => true
  | _ => false

/-- The outcome of a task, where the event is its end. -/
def outcome : QueueEvent Value Error → Option (Nat × TaskOutcome Value Error)
  | .run => none
  | .reacts _ => none
  | .completes number completion => completion.outcome.map fun outcome => (number, outcome)
  | .settles number outcome => some (number, outcome)

/-- The event with other outcomes of the tasks. -/
def changed (change : Nat → TaskOutcome Value Error → TaskOutcome Value Error) :
    QueueEvent Value Error → QueueEvent Value Error
  | .run => .run
  | .reacts reaction => .reacts reaction
  | .completes number completion => .completes number (completion.changed (change number))
  | .settles number outcome => .settles number (change number outcome)

end QueueEvent

namespace PromiseQueue

variable {queue : PromiseQueue Value Error}

/-- An event other than a call of `run` can take the queue on. -/
def GoesOn (queue : PromiseQueue Value Error) : Prop :=
  (∃ reaction, (queue.step (.reacts reaction)).isSome) ∨
    ∃ number ∈ queue.inFlight,
      (∀ completion, (queue.step (.completes number completion)).isSome) ∨
        ∀ outcome, (queue.step (.settles number outcome)).isSome

def changedAt (change : Nat → TaskOutcome Value Error → TaskOutcome Value Error) :
    QueuePromise → TaskOutcome Value Error → TaskOutcome Value Error
  | .resolved => id
  | .tail _ => id
  | .result number => change number
  | .task number => change number

/-- The queue with other outcomes of the tasks. -/
def changed (queue : PromiseQueue Value Error)
    (change : Nat → TaskOutcome Value Error → TaskOutcome Value Error) :
    PromiseQueue Value Error :=
  { queue with
    heap := queue.heap.map (changedAt change)
    outcomes := queue.outcomes.map fun ended => (ended.1, change ended.1 ended.2) }

/-- What `CommandQueue` promises of a run from a new queue to this one. -/
structure Serialises (events : List (QueueEvent Value Error))
    (queue : PromiseQueue Value Error) : Prop where
  calls : queue.calls = events.countP QueueEvent.isRun
  alone : queue.inFlight.length ≤ 1
  inOrder : ∃ count ≤ queue.calls, queue.started = List.range count
  endsOnce : ((events.filterMap QueueEvent.outcome).map Prod.fst).Nodup
  own : ∀ number outcome, queue.heap.settlement (.result number) = some outcome →
    (number, outcome) ∈ events.filterMap QueueEvent.outcome
  lasting : ∀ number outcome, queue.heap.settlement (.result number) = some outcome →
    ∀ later after, (promiseQueueSystem Value Error).run EventSystem.anyStep queue later =
        some after →
      after.heap.settlement (.result number) = some outcome
  answered : ∀ number < queue.calls, queue.heap.settlement (.result number) = none →
    events.countP (fun event => !event.isRun) < 5 * (number + 1) ∧ queue.GoesOn
  unaffected : ∀ change,
    (promiseQueueSystem Value Error).run EventSystem.anyStep new
        (events.map (QueueEvent.changed change)) =
      some (queue.changed change)

/-- The events a call has taken, while it is under way. -/
def Phase.steps : Phase Value Error → Nat
  | .idle => 0
  | .calling => 1
  | .promised => 2
  | .adopting _ => 3
  | .resulted _ => 4

theorem Phase.steps_le (phase : Phase Value Error) : phase.steps ≤ 4 := by
  cases phase with
  | idle => simp [steps]
  | calling => simp [steps]
  | promised => simp [steps]
  | adopting outcome => simp [steps]
  | resulted outcome => simp [steps]

structure Recorded (events : List (QueueEvent Value Error)) (queue : PromiseQueue Value Error)
    (finished : Nat) (phase : Phase Value Error) : Prop where
  chained : queue.Chained finished phase
  calls : queue.calls = events.countP QueueEvent.isRun
  outcomes : queue.outcomes = events.filterMap QueueEvent.outcome
  steps : events.countP (fun event => !event.isRun) ≤ 5 * finished + phase.steps

theorem recorded_new : Recorded [] (new : PromiseQueue Value Error) 0 .idle where
  chained := chained_new
  calls := rfl
  outcomes := rfl
  steps := Nat.le_refl _

theorem Recorded.step {events : List (QueueEvent Value Error)} {finished : Nat}
    {phase : Phase Value Error} (recorded : Recorded events queue finished phase)
    {event : QueueEvent Value Error} {after : PromiseQueue Value Error}
    (stepped : queue.step event = some after) :
    ∃ finishedAfter phaseAfter,
      Recorded (events ++ [event]) after finishedAfter phaseAfter := by
  rcases recorded.chained.step_cases stepped with ⟨finishedAfter, phaseAfter, advance⟩
  refine ⟨finishedAfter, phaseAfter, recorded.chained.advance advance, ?_, ?_, ?_⟩
  · rw [List.countP_append, ← recorded.calls]
    cases advance with
    | run => rfl
    | starts next => rfl
    | concludes completion outcome ends => rfl
    | promises => rfl
    | settles outcome => rfl
    | adopts outcome => rfl
    | finishes outcome => rfl
  · rw [List.filterMap_append, ← recorded.outcomes]
    cases advance with
    | run => simp [PromiseQueue.run, QueueEvent.outcome]
    | starts next => simp [QueueEvent.outcome]
    | concludes completion outcome ends => simp [conclude, QueueEvent.outcome, ends]
    | promises => simp [complete, QueueEvent.outcome, TaskCompletion.outcome]
    | settles outcome => simp [settle, QueueEvent.outcome]
    | adopts outcome => simp [QueueEvent.outcome]
    | finishes outcome => simp [QueueEvent.outcome]
  · have steps := recorded.steps
    rw [List.countP_append]
    cases advance with
    | run => exact steps
    | starts next => exact Nat.succ_le_succ steps
    | concludes completion outcome ends =>
        simp only [Phase.steps] at steps
        change _ + 1 ≤ _
        simp only [Phase.steps]
        omega
    | promises =>
        simp only [Phase.steps] at steps
        change _ + 1 ≤ _
        simp only [Phase.steps]
        omega
    | settles outcome =>
        simp only [Phase.steps] at steps
        change _ + 1 ≤ _
        simp only [Phase.steps]
        omega
    | adopts outcome =>
        simp only [Phase.steps] at steps
        change _ + 1 ≤ _
        simp only [Phase.steps]
        omega
    | finishes outcome =>
        simp only [Phase.steps] at steps
        change _ + 1 ≤ _
        simp only [Phase.steps]
        omega

theorem Recorded.run {events later : List (QueueEvent Value Error)} {finished : Nat}
    {phase : Phase Value Error} (recorded : Recorded events queue finished phase)
    {after : PromiseQueue Value Error}
    (ran : (promiseQueueSystem Value Error).run EventSystem.anyStep queue later = some after) :
    ∃ finishedAfter phaseAfter, Recorded (events ++ later) after finishedAfter phaseAfter := by
  induction later generalizing events queue finished phase with
  | nil =>
      cases ran
      rw [List.append_nil]
      exact ⟨finished, phase, recorded⟩
  | cons event later ih =>
      rw [EventSystem.run_anyStep_cons] at ran
      rcases Option.bind_eq_some_iff.mp ran with ⟨middle, stepped, rest⟩
      rcases recorded.step stepped with ⟨_, _, middleRecorded⟩
      rcases ih middleRecorded rest with ⟨finishedAfter, phaseAfter, afterRecorded⟩
      rw [List.append_cons]
      exact ⟨finishedAfter, phaseAfter, afterRecorded⟩

theorem Chained.inFlight {finished : Nat} {phase : Phase Value Error}
    (chained : queue.Chained finished phase) :
    queue.inFlight =
      if phase.busy = 1 ∧ phase.outcome = none then [finished] else [] := by
  simp only [PromiseQueue.inFlight, chained.started, chained.outcomes]
  cases phase with
  | idle => simp [Phase.busy, Phase.outcome]
  | calling => simp [Phase.busy, Phase.outcome, List.range_succ, List.filter_append]
  | promised => simp [Phase.busy, Phase.outcome, List.range_succ, List.filter_append]
  | adopting outcome => simp [Phase.busy, Phase.outcome]
  | resulted outcome => simp [Phase.busy, Phase.outcome]

theorem Chained.alone {finished : Nat} {phase : Phase Value Error}
    (chained : queue.Chained finished phase) : queue.inFlight.length ≤ 1 := by
  rw [chained.inFlight]
  split
  · exact Nat.le_refl _
  · exact Nat.zero_le _

theorem isSome_reacts {reaction : QueueReaction} {outcome : TaskOutcome Value Error}
    (registered : reaction ∈ queue.heap.reactions)
    (settled : queue.heap.settlement reaction.source = some outcome) :
    (queue.step (.reacts reaction)).isSome := by
  have due := PromiseHeap.due_eq_some.mpr ⟨registered, settled⟩
  simp [PromiseQueue.step, due]

theorem Chained.tailBefore_finished {finished : Nat} {phase : Phase Value Error}
    (chained : queue.Chained finished phase) :
    queue.heap.settlement (tailBefore finished) = some (.fulfilled none) := by
  cases finished with
  | zero => exact chained.resolved
  | succ finished =>
      rw [tailBefore, chained.tails, if_pos (Nat.lt_succ_self _)]

/-- While a call is unfinished, something can happen to the first of them. -/
theorem Chained.goesOn {finished : Nat} {phase : Phase Value Error}
    (chained : queue.Chained finished phase) (unfinished : finished < queue.calls) :
    queue.GoesOn := by
  have inFlight := chained.inFlight
  have reactions := chained.reactions
  cases phase with
  | idle =>
      left
      refine ⟨callReaction (tailBefore finished) finished, ?_⟩
      apply isSome_reacts ?_ chained.tailBefore_finished
      exact (reactions _).mpr (.inl ⟨finished, Nat.le_refl _, unfinished, rfl⟩)
  | calling =>
      right
      refine ⟨finished, by simp [inFlight, Phase.busy, Phase.outcome], .inl ?_⟩
      intro completion
      simp [PromiseQueue.step, chained.calling, Phase.onStack]
  | promised =>
      right
      refine ⟨finished, by simp [inFlight, Phase.busy, Phase.outcome], .inr ?_⟩
      intro outcome
      have adopts := (reactions (adoptReaction finished)).mpr (.inr (.inr ⟨rfl, rfl⟩))
      have pending := chained.awaited rfl
      simp only [Phase.outcome] at pending
      simp [PromiseQueue.step, adopts, pending]
  | adopting outcome =>
      left
      refine ⟨adoptReaction finished, ?_⟩
      apply isSome_reacts ?_ (chained.awaited rfl)
      exact (reactions _).mpr (.inr (.inr ⟨rfl, rfl⟩))
  | resulted outcome =>
      left
      refine ⟨ignoreReaction finished, ?_⟩
      apply isSome_reacts ?_ ((chained.results finished outcome).mpr (.inr ⟨rfl, rfl⟩))
      exact (reactions _).mpr (.inr (.inl ⟨finished, Nat.le_refl _, unfinished, rfl⟩))

/-- The finished calls are answered. -/
theorem Chained.finished_le {finished : Nat} {phase : Phase Value Error}
    (chained : queue.Chained finished phase) {number : Nat}
    (pending : queue.heap.settlement (.result number) = none) : finished ≤ number := by
  by_contra before
  have known : number ∈ queue.outcomes.map Prod.fst := by
    rw [chained.outcomes]
    apply List.mem_range.mpr
    omega
  rcases List.mem_map.mp known with ⟨⟨_, outcome⟩, member, rfl⟩
  have settled := (chained.results _ outcome).mpr (.inl ⟨by omega, member⟩)
  rw [pending] at settled
  cases settled

theorem changed_new (change : Nat → TaskOutcome Value Error → TaskOutcome Value Error) :
    (new : PromiseQueue Value Error).changed change = new := by
  simp only [changed, new, PromiseHeap.map, List.map_nil]
  congr 2
  funext name
  cases name with
  | resolved => rfl
  | result number => rfl
  | tail number => rfl
  | task number => rfl

theorem conclude_changed (change : Nat → TaskOutcome Value Error → TaskOutcome Value Error)
    (number : Nat) (outcome : TaskOutcome Value Error) :
    (queue.conclude number outcome).changed change =
      (queue.changed change).conclude number (change number outcome) := by
  simp [conclude, changed, PromiseHeap.map_settle, changedAt]

theorem complete_ending (number : Nat) (outcome : TaskOutcome Value Error) :
    queue.complete number (.ending outcome) = queue.conclude number outcome := by
  cases outcome with
  | fulfilled value => rfl
  | rejected error => rfl

theorem complete_changed (change : Nat → TaskOutcome Value Error → TaskOutcome Value Error)
    (number : Nat) (completion : TaskCompletion Value Error) :
    (queue.complete number completion).changed change =
      (queue.changed change).complete number (completion.changed (change number)) := by
  cases completion with
  | throws error =>
      rw [TaskCompletion.changed, complete_ending]
      exact conclude_changed change number _
  | returns value =>
      rw [TaskCompletion.changed, complete_ending]
      exact conclude_changed change number _
  | promise => rfl

theorem settle_changed (change : Nat → TaskOutcome Value Error → TaskOutcome Value Error)
    (number : Nat) (outcome : TaskOutcome Value Error) :
    (queue.settle number outcome).changed change =
      (queue.changed change).settle number (change number outcome) := by
  simp [settle, changed, PromiseHeap.map_settle, changedAt]

/-- A job of the engine does the same whatever the outcomes are, as no tail is ever rejected. -/
theorem Chained.react_changed {finished : Nat} {phase : Phase Value Error}
    (chained : queue.Chained finished phase)
    (change : Nat → TaskOutcome Value Error → TaskOutcome Value Error)
    {reaction : QueueReaction} {outcome : TaskOutcome Value Error}
    (due : queue.heap.due reaction = some outcome) :
    (queue.react reaction outcome).changed change =
      (queue.changed change).react reaction (changedAt change reaction.source outcome) := by
  rcases PromiseHeap.due_eq_some.mp due with ⟨registered, settled⟩
  rcases (chained.reactions reaction).mp registered with
    ⟨number, _, _, rfl⟩ | ⟨number, _, _, rfl⟩ | ⟨_, rfl⟩
  · rcases chained.tailBefore_settled settled with ⟨_, rfl⟩
    cases number with
    | zero => rfl
    | succ number => rfl
  · simp only [react_ignore, changed, PromiseHeap.map_settle]
    rfl
  · simp only [react_adopt, changed, PromiseHeap.map_settle]
    rfl

theorem Chained.step_changed {finished : Nat} {phase : Phase Value Error}
    (chained : queue.Chained finished phase)
    (change : Nat → TaskOutcome Value Error → TaskOutcome Value Error)
    {event : QueueEvent Value Error} {after : PromiseQueue Value Error}
    (stepped : queue.step event = some after) :
    (queue.changed change).step (event.changed change) = some (after.changed change) := by
  cases event with
  | run =>
      cases stepped
      rfl
  | reacts reaction =>
      rcases Option.map_eq_some_iff.mp stepped with ⟨outcome, due, rfl⟩
      rw [chained.react_changed change due]
      simp only [QueueEvent.changed, PromiseQueue.step, changed, PromiseHeap.due_map, due,
        Option.map_some]
  | completes number completion =>
      simp only [PromiseQueue.step, Option.ite_none_right_eq_some, Option.some.injEq] at stepped
      rcases stepped with ⟨calling, rfl⟩
      rw [complete_changed]
      exact if_pos calling
  | settles number outcome =>
      simp only [PromiseQueue.step, Option.ite_none_right_eq_some, Option.some.injEq] at stepped
      rcases stepped with ⟨⟨registered, pending⟩, rfl⟩
      rw [settle_changed]
      apply if_pos
      refine ⟨registered, ?_⟩
      simpa [changed, PromiseHeap.map] using pending

theorem Recorded.run_changed {events later : List (QueueEvent Value Error)} {finished : Nat}
    {phase : Phase Value Error} (recorded : Recorded events queue finished phase)
    (change : Nat → TaskOutcome Value Error → TaskOutcome Value Error)
    {after : PromiseQueue Value Error}
    (ran : (promiseQueueSystem Value Error).run EventSystem.anyStep queue later = some after) :
    (promiseQueueSystem Value Error).run EventSystem.anyStep (queue.changed change)
        (later.map (QueueEvent.changed change)) =
      some (after.changed change) := by
  induction later generalizing events queue finished phase with
  | nil =>
      cases ran
      rfl
  | cons event later ih =>
      rw [EventSystem.run_anyStep_cons] at ran
      rcases Option.bind_eq_some_iff.mp ran with ⟨middle, stepped, rest⟩
      rcases recorded.step stepped with ⟨_, _, middleRecorded⟩
      have middleStepped := recorded.chained.step_changed change stepped
      rw [List.map_cons, EventSystem.run_anyStep_cons]
      exact Option.bind_eq_some_iff.mpr ⟨_, middleStepped, ih middleRecorded rest⟩

theorem step_keeps {event : QueueEvent Value Error} {after : PromiseQueue Value Error}
    (stepped : queue.step event = some after) {name : QueuePromise}
    {outcome : TaskOutcome Value Error}
    (settled : queue.heap.settlement name = some outcome) :
    after.heap.settlement name = some outcome := by
  cases event with
  | run =>
      cases stepped
      exact settled
  | reacts reaction =>
      rcases Option.map_eq_some_iff.mp stepped with ⟨own, _, rfl⟩
      have removed : (queue.heap.remove reaction).settlement name = some outcome := settled
      simp only [react]
      split
      · exact PromiseHeap.settlement_settle_keeps removed _
      · exact settled
      · exact PromiseHeap.settlement_settle_keeps removed _
  | completes number completion =>
      simp only [PromiseQueue.step, Option.ite_none_right_eq_some, Option.some.injEq] at stepped
      rcases stepped with ⟨_, rfl⟩
      cases completion with
      | throws error => exact PromiseHeap.settlement_settle_keeps settled _
      | returns value => exact PromiseHeap.settlement_settle_keeps settled _
      | promise => exact settled
  | settles number own =>
      simp only [PromiseQueue.step, Option.ite_none_right_eq_some, Option.some.injEq] at stepped
      rcases stepped with ⟨_, rfl⟩
      exact PromiseHeap.settlement_settle_keeps settled _

theorem run_keeps {later : List (QueueEvent Value Error)} {after : PromiseQueue Value Error}
    (ran : (promiseQueueSystem Value Error).run EventSystem.anyStep queue later = some after)
    {name : QueuePromise} {outcome : TaskOutcome Value Error}
    (settled : queue.heap.settlement name = some outcome) :
    after.heap.settlement name = some outcome := by
  have keeps : ∀ (before : PromiseQueue Value Error) (event) (after : PromiseQueue Value Error),
      before.heap.settlement name = some outcome → EventSystem.anyStep before event →
      before.step event = some after → after.heap.settlement name = some outcome := by
    intro _ _ _ holds _ stepped
    exact step_keeps stepped holds
  exact (EventSystem.leads_of_run ran).invariant keeps settled

/-- Commands run one at a time, in order, and each is answered with its own outcome. -/
theorem serialises_run {events : List (QueueEvent Value Error)}
    (ran : (promiseQueueSystem Value Error).run EventSystem.anyStep new events = some queue) :
    queue.Serialises events := by
  rcases recorded_new.run ran with ⟨finished, phase, recorded⟩
  have chained := recorded.chained
  rw [List.nil_append] at recorded
  refine
    { calls := recorded.calls
      alone := chained.alone
      inOrder := ⟨_, chained.within, chained.started⟩
      endsOnce := ?_
      own := ?_
      lasting := ?_
      answered := ?_
      unaffected := ?_ }
  · rw [← recorded.outcomes, chained.outcomes]
    exact List.nodup_range
  · intro number outcome settled
    rw [← recorded.outcomes]
    rcases (chained.results number outcome).mp settled with ⟨_, member⟩ | ⟨rfl, resulted⟩
    · exact member
    · cases phase with
      | resulted own =>
          cases resulted
          exact chained.ended outcome rfl
      | idle => cases resulted
      | calling => cases resulted
      | promised => cases resulted
      | adopting own => cases resulted
  · intro number outcome settled later after ranLater
    exact run_keeps ranLater settled
  · intro number called pending
    have steps := recorded.steps
    have bound := phase.steps_le
    have before := chained.finished_le pending
    exact ⟨by omega, chained.goesOn (Nat.lt_of_le_of_lt before called)⟩
  · intro change
    have ranChanged := recorded_new.run_changed change ran
    rwa [changed_new] at ranChanged

/-- Two calls of which the first throws and the second returns a promise. -/
def failsThenAnswers : List (QueueEvent Nat String) :=
  [.run, .run, .reacts (callReaction .resolved 0), .completes 0 (.throws "closed"),
    .reacts (ignoreReaction 0), .reacts (callReaction (.tail 0) 1), .completes 1 .promise,
    .settles 1 (.fulfilled (some 5)), .reacts (adoptReaction 1)]

theorem isSome_failsThenAnswers :
    ((promiseQueueSystem Nat String).run EventSystem.anyStep new failsThenAnswers).isSome := by
  rfl

theorem serialises_failsThenAnswers :
    (((promiseQueueSystem Nat String).run EventSystem.anyStep new failsThenAnswers).get
      isSome_failsThenAnswers).Serialises failsThenAnswers :=
  serialises_run (Option.some_get _).symm

def linkPhase (queue : PromiseQueue Value Error) (number : Nat) : LinkPhase :=
  if (queue.heap.settlement (.tail number)).isSome then .settled
  else if number ∈ queue.started then .running
  else .waiting

/-- The links that the other modules work with. -/
def links (queue : PromiseQueue Value Error) : CommandQueue Nat :=
  { links := (List.range queue.calls).map fun number => ⟨number, queue.linkPhase number⟩ }

theorem Chained.linkPhase {finished : Nat} {phase : Phase Value Error}
    (chained : queue.Chained finished phase) (number : Nat) :
    queue.linkPhase number =
      if number < finished then .settled
      else if number < finished + phase.busy then .running
      else .waiting := by
  simp only [PromiseQueue.linkPhase, chained.tails, chained.started, List.mem_range]
  by_cases before : number < finished
  · rw [if_pos before, if_pos before]
    rfl
  · rw [if_neg before, if_neg before]
    rfl

/-- A phase that changes at one link only. -/
theorem set_links {before after : Nat → LinkPhase} {index count : Nat}
    (unchanged : ∀ number, number ≠ index → after number = before number) :
    ((List.range count).map fun number => Link.mk number (before number)).set index
        ⟨index, after index⟩ =
      (List.range count).map fun number => ⟨number, after number⟩ := by
  apply List.ext_getElem
  · simp
  · intro number _ _
    rw [List.getElem_set]
    split
    · subst number
      simp
    · rename_i other
      simp [unchanged number (Ne.symm other)]

theorem links_get {number : Nat} (called : number < queue.calls) :
    queue.links.links[number]? = some ⟨number, queue.linkPhase number⟩ := by
  simp [links, called]

theorem Chained.tailSettled {finished : Nat} {phase : Phase Value Error}
    (chained : queue.Chained finished phase) (called : finished < queue.calls) :
    queue.links.TailSettled finished := by
  cases finished with
  | zero => exact .inl rfl
  | succ finished =>
      right
      refine ⟨_, links_get (Nat.lt_of_succ_lt called), ?_⟩
      simp [chained.linkPhase]

theorem Chained.links_run {finished : Nat} {phase : Phase Value Error}
    (chained : queue.Chained finished phase) :
    queue.run.links = queue.links.run queue.calls := by
  have last : queue.run.linkPhase queue.calls = .waiting := by
    have within := chained.within
    rw [chained.run.linkPhase, if_neg (by omega), if_neg (by omega)]
  simp only [links, CommandQueue.run, PromiseQueue.run, List.range_succ, List.map_append,
    List.map_cons, List.map_nil]
  congr 3
  rw [← last]
  rfl

/-- A step that changes the phase of one link. -/
theorem links_set {after : PromiseQueue Value Error} {index : Nat} {phase : LinkPhase}
    (calls : after.calls = queue.calls) (changes : after.linkPhase index = phase)
    (others : ∀ number, number ≠ index → after.linkPhase number = queue.linkPhase number) :
    after.links = { links := queue.links.links.set index ⟨index, phase⟩ } := by
  simp only [links, calls]
  rw [← changes, set_links others]

theorem starts_of_linkPhase {after : PromiseQueue Value Error} {index : Nat}
    (calls : after.calls = queue.calls) (called : index < queue.calls)
    (waits : queue.linkPhase index = .waiting) (settled : queue.links.TailSettled index)
    (starts : after.linkPhase index = .running)
    (others : ∀ number, number ≠ index → after.linkPhase number = queue.linkPhase number) :
    queue.links.Starts after.links := by
  rw [links_set calls starts others]
  apply CommandQueue.Starts.intro ?_ settled
  rw [links_get called, waits]

theorem settles_of_linkPhase {after : PromiseQueue Value Error} {index : Nat}
    (calls : after.calls = queue.calls) (called : index < queue.calls)
    (runs : queue.linkPhase index = .running) (ends : after.linkPhase index = .settled)
    (others : ∀ number, number ≠ index → after.linkPhase number = queue.linkPhase number) :
    queue.links.Settles after.links := by
  rw [links_set calls ends others]
  apply CommandQueue.Settles.intro
  rw [links_get called, runs]

/-- The promises refine the chain of links: each step is one of its steps, or leaves it alone. -/
theorem Chained.links_step {finished : Nat} {phase : Phase Value Error}
    (chained : queue.Chained finished phase) {event : QueueEvent Value Error}
    {after : PromiseQueue Value Error} (stepped : queue.step event = some after) :
    after.links = queue.links ∨ after.links = queue.links.run queue.calls ∨
      queue.links.Starts after.links ∨ queue.links.Settles after.links := by
  rcases chained.step_cases stepped with ⟨finishedAfter, phaseAfter, advance⟩
  have afterChained := chained.advance advance
  cases advance with
  | run =>
      right
      left
      exact chained.links_run
  | starts next =>
      right
      right
      left
      refine starts_of_linkPhase ?_ next ?_ (chained.tailSettled next) ?_ ?_
      · rfl
      · simp [chained.linkPhase, Phase.busy]
      · simp [afterChained.linkPhase, Phase.busy]
      · intro number other
        by_cases before : number < finished
        · simp [chained.linkPhase, afterChained.linkPhase, before]
        · have later : ¬ number < finished + 1 := by omega
          simp [chained.linkPhase, afterChained.linkPhase, Phase.busy, before, later]
  | finishes outcome =>
      right
      right
      right
      refine settles_of_linkPhase ?_ chained.within ?_ ?_ ?_
      · rfl
      · simp [chained.linkPhase, Phase.busy]
      · simp [afterChained.linkPhase]
      · intro number other
        have last : number < finished + 1 ↔ number < finished := by omega
        simp [chained.linkPhase, afterChained.linkPhase, Phase.busy, last]
  | concludes completion outcome ends =>
      left
      simp only [links, afterChained.linkPhase, chained.linkPhase]
      rfl
  | promises =>
      left
      simp only [links, afterChained.linkPhase, chained.linkPhase]
      rfl
  | settles outcome =>
      left
      simp only [links, afterChained.linkPhase, chained.linkPhase]
      rfl
  | adopts outcome =>
      left
      simp only [links, afterChained.linkPhase, chained.linkPhase]
      rfl

/-- In every run, the calls that are not answered are those of a serial queue in a run of its
own. -/
theorem refines_serialQueue (reachable : (promiseQueueSystem Value Error).Reachable queue) :
    ∃ serial, (serialQueueSystem Nat).Reachable serial ∧ queue.links.Refines serial := by
  have simulated : ∃ serial, (serialQueueSystem Nat).Reachable serial ∧
      (∃ finished phase, queue.Chained finished phase) ∧ queue.links.Refines serial := by
    apply reachable.simulated
    · rintro _ rfl
      exact ⟨.empty, rfl, ⟨0, .idle, chained_new⟩, CommandQueue.refines_new⟩
    · rintro before event after serial ⟨⟨finished, phase, chained⟩, refines⟩ _ stepped
      have moves := chained.links_step stepped
      rcases chained.step_cases stepped with ⟨finishedAfter, phaseAfter, advance⟩
      rcases refines.follows (moves.imp_right (Or.imp_left fun ran => ⟨_, ran⟩)) with
        ⟨serialAfter, lead, refinesAfter⟩
      exact ⟨serialAfter, lead, ⟨finishedAfter, phaseAfter, chained.advance advance⟩,
        refinesAfter⟩
  rcases simulated with ⟨serial, serialReachable, _, refines⟩
  exact ⟨serial, serialReachable, refines⟩

end PromiseQueue

end MeshcoreObserver
