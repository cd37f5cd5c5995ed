import MeshcoreObserver.Radio.TriedCandidates
import MeshcoreObserver.Transition.Fairness

/-!
# The end of an opening

A call that waits for settled promises and for timers that fire returns or throws: each
attempt has six events to wait for, at most. What is left of an attempt after that
depends on `connect()`: when it rejects, the promise of `waitForConnection` is left
behind with its timer and its listeners, and its own rejection is handled by nothing.
Where `off` does not remove what `once` has registered, the listener that was not
called stays on the connection; it changes nothing when it is called.
-/

namespace MeshcoreObserver

open Transition

namespace TransportOpening

variable {Port : Type} {emitter : ConnectionEmitter} {timeoutMs : Nat} {candidates : List Port}
  {opening after : TransportOpening Port}

/-- `connect()` does not reject, and has fulfilled, and the call gone on, before the connection
is lost or the time is up. -/
def ConnectsFirst (opening : TransportOpening Port) : OpeningEvent → Prop
  | .connectSettles _ outcome => outcome = .fulfilled ()
  | .signals number signal => signal = .connected ∨
      opening.attempts[number]?.all fun attempt =>
        attempt.awaited || attempt.wait.settlement.isSome
  | .closeSettles _ => True
  | .resumes _ => True

instance (opening : TransportOpening Port) (event : OpeningEvent) :
    Decidable (opening.ConnectsFirst event) :=
  match event with
  | .connectSettles .. => inferInstanceAs (Decidable (_ = _))
  | .signals .. => inferInstanceAs (Decidable (_ ∨ _))
  | .closeSettles _ | .resumes _ => inferInstanceAs (Decidable True)

def Quiet (attempt : OpeningAttempt Port) : Prop :=
  attempt.unhandled = false ∧ ∀ error, attempt.connect ≠ some (.rejected error)

def AllQuiet (opening : TransportOpening Port) : Prop :=
  ∀ attempt ∈ opening.attempts, Quiet attempt

section EveryAttempt

variable {Property : OpeningAttempt Port → Prop}

theorem forall_modify {number : Nat} {change : OpeningAttempt Port → OpeningAttempt Port}
    (all : ∀ attempt ∈ opening.attempts, Property attempt)
    (kept : ∀ attempt, opening.attempts[number]? = some attempt → Property attempt →
      Property (change attempt)) :
    ∀ attempt ∈ (opening.modify number change).attempts, Property attempt := by
  intro changed changedMem
  rcases List.mem_iff_getElem?.mp changedMem with ⟨other, foundAfter⟩
  simp only [attempts_modify, List.getElem?_modify, Option.map_eq_map,
    Option.map_eq_some_iff] at foundAfter
  rcases foundAfter with ⟨attempt, found, rfl⟩
  have before := all attempt (List.mem_of_getElem? found)
  split
  · rename_i isNumber
    subst other
    exact kept attempt found before
  · exact before

theorem forall_tryNext {creationError : Option OpeningError}
    (all : ∀ attempt ∈ opening.attempts, Property attempt)
    (fresh : ∀ port, Property (.new port)) :
    ∀ attempt ∈ (opening.tryNext creationError).attempts, Property attempt := by
  unfold tryNext
  split
  · exact all
  · exact all
  · rename_i port rest untried
    intro attempt attemptMem
    rcases List.mem_append.mp attemptMem with before | new
    · exact all attempt before
    · rw [List.mem_singleton] at new
      subst attempt
      exact fresh port

theorem forall_resume {creationError : Option OpeningError}
    (resumes : opening.Resumes creationError after)
    (all : ∀ attempt ∈ opening.attempts, Property attempt)
    (fresh : ∀ port, Property (.new port))
    (awaits : ∀ attempt, Property attempt → Property { attempt with awaited := true })
    (fails : ∀ attempt error, Property attempt → Property (attempt.fail error)) :
    ∀ attempt ∈ after.attempts, Property attempt := by
  cases resumes with
  | connected => exact forall_modify all fun attempt _ => awaits attempt
  | connectFailed => exact forall_modify all fun attempt _ => fails attempt _
  | ready => exact all
  | waitFailed => exact forall_modify all fun attempt _ => fails attempt _
  | closed => exact forall_tryNext all fresh

end EveryAttempt

theorem quiet_new (port : Port) : Quiet (.new port) :=
  ⟨rfl, nofun⟩

theorem quiet_hear {attempt : OpeningAttempt Port} {signal : OpeningSignal}
    (quiet : Quiet attempt)
    (met : signal = .connected ∨ attempt.awaited = true ∨ attempt.wait.settlement.isSome) :
    Quiet (attempt.hear emitter timeoutMs signal) := by
  refine ⟨?_, quiet.2⟩
  simp only [OpeningAttempt.hear, quiet.1, Bool.false_or, Bool.and_eq_false_iff,
    decide_eq_false_iff_not, Bool.not_eq_false']
  rcases met with rfl | awaited | settled
  · left
    rintro ⟨pending, settled, rejected⟩
    simp only [ConnectionWait.hear] at settled rejected
    split at rejected
    · simp [ConnectionWait.settle, ConnectionWait.cleanup, pending] at rejected
    · simp_all
  · exact Or.inr awaited
  · left
    rintro ⟨pending, -⟩
    simp [pending] at settled

theorem quiet_step {event : OpeningEvent} (met : opening.ConnectsFirst event)
    (stepped : opening.step emitter timeoutMs event = some after)
    (quiet : opening.AllQuiet) : after.AllQuiet := by
  cases steps_of_eq_some stepped with
  | connectSettles outcome found pending =>
      apply forall_modify quiet
      intro attempt _ before
      refine ⟨before.1, ?_⟩
      rintro error rejected
      cases (Option.some.inj rejected).symm.trans met
  | signals signal found armed =>
      apply forall_modify quiet
      intro attempt foundAttempt before
      apply quiet_hear before
      simpa [ConnectsFirst, foundAttempt] using met
  | closeSettles found called pending => exact forall_modify quiet fun _ _ before => before
  | resumes resumes =>
      exact forall_resume resumes quiet quiet_new (fun _ before => before)
        fun _ _ before => before

/-- Where the library keeps to what it does, an attempt the call is done with has left no timer
and no rejection that nothing handles, and no listener that could still settle anything. -/
theorem leaves_nothing
    (reachable : (openingSystem emitter timeoutMs candidates).ReachableWhen ConnectsFirst opening)
    {number : Nat} {attempt : OpeningAttempt Port}
    (found : opening.attempts[number]? = some attempt)
    (done : opening.phase ≠ .connecting number ∧ opening.phase ≠ .waiting number) :
    attempt.wait.timer = false ∧ attempt.unhandled = false ∧ attempt.wait.settlement.isSome ∧
    (emitter.offRemovesOnce = true →
      attempt.wait.onConnected = false ∧ attempt.wait.onDisconnected = false) ∧
    ∀ signals : List OpeningSignal,
      (signals.foldl (ConnectionWait.hear emitter timeoutMs) attempt.wait).settlement =
        attempt.wait.settlement := by
  have isAt := ((inOrder_of_reachable reachable).attempts number attempt found).1
  have heard := ((inOrder_of_reachable reachable).attempts number attempt found).2
  have quiet : opening.AllQuiet := by
    apply reachable.invariant
    · rintro first ⟨creationError, rfl⟩
      exact forall_tryNext (by simp) quiet_new
    · intro first event second before met stepped
      exact quiet_step met stepped before
  have ownQuiet := quiet attempt (List.mem_of_getElem? found)
  have givenUp : attempt.GivenUp timeoutMs → attempt.signals ≠ [] := by
    rintro ⟨_, error, _, rejected | ⟨_, first⟩⟩
    · exact absurd rejected (ownQuiet.2 error)
    · intro none
      simp [none] at first
  have signalled : attempt.signals ≠ [] := by
    cases phase : opening.phase with
    | connecting current =>
        have different : number ≠ current := by
          rintro rfl
          exact done.1 phase
        simp only [OpeningPhase.stage, OpeningPhase.current?, phase, different, if_false] at isAt
        exact givenUp isAt.1
    | waiting current =>
        have different : number ≠ current := by
          rintro rfl
          exact done.2 phase
        simp only [OpeningPhase.stage, OpeningPhase.current?, phase, different, if_false] at isAt
        exact givenUp isAt.1
    | closing current =>
        simp only [OpeningPhase.stage, OpeningPhase.current?, phase] at isAt
        split at isAt
        · exact givenUp isAt
        · exact givenUp isAt.1
    | returned current =>
        simp only [OpeningPhase.stage, OpeningPhase.current?, phase] at isAt
        split at isAt
        · intro none
          have first := isAt.2.2
          simp [none] at first
        · exact givenUp isAt.1
    | threw error =>
        simp only [OpeningPhase.stage, OpeningPhase.current?, phase] at isAt
        exact givenUp isAt.1
  rcases List.exists_cons_of_ne_nil signalled with ⟨first, rest, isFirst⟩
  have decided : attempt.wait.Decided emitter timeoutMs first :=
    heard.decided (by rw [isFirst, List.head?_cons])
  refine ⟨decided.timer, ownQuiet.1, by simp [decided.settlement], decided.listeners, ?_⟩
  intro signals
  rw [(decided.heard signals).settlement, decided.settlement]

theorem secondOpens_ran_connecting :
    ((openingSystem ⟨false⟩ 5000 serialPorts).run ConnectsFirst
      (openSerialConnection serialPorts none) secondOpens).isSome := by
  decide

theorem leaves_nothing_of_secondOpens :
    ∃ attempt, (((openingSystem ⟨false⟩ 5000 serialPorts).run ConnectsFirst
      (openSerialConnection serialPorts none) secondOpens).get
        secondOpens_ran_connecting).attempts[0]? = some attempt ∧
      attempt.wait.timer = false ∧ attempt.unhandled = false ∧
      (attempt.wait.hear ⟨false⟩ 5000 .connected).settlement = attempt.wait.settlement := by
  have reachable := EventSystem.reachableWhen_get (initial_opening serialPorts)
    secondOpens_ran_connecting
  have returned : (((openingSystem ⟨false⟩ 5000 serialPorts).run ConnectsFirst
      (openSerialConnection serialPorts none) secondOpens).get
        secondOpens_ran_connecting).phase = .returned 1 := by
    decide
  have tried : (((openingSystem ⟨false⟩ 5000 serialPorts).run ConnectsFirst
      (openSerialConnection serialPorts none) secondOpens).get
        secondOpens_ran_connecting).attempts[0]?.isSome := by
    decide
  rcases Option.isSome_iff_exists.mp tried with ⟨attempt, found⟩
  have left := leaves_nothing reachable found (by simp [returned])
  exact ⟨attempt, found, left.1, left.2.1, left.2.2.2.2 [.connected]⟩

/-- An event the call waits for: its promise settles, its timer fires or it goes on. -/
def Awaits (opening : TransportOpening Port) : OpeningEvent → Prop
  | .connectSettles number _ => opening.phase = .connecting number
  | .signals number signal => opening.phase = .waiting number ∧ signal = .timeout
  | .closeSettles number => opening.phase = .closing number
  | .resumes _ => True

def attemptWork (attempt : OpeningAttempt Port) : Nat :=
  (if attempt.connect.isSome then 0 else 1) +
    (if attempt.wait.settlement.isSome then 0 else 1) +
    if attempt.closeSettled then 0 else 1

def workAt (opening : TransportOpening Port) (number : Nat) : Nat :=
  opening.attempts[number]?.elim 0 attemptWork + 6 * opening.untried.length

/-- How many events the call may still wait for. -/
def work (opening : TransportOpening Port) : Nat :=
  match opening.phase with
  | .connecting number => opening.workAt number + 3
  | .waiting number => opening.workAt number + 2
  | .closing number => opening.workAt number + 1
  | .returned _ => 0
  | .threw _ => 0

def Finished (opening : TransportOpening Port) : Prop :=
  (∃ number, opening.phase = .returned number) ∨ ∃ error, opening.phase = .threw error

theorem workAt_modify {number : Nat} {attempt : OpeningAttempt Port}
    {change : OpeningAttempt Port → OpeningAttempt Port}
    (found : opening.attempts[number]? = some attempt) :
    (opening.modify number change).workAt number =
      attemptWork (change attempt) + 6 * opening.untried.length := by
  simp [workAt, TransportOpening.modify, found]

theorem workAt_modify_of_ne {number other : Nat}
    {change : OpeningAttempt Port → OpeningAttempt Port} (different : other ≠ number) :
    (opening.modify number change).workAt other = opening.workAt other := by
  simp [workAt, TransportOpening.modify, List.getElem?_modify_ne _ _ (Ne.symm different)]

theorem attemptWork_le {before after : OpeningAttempt Port} (kept : before.Extends after)
    (heard : before.Heard emitter timeoutMs) (heardAfter : after.Heard emitter timeoutMs) :
    attemptWork after ≤ attemptWork before := by
  have connect : before.connect.isSome → after.connect.isSome := by
    intro settled
    rcases Option.isSome_iff_exists.mp settled with ⟨outcome, isOutcome⟩
    simp [kept.connect outcome isOutcome]
  have settlement : before.wait.settlement.isSome → after.wait.settlement.isSome := by
    rw [heard.settlement, heardAfter.settlement, Option.isSome_map, Option.isSome_map]
    intro settled
    rcases Option.isSome_iff_exists.mp settled with ⟨first, isFirst⟩
    simp [kept.signals first isFirst]
  have closeSettled := kept.closeSettled
  simp only [attemptWork]
  grind

theorem work_tryNext_le (creationError : Option OpeningError) :
    (opening.tryNext creationError).work ≤ 6 * opening.untried.length := by
  unfold tryNext
  split
  · exact Nat.zero_le _
  · exact Nat.zero_le _
  · rename_i port rest untried
    simp [work, workAt, attemptWork, OpeningAttempt.new, ConnectionWait.waitForConnection, untried]
    omega

/-- Where the call goes on, it has less to wait for. -/
theorem work_resume_lt {creationError : Option OpeningError}
    (resumes : opening.Resumes creationError after) : after.work < opening.work := by
  cases resumes with
  | connected phase found fulfilled => simp [work, phase, workAt, found, attemptWork]
  | connectFailed phase found rejected =>
      simp [work, phase, workAt, found, attemptWork, fail, OpeningAttempt.fail]
  | ready phase found fulfilled => simp [work, phase]
  | waitFailed phase found rejected =>
      simp [work, phase, workAt, found, attemptWork, fail, OpeningAttempt.fail]
  | closed phase found settled =>
      have next : (opening.tryNext creationError).work ≤ 6 * opening.untried.length :=
        work_tryNext_le creationError
      simp only [work, phase, workAt] at next ⊢
      omega

theorem workAt_modify_le {number : Nat} (other : Nat) {attempt : OpeningAttempt Port}
    {change : OpeningAttempt Port → OpeningAttempt Port}
    (found : opening.attempts[number]? = some attempt)
    (less : attemptWork (change attempt) ≤ attemptWork attempt) :
    (opening.modify number change).workAt other ≤ opening.workAt other := by
  by_cases isNumber : other = number
  · subst other
    rw [workAt_modify found, workAt, found, Option.elim_some]
    exact Nat.add_le_add_right less _
  · exact Nat.le_of_eq (workAt_modify_of_ne isNumber)

theorem work_modify_le {number : Nat} {attempt : OpeningAttempt Port}
    {change : OpeningAttempt Port → OpeningAttempt Port}
    (found : opening.attempts[number]? = some attempt)
    (less : attemptWork (change attempt) ≤ attemptWork attempt) :
    (opening.modify number change).work ≤ opening.work := by
  cases phase : opening.phase with
  | connecting current =>
      simpa [work, phase, TransportOpening.modify] using
        workAt_modify_le current found less
  | waiting current =>
      simpa [work, phase, TransportOpening.modify] using
        workAt_modify_le current found less
  | closing current =>
      simpa [work, phase, TransportOpening.modify] using
        workAt_modify_le current found less
  | returned current => simp [work, phase, TransportOpening.modify]
  | threw error => simp [work, phase, TransportOpening.modify]

theorem work_modify_lt {number : Nat} {attempt : OpeningAttempt Port}
    {change : OpeningAttempt Port → OpeningAttempt Port}
    (found : opening.attempts[number]? = some attempt)
    (less : attemptWork (change attempt) < attemptWork attempt)
    (isCurrent : opening.phase = .connecting number ∨ opening.phase = .waiting number ∨
      opening.phase = .closing number) :
    (opening.modify number change).work < opening.work := by
  have lessAt : (opening.modify number change).workAt number < opening.workAt number := by
    rw [workAt_modify found, workAt, found, Option.elim_some]
    exact Nat.add_lt_add_right less _
  rcases isCurrent with phase | phase | phase
  · simpa [work, phase, TransportOpening.modify] using lessAt
  · simpa [work, phase, TransportOpening.modify] using lessAt
  · simpa [work, phase, TransportOpening.modify] using lessAt

theorem work_step_le {event : OpeningEvent} (inOrder : opening.InOrder emitter timeoutMs candidates)
    (stepped : opening.step emitter timeoutMs event = some after) : after.work ≤ opening.work := by
  cases steps_of_eq_some stepped with
  | @connectSettles number attempt outcome found pending =>
      have heard := (inOrder.attempts number attempt found).2
      have kept := OpeningAttempt.extends_connect pending outcome
      exact work_modify_le found (attemptWork_le kept heard heard)
  | @signals number attempt signal found armed =>
      have heard := (inOrder.attempts number attempt found).2
      have kept : attempt.Extends (attempt.hear emitter timeoutMs signal) :=
        OpeningAttempt.extends_hear signal
      exact work_modify_le found (attemptWork_le kept heard (heard.hear signal))
  | @closeSettles number attempt found called pending =>
      have heard := (inOrder.attempts number attempt found).2
      have kept := OpeningAttempt.extends_close called
      exact work_modify_le found (attemptWork_le kept heard heard)
  | resumes resumes => exact Nat.le_of_lt (work_resume_lt resumes)

/-- An event the call waits for leaves it less to wait for. -/
theorem work_awaited_lt {event : OpeningEvent}
    (inOrder : opening.InOrder emitter timeoutMs candidates)
    (awaits : opening.Awaits event) (stepped : opening.step emitter timeoutMs event = some after) :
    after.work < opening.work := by
  cases steps_of_eq_some stepped with
  | connectSettles outcome found pending =>
      apply work_modify_lt found ?_ (Or.inl awaits)
      simp [attemptWork, pending]
  | @signals number attempt signal found armed =>
      apply work_modify_lt found ?_ (Or.inr (Or.inl awaits.1))
      have heard := (inOrder.attempts number attempt found).2
      have silent : attempt.signals = [] := by
        simpa [heard.timer] using armed awaits.2
      have heardAfter := (heard.hear signal).settlement
      simp only [attemptWork, heardAfter, heard.settlement]
      simp [OpeningAttempt.hear, silent]
  | closeSettles found called pending =>
      apply work_modify_lt found ?_ (Or.inr (Or.inr awaits))
      simp [attemptWork, pending]
  | resumes resumes => exact work_resume_lt resumes

/-- Until the call has finished, an event it waits for can come. -/
theorem exists_awaited (inOrder : opening.InOrder emitter timeoutMs candidates)
    (unfinished : ¬opening.Finished) :
    ∃ event, opening.Awaits event ∧ (opening.step emitter timeoutMs event).isSome := by
  have found : ∀ {number : Nat} {stage : OpeningStage},
      opening.phase.current? = some (number, stage) →
      ∃ attempt, opening.attempts[number]? = some attempt ∧ attempt.At timeoutMs stage ∧
        attempt.Heard emitter timeoutMs := by
    intro number stage isCurrent
    have isLast := inOrder.last number stage isCurrent
    have found := List.getElem?_eq_getElem (l := opening.attempts) (i := number) (by omega)
    refine ⟨_, found, ?_⟩
    simpa [OpeningPhase.stage, isCurrent] using inOrder.attempts number _ found
  cases phase : opening.phase with
  | connecting number =>
      rcases found (congrArg OpeningPhase.current? phase) with ⟨attempt, found, isAt, heard⟩
      cases connect : attempt.connect with
      | none =>
          exact ⟨.connectSettles number (.fulfilled ()), phase, by simp [step, found, connect]⟩
      | some outcome =>
          exact ⟨.resumes none, trivial, by simp [step, resume, phase, found, connect]⟩
  | waiting number =>
      rcases found (congrArg OpeningPhase.current? phase) with ⟨attempt, found, isAt, heard⟩
      cases settlement : attempt.wait.settlement with
      | none =>
          have silent : attempt.signals = [] := by simpa [heard.settlement] using settlement
          have armed : attempt.wait.timer = true := by
            simp [heard.timer, silent]
          exact ⟨.signals number .timeout, ⟨phase, rfl⟩, by simp [step, found, armed]⟩
      | some outcome =>
          exact ⟨.resumes none, trivial, by simp [step, resume, phase, found, settlement]⟩
  | closing number =>
      rcases found (congrArg OpeningPhase.current? phase) with ⟨attempt, found, isAt, heard⟩
      cases settled : attempt.closeSettled with
      | false =>
          have called : 0 < attempt.closeCalls := by simp [isAt.1]
          exact ⟨.closeSettles number, phase, by simp [step, found, called, settled]⟩
      | true => exact ⟨.resumes none, trivial, by simp [step, resume, phase, found, settled]⟩
  | returned number => exact absurd (Or.inl ⟨number, phase⟩) unfinished
  | threw error => exact absurd (Or.inr ⟨error, phase⟩) unfinished

/-- Where promises settle, timers fire and jobs run, the call returns or throws. -/
theorem opening_ends (run : UnendingRun (openingSystem emitter timeoutMs candidates))
    (fair : run.Fair Awaits Finished) : ∃ moment, (run.state moment).Finished := by
  apply fair.eventually work
  · intro before event after reachable stepped
    exact work_step_le (inOrder_of_reachable reachable) stepped
  · intro before event after reachable awaits stepped
    exact work_awaited_lt (inOrder_of_reachable reachable) awaits stepped

theorem opening_ends_of_secondOpens :
    ∃ moment, ((UnendingRun.ofRun (initial_opening serialPorts) secondOpens
      secondOpens_ran).state moment).Finished :=
  opening_ends _ (UnendingRun.fair_ofRun (Or.inl ⟨1, by decide⟩))

end TransportOpening

end MeshcoreObserver
