import MeshcoreObserver.Radio.TransportOpening

/-!
# Candidates in order

Each attempt has a stage: the one the call is at, or given up. An attempt that has
been given up has failed once and been closed once, and the next candidate is not
tried before that; the attempt the call returns has not been closed.
-/

namespace MeshcoreObserver

open Transition

namespace ConnectionWait

variable {emitter : ConnectionEmitter} {timeoutMs : Nat} {signals : List OpeningSignal}
  {wait : ConnectionWait} {first : OpeningSignal}

def outcome (timeoutMs : Nat) : OpeningSignal → Settlement Unit OpeningError
  | .connected => .fulfilled ()
  | .disconnected => .rejected .closedEarly
  | .timeout => .rejected (.timedOut timeoutMs)

/-- A wait whose first signal has been heard. -/
structure Decided (emitter : ConnectionEmitter) (timeoutMs : Nat) (first : OpeningSignal)
    (wait : ConnectionWait) : Prop where
  settlement : wait.settlement = some (outcome timeoutMs first)
  timer : wait.timer = false
  listeners : emitter.offRemovesOnce = true →
    wait.onConnected = false ∧ wait.onDisconnected = false

theorem decided_hear (first : OpeningSignal) :
    (waitForConnection.hear emitter timeoutMs first).Decided emitter timeoutMs first := by
  have listeners : emitter.offRemovesOnce = true →
      (waitForConnection.hear emitter timeoutMs first).onConnected = false ∧
        (waitForConnection.hear emitter timeoutMs first).onDisconnected = false := by
    intro removes
    cases first with
    | connected => simp [hear, settle, cleanup, waitForConnection, removes]
    | disconnected => simp [hear, settle, cleanup, waitForConnection, removes]
    | timeout => simp [hear, settle, cleanup, waitForConnection, removes]
  cases first with
  | connected => exact ⟨rfl, rfl, listeners⟩
  | disconnected => exact ⟨rfl, rfl, listeners⟩
  | timeout => exact ⟨rfl, rfl, listeners⟩

theorem decided_settle (settled : wait.settlement = some (outcome timeoutMs first))
    (later : Settlement Unit OpeningError) :
    ((wait.cleanup emitter).settle later).Decided emitter timeoutMs first := by
  have kept : (wait.cleanup emitter).settle later = wait.cleanup emitter := by
    simp [settle, cleanup, settled]
  rw [kept]
  refine ⟨settled, rfl, fun removes => ?_⟩
  simp [cleanup, removes]

/-- Where a listener is called that `off` has left, its promise has settled. -/
theorem Decided.hear (decided : wait.Decided emitter timeoutMs first) (signal : OpeningSignal) :
    (wait.hear emitter timeoutMs signal).Decided emitter timeoutMs first := by
  cases signal with
  | connected =>
      simp only [ConnectionWait.hear]
      split
      · apply decided_settle
        exact decided.settlement
      · exact decided
  | disconnected =>
      simp only [ConnectionWait.hear]
      split
      · apply decided_settle
        exact decided.settlement
      · exact decided
  | timeout =>
      simp only [ConnectionWait.hear, decided.timer]
      exact decided

theorem Decided.heard (decided : wait.Decided emitter timeoutMs first)
    (signals : List OpeningSignal) :
    (signals.foldl (ConnectionWait.hear emitter timeoutMs) wait).Decided emitter timeoutMs
      first := by
  induction signals generalizing wait with
  | nil => exact decided
  | cons signal rest ih => exact ih (decided.hear signal)

/-- The first signal decides. -/
theorem decided_of_heard (isFirst : signals.head? = some first) :
    (signals.foldl (hear emitter timeoutMs) waitForConnection).Decided emitter timeoutMs
      first := by
  rcases List.head?_eq_some_iff.mp isFirst with ⟨rest, rfl⟩
  exact (decided_hear first).heard rest

theorem settlement_heard :
    (signals.foldl (hear emitter timeoutMs) waitForConnection).settlement =
      signals.head?.map (outcome timeoutMs) := by
  cases signals with
  | nil => rfl
  | cons first rest => exact (decided_of_heard (by rfl)).settlement

theorem timer_heard :
    (signals.foldl (hear emitter timeoutMs) waitForConnection).timer = signals.isEmpty := by
  cases signals with
  | nil => rfl
  | cons first rest =>
      have isFirst : (first :: rest).head? = some first := rfl
      exact (decided_of_heard isFirst).timer

end ConnectionWait

inductive OpeningStage where
  | connecting
  | waiting
  | closing
  | returned
  | given

namespace OpeningAttempt

variable {Port : Type} {emitter : ConnectionEmitter} {timeoutMs : Nat}
  {attempt : OpeningAttempt Port}

/-- What failed is `connect()`, or the wait with its first signal. -/
def FailedWith (timeoutMs : Nat) (attempt : OpeningAttempt Port) (error : OpeningError) : Prop :=
  attempt.failure = some error ∧
    (attempt.connect = some (.rejected error) ∨ attempt.connect = some (.fulfilled ()) ∧
      attempt.signals.head?.map (ConnectionWait.outcome timeoutMs) = some (.rejected error))

def Untouched (attempt : OpeningAttempt Port) : Prop :=
  attempt.failure = none ∧ attempt.closeCalls = 0 ∧ attempt.closeSettled = false

/-- Closed once, after a failure. -/
def GivenUp (timeoutMs : Nat) (attempt : OpeningAttempt Port) : Prop :=
  attempt.closeCalls = 1 ∧ ∃ error, attempt.FailedWith timeoutMs error

def At (timeoutMs : Nat) (attempt : OpeningAttempt Port) : OpeningStage → Prop
  | .connecting => attempt.Untouched
  | .waiting => attempt.Untouched ∧ attempt.connect = some (.fulfilled ())
  | .closing => attempt.GivenUp timeoutMs
  | .returned => attempt.Untouched ∧ attempt.connect = some (.fulfilled ()) ∧
      attempt.signals.head? = some .connected
  | .given => attempt.GivenUp timeoutMs ∧ attempt.closeSettled = true

/-- The wait is what its signals made of it. -/
def Heard (emitter : ConnectionEmitter) (timeoutMs : Nat) (attempt : OpeningAttempt Port) : Prop :=
  attempt.wait =
    attempt.signals.foldl (ConnectionWait.hear emitter timeoutMs) .waitForConnection

/-- The promises that have settled, the closings and the failure are those of before. -/
structure Extends (before after : OpeningAttempt Port) : Prop where
  port : after.port = before.port
  failure : after.failure = before.failure
  closeCalls : after.closeCalls = before.closeCalls
  connect : ∀ outcome, before.connect = some outcome → after.connect = some outcome
  signals : ∀ signal, before.signals.head? = some signal → after.signals.head? = some signal
  closeSettled : before.closeSettled = true → after.closeSettled = true
  unclosed : before.closeCalls = 0 → after.closeSettled = before.closeSettled

variable {before after : OpeningAttempt Port}

theorem GivenUp.extends (givenUp : before.GivenUp timeoutMs) (kept : Extends before after) :
    after.GivenUp timeoutMs := by
  rcases givenUp with ⟨closed, error, failed, cause⟩
  refine ⟨kept.closeCalls.trans closed, error, kept.failure.trans failed, ?_⟩
  rcases cause with rejected | ⟨fulfilled, heard⟩
  · exact Or.inl (kept.connect _ rejected)
  · rcases Option.map_eq_some_iff.mp heard with ⟨first, isFirst, decided⟩
    refine Or.inr ⟨kept.connect _ fulfilled, ?_⟩
    simp only [kept.signals first isFirst, Option.map_some, decided]

theorem Untouched.extends (untouched : before.Untouched) (kept : Extends before after) :
    after.Untouched :=
  ⟨kept.failure.trans untouched.1, kept.closeCalls.trans untouched.2.1,
    (kept.unclosed untouched.2.1).trans untouched.2.2⟩

theorem At.extends {stage : OpeningStage} (isAt : before.At timeoutMs stage)
    (kept : Extends before after) : after.At timeoutMs stage := by
  cases stage with
  | connecting => exact Untouched.extends isAt kept
  | waiting => exact ⟨isAt.1.extends kept, kept.connect _ isAt.2⟩
  | closing => exact GivenUp.extends isAt kept
  | returned =>
      exact ⟨isAt.1.extends kept, kept.connect _ isAt.2.1, kept.signals _ isAt.2.2⟩
  | given => exact ⟨isAt.1.extends kept, kept.closeSettled isAt.2⟩

theorem heard_new (port : Port) : (new port).Heard emitter timeoutMs := rfl

theorem Heard.hear (heard : attempt.Heard emitter timeoutMs) (signal : OpeningSignal) :
    (attempt.hear emitter timeoutMs signal).Heard emitter timeoutMs := by
  simp only [Heard, OpeningAttempt.hear, List.foldl_append, List.foldl_cons, List.foldl_nil]
  rw [← heard]

theorem extends_hear (signal : OpeningSignal) :
    Extends attempt (attempt.hear emitter timeoutMs signal) where
  port := rfl
  failure := rfl
  closeCalls := rfl
  connect := fun _ settled => settled
  signals := by
    intro first isFirst
    simp only [hear, List.head?_append, isFirst, Option.some_or]
  closeSettled := fun settled => settled
  unclosed := fun _ => rfl

theorem extends_connect (pending : attempt.connect = none)
    (outcome : Settlement Unit OpeningError) :
    Extends attempt { attempt with connect := some outcome } where
  port := rfl
  failure := rfl
  closeCalls := rfl
  connect := by
    intro outcome settled
    simp [pending] at settled
  signals := fun _ isFirst => isFirst
  closeSettled := fun settled => settled
  unclosed := fun _ => rfl

theorem extends_close (called : 0 < attempt.closeCalls) :
    Extends attempt { attempt with closeSettled := true } where
  port := rfl
  failure := rfl
  closeCalls := rfl
  connect := fun _ settled => settled
  signals := fun _ isFirst => isFirst
  closeSettled := fun _ => rfl
  unclosed := by
    intro uncalled
    exact absurd uncalled (Nat.ne_of_gt called)

/-- What the wait has settled with is the outcome of its first signal. -/
theorem Heard.settlement (heard : attempt.Heard emitter timeoutMs) :
    attempt.wait.settlement = attempt.signals.head?.map (ConnectionWait.outcome timeoutMs) := by
  rw [heard]
  exact ConnectionWait.settlement_heard

theorem Heard.timer (heard : attempt.Heard emitter timeoutMs) :
    attempt.wait.timer = attempt.signals.isEmpty := by
  rw [heard]
  exact ConnectionWait.timer_heard

theorem Heard.decided {first : OpeningSignal} (heard : attempt.Heard emitter timeoutMs)
    (isFirst : attempt.signals.head? = some first) :
    attempt.wait.Decided emitter timeoutMs first := by
  rw [heard]
  exact ConnectionWait.decided_of_heard isFirst

end OpeningAttempt

namespace OpeningPhase

/-- The attempt the call is at. -/
def current? : OpeningPhase → Option (Nat × OpeningStage)
  | .connecting number => some (number, .connecting)
  | .waiting number => some (number, .waiting)
  | .closing number => some (number, .closing)
  | .returned number => some (number, .returned)
  | .threw _ => none

/-- Attempts the call is not at have been given up. -/
def stage (phase : OpeningPhase) (number : Nat) : OpeningStage :=
  match phase.current? with
  | some (current, stage) => if number = current then stage else .given
  | none => .given

end OpeningPhase

namespace TransportOpening

variable {Port : Type} {emitter : ConnectionEmitter} {timeoutMs : Nat} {candidates : List Port}
  {opening after : TransportOpening Port}

/-- What the attempts say of the calls of `createConnection`. -/
def created (opening : TransportOpening Port) : List (Port × Option OpeningError) :=
  opening.attempts.map fun attempt => (attempt.port, none)

/-- What the last attempt failed with, or that there was none. -/
def LastFailure (opening : TransportOpening Port) (error : OpeningError) : Prop :=
  opening.attempts = [] ∧ error = .noPorts ∨
    ∃ attempt, opening.attempts.getLast? = some attempt ∧ attempt.failure = some error

/-- The candidates have run out, or `createConnection` has thrown for the next one. -/
def ThrewFor (opening : TransportOpening Port) (error : OpeningError) : Prop :=
  opening.untried = [] ∧ opening.creations = opening.created ∧ opening.LastFailure error ∨
    ∃ port rest, opening.untried = port :: rest ∧
      opening.creations = opening.created ++ [(port, some error)]

structure InOrder (emitter : ConnectionEmitter) (timeoutMs : Nat) (candidates : List Port)
    (opening : TransportOpening Port) : Prop where
  ports : opening.attempts.map OpeningAttempt.port ++ opening.untried = candidates
  attempts : ∀ number (attempt : OpeningAttempt Port), opening.attempts[number]? = some attempt →
    attempt.At timeoutMs (opening.phase.stage number) ∧ attempt.Heard emitter timeoutMs
  last : ∀ number stage, opening.phase.current? = some (number, stage) →
    number + 1 = opening.attempts.length
  closing : ∀ number, opening.phase = .closing number → opening.LastFailure opening.lastError
  creations : (∀ error, opening.phase ≠ .threw error) → opening.creations = opening.created
  threw : ∀ error, opening.phase = .threw error → opening.ThrewFor error

@[simp] theorem untried_modify (number : Nat)
    (change : OpeningAttempt Port → OpeningAttempt Port) :
    (opening.modify number change).untried = opening.untried := rfl

@[simp] theorem attempts_modify (number : Nat)
    (change : OpeningAttempt Port → OpeningAttempt Port) :
    (opening.modify number change).attempts = opening.attempts.modify number change := rfl

theorem map_modify {Value : Type} {field : OpeningAttempt Port → Value} {number : Nat}
    {attempt : OpeningAttempt Port} {change : OpeningAttempt Port → OpeningAttempt Port}
    (found : opening.attempts[number]? = some attempt)
    (same : field (change attempt) = field attempt) :
    (opening.attempts.modify number change).map field = opening.attempts.map field := by
  apply List.ext_getElem?
  intro other
  simp only [List.getElem?_map, List.getElem?_modify]
  by_cases isNumber : number = other
  · subst other
    simp [found, same]
  · simp [isNumber]

/-- Which attempt is found after one of them has changed. -/
theorem found_modify {number other : Nat} {attempt changed : OpeningAttempt Port}
    {change : OpeningAttempt Port → OpeningAttempt Port}
    (found : opening.attempts[number]? = some attempt)
    (foundAfter : (opening.attempts.modify number change)[other]? = some changed) :
    other = number ∧ changed = change attempt ∨
      other ≠ number ∧ opening.attempts[other]? = some changed := by
  by_cases isNumber : other = number
  · subst other
    simp only [List.getElem?_modify_eq, found, Option.map_eq_map, Option.map_some,
      Option.some.injEq] at foundAfter
    exact Or.inl ⟨rfl, foundAfter.symm⟩
  · rw [List.getElem?_modify_ne _ _ (Ne.symm isNumber)] at foundAfter
    exact Or.inr ⟨isNumber, foundAfter⟩

theorem lastFailure_congr {error : OpeningError}
    (same : after.attempts.map OpeningAttempt.failure =
      opening.attempts.map OpeningAttempt.failure) :
    after.LastFailure error ↔ opening.LastFailure error := by
  have none := congrArg (· = []) same
  have last := congrArg List.getLast? same
  simp only [List.map_eq_nil_iff, List.getLast?_map] at none last
  simp only [LastFailure, none, ← Option.map_eq_some_iff (f := OpeningAttempt.failure), last]

theorem created_modify {number : Nat} {attempt : OpeningAttempt Port}
    {change : OpeningAttempt Port → OpeningAttempt Port}
    (found : opening.attempts[number]? = some attempt)
    (samePort : (change attempt).port = attempt.port) :
    (opening.modify number change).created = opening.created :=
  map_modify found (congrArg (fun port => (port, none)) samePort)

/-- What the connection, the timer and the two promises do. -/
theorem InOrder.modify {number : Nat} {attempt : OpeningAttempt Port}
    {change : OpeningAttempt Port → OpeningAttempt Port}
    (inOrder : opening.InOrder emitter timeoutMs candidates)
    (found : opening.attempts[number]? = some attempt)
    (kept : attempt.Extends (change attempt)) (heard : (change attempt).Heard emitter timeoutMs) :
    (opening.modify number change).InOrder emitter timeoutMs candidates := by
  have failures : (opening.modify number change).attempts.map OpeningAttempt.failure =
      opening.attempts.map OpeningAttempt.failure := map_modify found kept.failure
  constructor
  · rw [attempts_modify, map_modify found kept.port]
    exact inOrder.ports
  · intro other changed foundAfter
    rcases found_modify found foundAfter with ⟨rfl, rfl⟩ | ⟨_, foundOther⟩
    · exact ⟨(inOrder.attempts other attempt found).1.extends kept, heard⟩
    · exact inOrder.attempts other changed foundOther
  · intro current stage isCurrent
    rw [attempts_modify, List.length_modify]
    exact inOrder.last current stage isCurrent
  · intro current isClosing
    exact (lastFailure_congr failures).mpr (inOrder.closing current isClosing)
  · intro pending
    rw [created_modify found kept.port]
    exact inOrder.creations pending
  · intro error threw
    rw [ThrewFor, created_modify found kept.port, lastFailure_congr failures]
    exact inOrder.threw error threw

/-- The call goes on at the same attempt. -/
theorem InOrder.proceed {number : Nat} {stage stageAfter : OpeningStage}
    {attempt : OpeningAttempt Port} {change : OpeningAttempt Port → OpeningAttempt Port}
    {phase : OpeningPhase} {error : OpeningError}
    (inOrder : opening.InOrder emitter timeoutMs candidates)
    (isCurrent : opening.phase.current? = some (number, stage))
    (found : opening.attempts[number]? = some attempt)
    (isCurrentAfter : phase.current? = some (number, stageAfter))
    (isAt : (change attempt).At timeoutMs stageAfter)
    (heard : (change attempt).Heard emitter timeoutMs)
    (samePort : (change attempt).port = attempt.port)
    (failed : phase = .closing number → (change attempt).failure = some error) :
    InOrder emitter timeoutMs candidates
      { opening.modify number change with lastError := error, phase } := by
  have isLast := inOrder.last number stage isCurrent
  constructor
  · rw [attempts_modify, map_modify found samePort]
    exact inOrder.ports
  · intro other changed foundAfter
    rcases found_modify found foundAfter with ⟨rfl, rfl⟩ | ⟨different, foundOther⟩
    · simp only [OpeningPhase.stage, isCurrentAfter, if_true]
      exact ⟨isAt, heard⟩
    · have before := inOrder.attempts other changed foundOther
      simp only [OpeningPhase.stage, isCurrent, isCurrentAfter, different, if_false] at before ⊢
      exact before
  · intro current stage isCurrent
    rw [isCurrentAfter] at isCurrent
    cases isCurrent
    rw [attempts_modify, List.length_modify]
    exact isLast
  · intro current isClosing
    have isNumber : current = number := by
      simp only at isClosing
      simp only [isClosing, OpeningPhase.current?, Option.some.injEq, Prod.mk.injEq]
        at isCurrentAfter
      exact isCurrentAfter.1
    subst current
    refine Or.inr ⟨change attempt, ?_, failed isClosing⟩
    rw [List.getLast?_eq_getElem?, attempts_modify, List.length_modify, ← isLast,
      Nat.add_sub_cancel, List.getElem?_modify_eq, found]
    rfl
  · intro _
    have pending : ∀ error, opening.phase ≠ .threw error := by
      intro error threw
      simp [threw, OpeningPhase.current?] at isCurrent
    exact (inOrder.creations pending).trans (created_modify found samePort).symm
  · intro other threw
    simp only at threw
    simp [threw, OpeningPhase.current?] at isCurrentAfter

/-- The loop goes on once every attempt has been given up. -/
theorem inOrder_tryNext (creationError : Option OpeningError)
    (ports : opening.attempts.map OpeningAttempt.port ++ opening.untried = candidates)
    (given : ∀ attempt ∈ opening.attempts,
      attempt.At timeoutMs .given ∧ attempt.Heard emitter timeoutMs)
    (creations : opening.creations = opening.created)
    (lastFailure : opening.LastFailure opening.lastError) :
    (opening.tryNext creationError).InOrder emitter timeoutMs candidates := by
  have stopped : ∀ error creations,
      ThrewFor { opening with creations, phase := .threw error } error →
      InOrder emitter timeoutMs candidates { opening with creations, phase := .threw error } := by
    intro error creations reason
    constructor
    · exact ports
    · intro number attempt found
      exact given attempt (List.mem_of_getElem? found)
    · intro number stage isCurrent
      cases isCurrent
    · intro number isClosing
      cases isClosing
    · intro pending
      exact absurd rfl (pending error)
    · intro other threw
      cases threw
      exact reason
  unfold tryNext
  split
  · rename_i untried
    exact stopped _ _ (Or.inl ⟨untried, creations, lastFailure⟩)
  · rename_i port rest error untried
    exact stopped _ _ (Or.inr ⟨port, rest, untried, congrArg (· ++ [(port, some error)]) creations⟩)
  · rename_i port rest untried
    constructor
    · simpa [untried, OpeningAttempt.new] using ports
    · intro number attempt found
      by_cases old : number < opening.attempts.length
      · simp only [List.getElem?_append_left old] at found
        simp only [OpeningPhase.stage, OpeningPhase.current?, Nat.ne_of_lt old, if_false]
        exact given attempt (List.mem_of_getElem? found)
      · obtain ⟨bound, -⟩ := List.getElem?_eq_some_iff.mp found
        simp only [List.length_append, List.length_singleton] at bound
        obtain rfl : number = opening.attempts.length := by omega
        simp only [List.getElem?_concat_length, Option.some.injEq] at found
        subst attempt
        simp only [OpeningPhase.stage, OpeningPhase.current?, if_true]
        exact ⟨⟨rfl, rfl, rfl⟩, OpeningAttempt.heard_new port⟩
    · intro number stage isCurrent
      cases isCurrent
      simp
    · intro number isClosing
      cases isClosing
    · intro _
      simp only [creations, created, List.map_append, List.map_cons, List.map_nil]
      rfl
    · intro error threw
      cases threw

theorem inOrder_openSerialConnection (creationError : Option OpeningError) :
    (openSerialConnection candidates creationError).InOrder emitter timeoutMs candidates := by
  apply inOrder_tryNext creationError
  · rfl
  · simp
  · rfl
  · exact Or.inl ⟨rfl, rfl⟩

theorem InOrder.resume {creationError : Option OpeningError}
    (inOrder : opening.InOrder emitter timeoutMs candidates)
    (resumes : opening.Resumes creationError after) :
    after.InOrder emitter timeoutMs candidates := by
  have isAt : ∀ {number : Nat} {stage : OpeningStage} {attempt : OpeningAttempt Port},
      opening.phase.current? = some (number, stage) →
      opening.attempts[number]? = some attempt →
      attempt.At timeoutMs stage ∧ attempt.Heard emitter timeoutMs := by
    intro number stage attempt isCurrent found
    simpa [OpeningPhase.stage, isCurrent] using inOrder.attempts number attempt found
  cases resumes with
  | @connected number attempt phase found fulfilled =>
      have isCurrent := congrArg OpeningPhase.current? phase
      have before := isAt isCurrent found
      exact inOrder.proceed isCurrent found rfl ⟨before.1, fulfilled⟩ before.2 rfl nofun
  | @connectFailed number attempt error phase found rejected =>
      have isCurrent := congrArg OpeningPhase.current? phase
      have before := isAt isCurrent found
      refine inOrder.proceed isCurrent found rfl ?_ before.2 rfl fun _ => rfl
      refine ⟨?_, error, rfl, Or.inl rejected⟩
      simp [OpeningAttempt.fail, before.1.2.1]
  | @ready number attempt phase found fulfilled =>
      have isCurrent := congrArg OpeningPhase.current? phase
      have before := isAt isCurrent found
      rw [before.2.settlement] at fulfilled
      have connected : attempt.signals.head? = some .connected := by
        rcases Option.map_eq_some_iff.mp fulfilled with ⟨first, isFirst, decided⟩
        cases first with
        | connected => exact isFirst
        | disconnected => cases decided
        | timeout => cases decided
      have proceeds : InOrder emitter timeoutMs candidates
          { opening.modify number id with
            lastError := opening.lastError
            phase := .returned number } :=
        inOrder.proceed isCurrent found rfl ⟨before.1.1, before.1.2, connected⟩ before.2 rfl nofun
      simpa only [TransportOpening.modify, List.modify_id] using proceeds
  | @waitFailed number attempt error phase found rejected =>
      have isCurrent := congrArg OpeningPhase.current? phase
      have before := isAt isCurrent found
      rw [before.2.settlement] at rejected
      refine inOrder.proceed isCurrent found rfl ?_ before.2 rfl fun _ => rfl
      refine ⟨?_, error, rfl, Or.inr ⟨before.1.2, rejected⟩⟩
      simp [OpeningAttempt.fail, before.1.1.2.1]
  | @closed number attempt phase found settled =>
      apply inOrder_tryNext creationError inOrder.ports
      · intro other otherMem
        rcases List.mem_iff_getElem?.mp otherMem with ⟨index, foundOther⟩
        have before := inOrder.attempts index other foundOther
        simp only [OpeningPhase.stage, phase, OpeningPhase.current?] at before
        split at before
        · subst index
          cases Option.some.inj (found.symm.trans foundOther)
          exact ⟨⟨before.1, settled⟩, before.2⟩
        · exact before
      · exact inOrder.creations (by simp [phase])
      · exact inOrder.closing number phase

theorem InOrder.step {event : OpeningEvent} (inOrder : opening.InOrder emitter timeoutMs candidates)
    (stepped : opening.step emitter timeoutMs event = some after) :
    after.InOrder emitter timeoutMs candidates := by
  cases steps_of_eq_some stepped with
  | @connectSettles number attempt outcome found pending =>
      have heard := (inOrder.attempts number attempt found).2
      exact inOrder.modify found (OpeningAttempt.extends_connect pending outcome) heard
  | @signals number attempt signal found armed =>
      have heard := (inOrder.attempts number attempt found).2
      exact inOrder.modify found (OpeningAttempt.extends_hear signal) (heard.hear signal)
  | @closeSettles number attempt found called pending =>
      have heard := (inOrder.attempts number attempt found).2
      exact inOrder.modify found (OpeningAttempt.extends_close called) heard
  | resumes resumes => exact inOrder.resume resumes

theorem inOrder_of_reachable {condition : TransportOpening Port → OpeningEvent → Prop}
    (reachable : (openingSystem emitter timeoutMs candidates).ReachableWhen condition opening) :
    opening.InOrder emitter timeoutMs candidates := by
  apply reachable.invariant
  · rintro first ⟨creationError, rfl⟩
    exact inOrder_openSerialConnection creationError
  · intro first event second inOrder _ stepped
    exact inOrder.step stepped

/-- The candidates are tried in their order, each after the one before has been closed. The
connection the call returns became ready, and where it throws none is left open: it throws what
the last attempt failed with, or what `createConnection` has thrown. -/
theorem opens_in_order
    (reachable : (openingSystem emitter timeoutMs candidates).Reachable opening) :
    opening.attempts.map OpeningAttempt.port ++ opening.untried = candidates ∧
    (∀ number (attempt : OpeningAttempt Port), opening.attempts[number]? = some attempt →
      number + 1 < opening.attempts.length ∨ (∃ error, opening.phase = .threw error) →
        attempt.GivenUp timeoutMs ∧ attempt.closeSettled = true) ∧
    (∀ number, opening.phase = .returned number → number + 1 = opening.attempts.length ∧
      ∃ attempt, opening.attempts[number]? = some attempt ∧
        attempt.connect = some (.fulfilled ()) ∧ attempt.signals.head? = some .connected ∧
        attempt.closeCalls = 0) ∧
    ∀ error, opening.phase = .threw error →
      opening.untried = [] ∧ opening.LastFailure error ∨
      ∃ port rest, opening.untried = port :: rest ∧
        opening.creations.getLast? = some (port, some error) := by
  have inOrder := inOrder_of_reachable reachable
  refine ⟨inOrder.ports, ?_, ?_, ?_⟩
  · intro number attempt found isOver
    have isAt := (inOrder.attempts number attempt found).1
    have given : opening.phase.stage number = .given := by
      simp only [OpeningPhase.stage]
      split
      · rename_i current stage isCurrent
        have isLast := inOrder.last current stage isCurrent
        rcases isOver with earlier | ⟨error, threw⟩
        · exact if_neg (by omega)
        · simp [threw, OpeningPhase.current?] at isCurrent
      · rfl
    rw [given] at isAt
    exact isAt
  · intro number returned
    have isCurrent : opening.phase.current? = some (number, .returned) := by
      rw [returned]
      rfl
    have isLast := inOrder.last number .returned isCurrent
    have found := List.getElem?_eq_getElem (l := opening.attempts) (i := number) (by omega)
    have isAt := (inOrder.attempts number _ found).1
    simp only [OpeningPhase.stage, isCurrent, if_true] at isAt
    exact ⟨isLast, _, found, isAt.2.1, isAt.2.2, isAt.1.2.1⟩
  · intro error threw
    rcases inOrder.threw error threw with ⟨untried, _, last⟩ | ⟨port, rest, untried, creations⟩
    · exact Or.inl ⟨untried, last⟩
    · exact Or.inr ⟨port, rest, untried, by simp [creations]⟩

def serialPorts : List Text := ["COM3".toList, "COM4".toList]

/-- The first port is lost before it is ready, the second becomes ready. -/
def secondOpens : List OpeningEvent :=
  [.connectSettles 0 (.fulfilled ()), .resumes none, .signals 0 .disconnected, .resumes none,
    .closeSettles 0, .resumes none, .connectSettles 1 (.fulfilled ()), .resumes none,
    .signals 1 .connected, .resumes none]

theorem initial_opening (candidates : List Port) :
    (openingSystem emitter timeoutMs candidates).Initial (openSerialConnection candidates none) :=
  ⟨none, rfl⟩

theorem initial_openTcpConnection (address : Port) (creationError : Option OpeningError) :
    (openingSystem emitter timeoutMs [address]).Initial (openTcpConnection address creationError) :=
  ⟨creationError, rfl⟩

theorem secondOpens_ran :
    ((openingSystem ⟨false⟩ 5000 serialPorts).run EventSystem.anyStep
      (openSerialConnection serialPorts none) secondOpens).isSome := by
  decide

/-- The state at the end of that run. -/
def secondOpened : TransportOpening Text :=
  ((openingSystem ⟨false⟩ 5000 serialPorts).run EventSystem.anyStep
    (openSerialConnection serialPorts none) secondOpens).get secondOpens_ran

theorem reachable_secondOpened :
    (openingSystem ⟨false⟩ 5000 serialPorts).Reachable secondOpened :=
  EventSystem.reachableWhen_get (initial_opening serialPorts) secondOpens_ran

theorem opens_in_order_of_secondOpens :
    secondOpened.attempts.map OpeningAttempt.port ++ [] = serialPorts ∧
      ∃ attempt, secondOpened.attempts[1]? = some attempt ∧
        attempt.signals.head? = some .connected ∧ attempt.closeCalls = 0 := by
  have inOrder := opens_in_order reachable_secondOpened
  rcases (inOrder.2.2.1 1 (by decide)).2 with ⟨attempt, found, _, first, unclosed⟩
  exact ⟨inOrder.1, attempt, found, first, unclosed⟩

end TransportOpening

end MeshcoreObserver
