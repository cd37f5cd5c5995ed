import MeshcoreObserver.Radio.OneConnection
import MeshcoreObserver.Radio.RetryRows

/-!
# The retry policy

`RadioManager` with the record of its connect procedure. `#attempt` counts the
failures of the row, from three places that reset it and one that counts, and
what the manager may do next is told by the last mark: an attempt is under way, a
retry waits, a connection is there, or the procedure has ended. So a record keeps
the policy exactly when each of its retries has a delay that is a number and that
a timer can wait for.
-/

namespace MeshcoreObserver

open Transition

def RadioEntry.errorMark : RadioEntry → Option RetryMark
  | .error false => some .failed
  | .error true => some .gaveUp
  | _ => none

def connectionMarks (before after : Option Nat) : List RetryMark :=
  if before = after then []
  else (after.map fun _ => RetryMark.connected).toList ++
    (before.map fun _ => RetryMark.disconnected).toList

namespace RadioWorld

/-- What a step shows of the connect procedure, newest first: the attempt it begins, the retry it
arms, the errors it emits, the change of the connection and the start. -/
def retryMarks (before after : RadioWorld) : List RetryMark :=
  List.replicate (after.nextAttempt - before.nextAttempt) .attempted ++
    (after.timers.filter fun timer => before.nextTimer ≤ timer.number).map
      (fun timer => .armed timer.delayMs) ++
    (after.log.take (after.log.length - before.log.length)).filterMap RadioEntry.errorMark ++
    connectionMarks before.manager.connection after.manager.connection ++
    if after.manager.running && !before.manager.running then [.started] else []

/-- No `stop()`; a connection is lost only when the attempt that made it has announced it; and
listeners return. -/
def Uninterrupted (world : RadioWorld) : RadioEvent → Prop
  | .stop => False
  | .transportFails _ errorThrows fatalThrows => errorThrows = false ∧ fatalThrows = false
  | .closeSettles _ _ errorThrows fatalThrows => errorThrows = false ∧ fatalThrows = false
  | .commandSettles _ _ listeners => listeners = .finish
  | .disconnects connection listeners =>
      listeners = .finish ∧ (world.manager.connection = some connection → world.attempts = [])
  | _ => True

instance (world : RadioWorld) (event : RadioEvent) : Decidable (world.Uninterrupted event) :=
  match event with
  | .stop => inferInstanceAs (Decidable False)
  | .transportFails .. | .closeSettles .. => inferInstanceAs (Decidable (_ ∧ _))
  | .commandSettles .. => inferInstanceAs (Decidable (_ = _))
  | .disconnects .. => inferInstanceAs (Decidable (_ ∧ (_ → _)))
  | .start | .transportOpens _ | .commandStarts | .retryFires _ | .pushes _ | .runCommand =>
      inferInstanceAs (Decidable True)

end RadioWorld

/-- The radio system with the record of its connect procedure. -/
def retryHistory (config : ReconnectConfig) :
    EventSystem (Recorded RadioWorld RetryMark) RadioEvent :=
  (radioSystem config).recorded RadioWorld.retryMarks

def AttemptPhase.Connects : AttemptPhase → Prop
  | .opening | .handshaking _ | .closing _ => True
  | .abandoning _ | .readingClock _ | .settingClock _ | .querying _ => False

namespace RadioWorld

/-- Where the procedure is after the last mark of its record. -/
inductive RetryStage (world : RadioWorld) (last : Option RetryMark) : Prop where
  | idle (ended : last = none ∨ last = some .gaveUp) (stopped : world.manager.running = false)
      (unattempted : world.attempts = [])
  | attempting (number : Nat) (phase : AttemptPhase) (begun : last = some .attempted)
      (running : world.manager.running = true) (attempts : world.attempts = [⟨number, phase⟩])
      (connects : phase.Connects) (unconnected : world.manager.connection = none)
  | waiting (timer : RetryTimer) (armed : last = some (.armed timer.delayMs))
      (running : world.manager.running = true) (timers : world.timers = [timer])
  | connected (connection : Nat) (made : last = some .connected)
      (running : world.manager.running = true)
      (current : world.manager.connection = some connection)

/-- The record of a run obeys the policy, its errors are those emitted and its attempts those
begun, and the manager counts the failures of its row. -/
structure Follows (config : ReconnectConfig) (world : RadioWorld) (record : List RetryMark) :
    Prop where
  configured : world.config = config
  owned : world.Owned
  fresh : ∀ timer ∈ world.timers, timer.number < world.nextTimer
  stage : world.RetryStage record.head?
  counts : world.manager.running = true → world.manager.attempt = failuresInRow record
  errors : record.filter RetryMark.isError = world.log.filterMap RadioEntry.errorMark
  attempts : record.count .attempted = world.nextAttempt
  lawful : Lawful (RetryAllows config) record

theorem follows_new (config : ReconnectConfig) : Follows config (new config) [] where
  configured := rfl
  owned := owned_new config
  fresh := nofun
  stage := .idle (Or.inl rfl) rfl rfl
  counts := nofun
  errors := rfl
  attempts := rfl
  lawful := .nil

variable {config : ReconnectConfig} {world after : RadioWorld} {record : List RetryMark}
  {number : Nat}

theorem Follows.orderly (follows : Follows config world record) {event : RadioEvent}
    (uninterrupted : world.Uninterrupted event) : world.Orderly event := by
  cases event with
  | start =>
      cases follows.stage with
      | idle _ _ unattempted => exact Or.inr unattempted
      | attempting _ _ _ running => exact Or.inl running
      | waiting _ _ running => exact Or.inl running
      | connected _ _ running => exact Or.inl running
  | stop => exact uninterrupted.elim
  | commandSettles outcome behind listeners => exact fun _ => uninterrupted
  | disconnects connection listeners => exact uninterrupted.2
  | _ => trivial

/-- The step shows nothing, and an attempt that connects goes on connecting. -/
structure Unmarked (before after : RadioWorld) : Prop where
  config : after.config = before.config
  connection : after.manager.connection = before.manager.connection
  running : after.manager.running = before.manager.running
  attempt : after.manager.attempt = before.manager.attempt
  timers : after.timers = before.timers
  nextTimer : after.nextTimer = before.nextTimer
  nextAttempt : after.nextAttempt = before.nextAttempt
  log : ∃ entries, after.log = entries ++ before.log ∧
    entries.filterMap RadioEntry.errorMark = []
  unattempted : before.attempts = [] → after.attempts = []
  connects : ∀ number phase, before.attempts = [⟨number, phase⟩] → phase.Connects →
    ∃ next, after.attempts = [⟨number, next⟩] ∧ next.Connects

theorem Unmarked.retryMarks (unmarked : Unmarked world after)
    (fresh : ∀ timer ∈ world.timers, timer.number < world.nextTimer) :
    retryMarks world after = [] := by
  rcases unmarked.log with ⟨entries, log, silent⟩
  have old : (world.timers.filter fun timer => world.nextTimer ≤ timer.number) = [] := by
    apply List.filter_eq_nil_iff.mpr
    intro timer timerMem
    have before := fresh timer timerMem
    simp only [decide_eq_true_eq]
    omega
  simp [RadioWorld.retryMarks, unmarked.nextAttempt, unmarked.timers, unmarked.connection,
    unmarked.running, connectionMarks, log, silent, old]

theorem Follows.unmarked (follows : Follows config world record) (owned : after.Owned)
    (unmarked : Unmarked world after) :
    Follows config after (retryMarks world after ++ record) := by
  rw [unmarked.retryMarks follows.fresh, List.nil_append]
  exact
    { configured := unmarked.config.trans follows.configured
      owned
      fresh := by
        rw [unmarked.timers, unmarked.nextTimer]
        exact follows.fresh
      stage := by
        cases follows.stage with
        | idle ended stopped unattempted =>
            exact .idle ended (unmarked.running.trans stopped) (unmarked.unattempted unattempted)
        | attempting number phase begun running attempts connects unconnected =>
            rcases unmarked.connects number phase attempts connects with ⟨next, attempts, connects⟩
            exact .attempting number next begun (unmarked.running.trans running) attempts connects
              (unmarked.connection.trans unconnected)
        | waiting timer armed running timers =>
            exact .waiting timer armed (unmarked.running.trans running)
              (unmarked.timers.trans timers)
        | connected connection made running current =>
            exact .connected connection made (unmarked.running.trans running)
              (unmarked.connection.trans current)
      counts := by
        rw [unmarked.running, unmarked.attempt]
        exact follows.counts
      errors := by
        rcases unmarked.log with ⟨entries, log, silent⟩
        rw [log, List.filterMap_append, silent]
        exact follows.errors
      attempts := follows.attempts.trans unmarked.nextAttempt.symm
      lawful := follows.lawful }

theorem unmarked_setPhase {phase next : AttemptPhase}
    (attemptMem : ⟨number, phase⟩ ∈ world.attempts) (owned : world.Owned)
    (connects : phase.Connects → next.Connects) (unmarked : Unmarked world after)
    (attempts : after.attempts = world.attempts) : Unmarked world (after.setPhase number next) := by
  have only := (owned.attempts_eq attemptMem).1
  rw [setPhase_eq ⟨phase, attempts.trans only⟩]
  exact
    { unmarked with
      unattempted := by simp [only]
      connects := by
        intro other before same connecting
        simp only [only, List.cons.injEq, Attempt.mk.injEq, and_true] at same
        rcases same with ⟨rfl, rfl⟩
        exact ⟨next, rfl, connects connecting⟩ }

theorem unmarked_finishAttempt {phase : AttemptPhase}
    (attemptMem : ⟨number, phase⟩ ∈ world.attempts) (owned : world.Owned)
    (announces : ¬phase.Connects) (unmarked : Unmarked world after)
    (attempts : after.attempts = world.attempts) : Unmarked world (after.finishAttempt number) := by
  have only := (owned.attempts_eq attemptMem).1
  rw [finishAttempt_eq ⟨phase, attempts.trans only⟩]
  exact
    { unmarked with
      unattempted := fun _ => rfl
      connects := by
        intro other before same connecting
        simp only [only, List.cons.injEq, Attempt.mk.injEq, and_true] at same
        rcases same with ⟨rfl, rfl⟩
        exact absurd connecting announces }

theorem unmarked_refl (world : RadioWorld) : Unmarked world world where
  config := rfl
  connection := rfl
  running := rfl
  attempt := rfl
  timers := rfl
  nextTimer := rfl
  nextAttempt := rfl
  log := ⟨[], rfl, rfl⟩
  unattempted := id
  connects := fun _ phase attempts connects => ⟨phase, attempts, connects⟩

theorem unmarked_fetchDeviceQuery {phase : AttemptPhase}
    (attemptMem : ⟨number, phase⟩ ∈ world.attempts) (owned : world.Owned)
    (announces : ¬phase.Connects) (unmarked : Unmarked world after)
    (attempts : after.attempts = world.attempts) (connection : Nat) :
    Unmarked world (after.fetchDeviceQuery number connection) := by
  simp only [fetchDeviceQuery]
  apply unmarked_setPhase attemptMem owned
  · intro connects
    exact absurd connects announces
  · exact { unmarked with }
  · exact attempts

theorem unmarked_readDeviceQuery (unmarked : Unmarked world after) (connection : Nat)
    (outcome : Outcome) : Unmarked world (after.readDeviceQuery connection outcome) := by
  cases outcome with
  | resolved => exact { unmarked with }
  | rejected => exact unmarked

theorem unmarked_emitConnected {connection : Nat}
    (attemptMem : ⟨number, .querying connection⟩ ∈ world.attempts) (owned : world.Owned)
    (unmarked : Unmarked world after) (attempts : after.attempts = world.attempts) :
    Unmarked world (after.emitConnected number connection .finish) := by
  rcases unmarked.log with ⟨entries, log, silent⟩
  simp only [emitConnected]
  apply unmarked_finishAttempt attemptMem owned
  · exact id
  · exact
      { unmarked with
        log := by
          rw [log]
          exact ⟨_ :: entries, rfl, silent⟩ }
  · exact attempts

/-- A command that settles shows nothing, except when the handshake has made a connection. -/
theorem unmarked_continueWith {command : DeviceCommand} (owned : world.Owned)
    (served : command.Served world.attempts) (unmarked : Unmarked world after)
    (attempts : after.attempts = world.attempts) (outcome : Outcome) (behind : Bool) :
    Unmarked world (after.continueWith command outcome behind .finish) ∨
      ∃ number, ⟨number, .handshaking command.connection⟩ ∈ world.attempts ∧
        after.continueWith command outcome behind .finish =
          after.publish number command.connection := by
  rcases command with ⟨connection, purpose⟩
  cases purpose with
  | getSelfInfo number =>
      cases outcome with
      | resolved => exact Or.inr ⟨number, served, rfl⟩
      | rejected =>
          left
          simp only [RadioWorld.continueWith, closeAfterError]
          apply unmarked_setPhase served owned
          · exact fun _ => trivial
          · exact { unmarked with }
          · exact attempts
  | getDeviceTime number =>
      left
      have query := unmarked_fetchDeviceQuery served owned id unmarked attempts connection
      cases outcome with
      | resolved =>
          simp only [RadioWorld.continueWith]
          split
          · apply unmarked_setPhase served owned
            · exact fun connects => connects.elim
            · exact { unmarked with }
            · exact attempts
          · exact query
      | rejected => exact query
  | setDeviceTime number =>
      exact Or.inl (unmarked_fetchDeviceQuery served owned id unmarked attempts connection)
  | deviceQuery number =>
      left
      simp only [RadioWorld.continueWith]
      apply unmarked_emitConnected served owned
      · exact unmarked_readDeviceQuery unmarked connection outcome
      · cases outcome <;> exact attempts
  | runCommand => exact Or.inl unmarked

theorem attemptConnect_running (running : world.manager.running = true) :
    world.attemptConnect =
      { world with
        attempts := world.attempts ++ [⟨world.nextAttempt, .opening⟩]
        nextAttempt := world.nextAttempt + 1 } :=
  if_pos running

theorem retryMarks_attemptConnect {before : RadioWorld} {entries : List RadioEntry}
    (running : world.manager.running = true) (nextAttempt : world.nextAttempt = before.nextAttempt)
    (timers : world.timers = []) (log : world.log = entries ++ before.log)
    (silent : entries.filterMap RadioEntry.errorMark = []) :
    retryMarks before world.attemptConnect =
      .attempted :: (connectionMarks before.manager.connection world.manager.connection ++
        if before.manager.running then [] else [.started]) := by
  rw [attemptConnect_running running]
  cases wasRunning : before.manager.running <;>
    simp [retryMarks, running, wasRunning, nextAttempt, timers, log, silent]

theorem follows_attemptConnect (configured : world.config = config)
    (owned : world.attemptConnect.Owned) (running : world.manager.running = true)
    (attempts : world.attempts = []) (timers : world.timers = [])
    (unconnected : world.manager.connection = none)
    (counts : world.manager.attempt = failuresInRow record)
    (errors : record.filter RetryMark.isError = world.log.filterMap RadioEntry.errorMark)
    (begun : record.count .attempted = world.nextAttempt)
    (lawful : Lawful (RetryAllows config) record) (begins : RetryAllows config record .attempted) :
    Follows config world.attemptConnect (.attempted :: record) := by
  rw [attemptConnect_running running] at owned ⊢
  exact
    { configured
      owned
      fresh := by simp [timers]
      stage := .attempting world.nextAttempt .opening rfl running (by simp [attempts]) trivial
        unconnected
      counts := by
        intro _
        rw [failuresInRow_attempted]
        exact counts
      errors
      attempts := by rw [List.count_cons_self, begun]
      lawful := lawful.cons begins }

theorem Follows.ended (follows : Follows config world record)
    (stopped : world.manager.running = false) :
    (record.head? = none ∨ record.head? = some .gaveUp) ∧ world.attempts = [] := by
  rcases follows.stage with ⟨ended, _, unattempted⟩ | ⟨_, _, _, running⟩ | ⟨_, _, running⟩ |
    ⟨_, _, running⟩
  · exact ⟨ended, unattempted⟩
  all_goals simp [stopped] at running

theorem Follows.starts (follows : Follows config world record)
    (stopped : world.manager.running = false) :
    retryMarks world world.start = [.attempted, .started] ∧
      Follows config world.start (.attempted :: .started :: record) := by
  rcases follows.ended stopped with ⟨ended, unattempted⟩
  rcases follows.owned.idle stopped with ⟨unconnected, timers⟩
  have owned := follows.owned.start (Or.inr unattempted)
  have started : world.start = attemptConnect { world with
      manager := { world.manager with running := true, attempt := 0 } } := by
    simp [RadioWorld.start, stopped]
  rw [started] at owned ⊢
  constructor
  · rw [retryMarks_attemptConnect]
    · simp [connectionMarks, stopped]
    · rfl
    · rfl
    · exact timers
    · exact (List.nil_append _).symm
    · rfl
  · refine follows_attemptConnect follows.configured owned rfl unattempted timers unconnected ?_
      follows.errors follows.attempts (follows.lawful.cons ended) (Or.inl rfl)
    exact (failuresInRow_reset rfl).symm

theorem Follows.start (follows : Follows config world record) :
    Follows config world.start (retryMarks world world.start ++ record) := by
  cases running : world.manager.running with
  | true =>
      have same : world.start = world := if_pos running
      rw [same]
      exact follows.unmarked follows.owned (unmarked_refl world)
  | false =>
      rcases follows.starts running with ⟨marks, follows⟩
      rw [marks]
      exact follows

theorem Follows.retries (follows : Follows config world record) {timer : RetryTimer}
    (timers : world.timers = [timer])
    (stepped : world.step (.retryFires timer.number) = some after) :
    retryMarks world after = [.attempted] ∧ Follows config after (.attempted :: record) := by
  have owned := follows.owned.retryFires stepped
  rcases retryFires_eq_some stepped with ⟨_, rfl⟩
  have timerMem : timer ∈ world.timers := timers ▸ List.mem_singleton_self timer
  have unconnected := follows.owned.unconnected_of_timer timerMem
  have procedures := follows.owned.procedures
  simp only [timers, List.length_singleton] at procedures
  have attempts : world.attempts = [] := by
    apply List.eq_nil_of_length_eq_zero
    omega
  have cleared : (world.timers.filter fun other => other.number ≠ timer.number) = [] := by
    simp [timers]
  rw [cleared] at owned ⊢
  rcases follows.stage with ⟨_, stopped, _⟩ | ⟨_, _, _, _, attempting, _⟩ |
    ⟨only, armed, running, _⟩ | ⟨_, _, _, current⟩
  · simp [(follows.owned.idle stopped).2] at timerMem
  · simp [attempts] at attempting
  · constructor
    · rw [retryMarks_attemptConnect]
      · simp [connectionMarks, running]
      · exact running
      · rfl
      · rfl
      · exact (List.nil_append _).symm
      · rfl
    · exact follows_attemptConnect follows.configured owned running attempts rfl unconnected
        (follows.counts running) follows.errors follows.attempts follows.lawful
        (Or.inr (Or.inr ⟨only.delayMs, armed⟩))
  · simp [unconnected] at current

theorem Follows.retryFires (follows : Follows config world record)
    (stepped : world.step (.retryFires number) = some after) :
    Follows config after (retryMarks world after ++ record) := by
  rcases List.mem_map.mp (retryFires_eq_some stepped).1 with ⟨timer, timerMem, rfl⟩
  have procedures := follows.owned.procedures
  rcases List.length_eq_one_iff.mp (Nat.le_antisymm (by omega) (List.length_pos_of_mem timerMem))
    with ⟨only, timers⟩
  rw [timers, List.mem_singleton] at timerMem
  subst timer
  rcases follows.retries timers stepped with ⟨marks, follows⟩
  rw [marks]
  exact follows

theorem Follows.disconnects (follows : Follows config world record) {connection : Nat}
    (announced : world.manager.connection = some connection → world.attempts = [])
    (stepped : world.step (.disconnects connection .finish) = some after) :
    Follows config after (retryMarks world after ++ record) := by
  have owned := follows.owned.disconnects announced stepped
  rcases (disconnects_eq_some stepped).2 with ⟨⟨_, current⟩, rfl⟩ | ⟨_, rfl⟩
  · have timers := (follows.owned.current connection current).1
    have running : world.manager.running = true := by
      by_contra stopped
      simp [(follows.owned.idle (by simpa using stopped)).1] at current
    have made : record.head? = some .connected := by
      rcases follows.stage with ⟨_, stopped, _⟩ | ⟨_, _, _, _, _, _, unconnected⟩ |
        ⟨_, _, _, waiting⟩ | ⟨_, made, _, _⟩
      · simp [running] at stopped
      · simp [unconnected] at current
      · simp [timers] at waiting
      · exact made
    simp only [loseConnection, running, if_true] at owned ⊢
    rw [retryMarks_attemptConnect]
    · simp only [current, connectionMarks, running]
      refine follows_attemptConnect follows.configured owned rfl (announced current) timers rfl ?_
        follows.errors follows.attempts (follows.lawful.cons made) (Or.inr (Or.inl rfl))
      exact (failuresInRow_reset rfl).symm
    · rfl
    · rfl
    · exact timers
    · exact List.singleton_append.symm
    · rfl
  · exact follows.unmarked owned { unmarked_refl world with }

/-- An attempt is under way before there is a connection, or synchronises the one there is. -/
theorem Follows.attempt_cases (follows : Follows config world record) {phase : AttemptPhase}
    (attemptMem : ⟨number, phase⟩ ∈ world.attempts) :
    (phase.Connects ∧ record.head? = some .attempted ∧ world.manager.running = true ∧
        world.manager.connection = none) ∨
      ∃ connection, phase.Synchronises connection := by
  rcases follows.owned.attempts_eq attemptMem with ⟨only, timers⟩
  rcases follows.stage with ⟨_, _, unattempted⟩ |
    ⟨_, _, begun, running, attempts, connects, unconnected⟩ | ⟨_, _, _, waiting⟩ |
    ⟨connection, _, _, current⟩
  · simp [unattempted] at attemptMem
  · left
    rw [only, List.cons.injEq, Attempt.mk.injEq] at attempts
    rw [← attempts.1.2] at connects
    exact ⟨connects, begun, running, unconnected⟩
  · simp [timers] at waiting
  · right
    exact ⟨connection, (follows.owned.current connection current).2 _ attemptMem⟩

theorem Follows.attempting (follows : Follows config world record) {phase : AttemptPhase}
    (attemptMem : ⟨number, phase⟩ ∈ world.attempts) (connects : phase.Connects) :
    record.head? = some .attempted ∧ world.manager.running = true ∧
      world.manager.connection = none := by
  rcases follows.attempt_cases attemptMem with ⟨_, attempting⟩ | ⟨connection, synchronises⟩
  · exact attempting
  · rcases synchronises with rfl | rfl | rfl
    all_goals exact connects.elim

theorem reportFailure_gaveUp (running : world.manager.running = true)
    (attempts : ∃ phase, world.attempts = [⟨number, phase⟩])
    (limited : world.config.maxRetries ≠ 0)
    (exceeded : world.config.maxRetries < world.manager.attempt + 1) :
    world.reportFailure number false false =
      { world with
        manager := { world.manager with attempt := world.manager.attempt + 1, running := false }
        attempts := []
        log := .error true :: .error false :: world.log } := by
  have finished : finishAttempt { world with log := .error false :: world.log } number =
      { world with attempts := [], log := .error false :: world.log } := finishAttempt_eq attempts
  simp [RadioWorld.reportFailure, finished, RadioWorld.scheduleRetry, running, limited, exceeded]

theorem reportFailure_armed (running : world.manager.running = true)
    (attempts : ∃ phase, world.attempts = [⟨number, phase⟩]) (timers : world.timers = [])
    (within : world.config.maxRetries = 0 ∨
      world.manager.attempt + 1 ≤ world.config.maxRetries) :
    world.reportFailure number false false =
      { world with
        manager :=
          { world.manager with
            attempt := world.manager.attempt + 1
            retryTimer := some world.nextTimer }
        attempts := []
        timers := [⟨world.nextTimer, computeBackoffDelay (world.manager.attempt + 1)
          world.config.initialDelayMs world.config.maxDelayMs⟩]
        nextTimer := world.nextTimer + 1
        log := .error false :: world.log } := by
  have finished : finishAttempt { world with log := .error false :: world.log } number =
      { world with attempts := [], log := .error false :: world.log } := finishAttempt_eq attempts
  have kept : ¬(world.config.maxRetries ≠ 0 ∧
      world.config.maxRetries < world.manager.attempt + 1) := by omega
  simp only [RadioWorld.reportFailure, finished, Bool.false_eq_true, if_false]
  simp only [RadioWorld.scheduleRetry, running, if_neg kept, if_true, timers, List.nil_append]

theorem retryMarks_armed (running : world.manager.running = true)
    (attempts : ∃ phase, world.attempts = [⟨number, phase⟩]) (timers : world.timers = [])
    (within : world.config.maxRetries = 0 ∨
      world.manager.attempt + 1 ≤ world.config.maxRetries) :
    retryMarks world (world.reportFailure number false false) =
      [.armed (computeBackoffDelay (world.manager.attempt + 1) world.config.initialDelayMs
        world.config.maxDelayMs), .failed] := by
  simp [reportFailure_armed running attempts timers within, retryMarks, connectionMarks,
    RadioEntry.errorMark]

theorem Follows.arms (follows : Follows world.config world record)
    (begun : record.head? = some .attempted) (running : world.manager.running = true)
    (attempts : ∃ phase, world.attempts = [⟨number, phase⟩]) (timers : world.timers = [])
    (within : world.config.maxRetries = 0 ∨ world.manager.attempt + 1 ≤ world.config.maxRetries)
    (owned : (world.reportFailure number false false).Owned) :
    Follows world.config (world.reportFailure number false false)
      (retryMarks world (world.reportFailure number false false) ++ record) := by
  have counts := follows.counts running
  have failed : Lawful (RetryAllows world.config) (.failed :: record) := follows.lawful.cons begun
  rw [retryMarks_armed running attempts timers within]
  rw [reportFailure_armed running attempts timers within] at owned ⊢
  exact
    { configured := rfl
      owned
      fresh := by simp
      stage := .waiting _ rfl running rfl
      counts := by
        intro _
        simp only [List.cons_append, List.nil_append, failuresInRow_armed, failuresInRow_failed,
          counts]
      errors := congrArg (RetryMark.failed :: ·) follows.errors
      attempts := follows.attempts
      lawful := by
        apply failed.cons
        simp only [RetryAllows, failuresInRow_failed, ← counts]
        exact ⟨rfl, within, trivial⟩ }

theorem Follows.givesUp (follows : Follows world.config world record)
    (begun : record.head? = some .attempted) (running : world.manager.running = true)
    (attempts : ∃ phase, world.attempts = [⟨number, phase⟩]) (timers : world.timers = [])
    (limited : world.config.maxRetries ≠ 0)
    (exceeded : world.config.maxRetries < world.manager.attempt + 1)
    (owned : (world.reportFailure number false false).Owned) :
    Follows world.config (world.reportFailure number false false)
      (retryMarks world (world.reportFailure number false false) ++ record) := by
  have counts := follows.counts running
  have failed : Lawful (RetryAllows world.config) (.failed :: record) := follows.lawful.cons begun
  have gaveUp := reportFailure_gaveUp running attempts limited exceeded
  have marks : retryMarks world (world.reportFailure number false false) =
      [.gaveUp, .failed] := by
    have entries : world.log.length + 1 + 1 - world.log.length = 2 := by omega
    simp [gaveUp, retryMarks, timers, connectionMarks, RadioEntry.errorMark, entries]
  have bounded : failuresInRow record ≤ world.config.maxRetries := by
    apply (failuresInRow_le follows.lawful limited).resolve_right
    simp [begun]
  rw [marks]
  rw [gaveUp] at owned ⊢
  exact
    { configured := rfl
      owned
      fresh := follows.fresh
      stage := .idle (Or.inr rfl) rfl rfl
      counts := by
        intro stillRunning
        cases stillRunning
      errors := congrArg (RetryMark.gaveUp :: RetryMark.failed :: ·) follows.errors
      attempts := follows.attempts
      lawful := by
        apply failed.cons
        refine ⟨rfl, limited, ?_⟩
        rw [failuresInRow_failed]
        omega }

theorem Follows.reportFailure (follows : Follows config world record) {phase : AttemptPhase}
    (attemptMem : ⟨number, phase⟩ ∈ world.attempts) (connects : phase.Connects)
    (owned : (world.reportFailure number false false).Owned) :
    Follows config (world.reportFailure number false false)
      (retryMarks world (world.reportFailure number false false) ++ record) := by
  rcases follows.attempting attemptMem connects with ⟨begun, running, _⟩
  rcases follows.owned.attempts_eq attemptMem with ⟨attempts, timers⟩
  have configured := follows.configured
  subst config
  by_cases within : world.config.maxRetries = 0 ∨
      world.manager.attempt + 1 ≤ world.config.maxRetries
  · exact follows.arms begun running ⟨phase, attempts⟩ timers within owned
  · exact follows.givesUp begun running ⟨phase, attempts⟩ timers (by omega) (by omega) owned

theorem Follows.publish (follows : Follows config world record) {prior : RadioWorld}
    {connection : Nat} (attemptMem : ⟨number, .handshaking connection⟩ ∈ world.attempts)
    (same : prior = { world with commands := prior.commands })
    (owned : (prior.publish number connection).Owned) :
    Follows config (prior.publish number connection)
      (retryMarks world (prior.publish number connection) ++ record) := by
  rcases follows.attempting attemptMem trivial with ⟨begun, running, unconnected⟩
  rcases follows.owned.attempts_eq attemptMem with ⟨attempts, timers⟩
  have published : prior.publish number connection =
      { world with
        manager := { world.manager with
          connection := some connection, deviceInfo := some ⟨connection, none⟩, attempt := 0 }
        wired := connection :: world.wired
        commands := prior.commands.submit ⟨connection, .getDeviceTime number⟩
        attempts := [⟨number, .readingClock connection⟩] } := by
    rw [same]
    simp [RadioWorld.publish, running, submit, setPhase, attempts]
  have marks : retryMarks world (prior.publish number connection) = [.connected] := by
    simp [published, retryMarks, timers, unconnected, connectionMarks]
  rw [marks]
  rw [published] at owned ⊢
  exact
    { configured := follows.configured
      owned
      fresh := follows.fresh
      stage := .connected connection rfl running rfl
      counts := fun _ => (failuresInRow_reset rfl).symm
      errors := follows.errors
      attempts := follows.attempts
      lawful := follows.lawful.cons begun }

theorem Follows.commandSettles (follows : Follows config world record) {outcome : Outcome}
    {behind : Bool} (stepped : world.step (.commandSettles outcome behind .finish) = some after) :
    Follows config after (retryMarks world after ++ record) := by
  have owned := follows.owned.commandSettles stepped
  rcases commandSettles_eq_some stepped with ⟨command, running, rfl⟩
  have served : command.Served world.attempts := by
    apply follows.owned.queued.served
    simp [SerialQueue.tasks, running]
  have settled : Unmarked world
      { world with commands := { world.commands with running := none } } :=
    { unmarked_refl world with }
  rcases unmarked_continueWith follows.owned served settled rfl outcome behind with
    unmarked | ⟨number, attemptMem, published⟩
  · exact follows.unmarked owned unmarked
  · rw [published] at owned ⊢
    exact follows.publish attemptMem rfl owned

theorem Follows.closeSettles (follows : Follows config world record) {outcome : Outcome}
    (stepped : world.step (.closeSettles number outcome false false) = some after) :
    Follows config after (retryMarks world after ++ record) := by
  have owned := follows.owned.closeSettles stepped
  rcases closeSettles_eq_some stepped with ⟨connection, attemptMem, rfl⟩ |
    ⟨connection, attemptMem, _⟩
  · exact follows.reportFailure attemptMem trivial owned
  · rcases follows.attempt_cases attemptMem with ⟨connects, _⟩ | ⟨other, synchronises⟩
    · exact connects.elim
    · simp [AttemptPhase.Synchronises] at synchronises

theorem Follows.step (follows : Follows config world record) {event : RadioEvent}
    (uninterrupted : world.Uninterrupted event) (stepped : world.step event = some after) :
    Follows config after (retryMarks world after ++ record) := by
  have owned := follows.owned.step (follows.orderly uninterrupted) stepped
  cases event with
  | start =>
      simp only [RadioWorld.step, Option.some.injEq] at stepped
      subst after
      exact follows.start
  | stop => exact uninterrupted.elim
  | transportOpens number =>
      rcases transportOpens_eq_some stepped with ⟨attemptMem, rfl⟩
      apply follows.unmarked owned
      apply unmarked_setPhase attemptMem follows.owned
      · exact fun _ => trivial
      · exact { unmarked_refl world with }
      · rfl
  | transportFails number errorThrows fatalThrows =>
      rcases uninterrupted with ⟨rfl, rfl⟩
      rcases transportFails_eq_some stepped with ⟨attemptMem, rfl⟩
      exact follows.reportFailure attemptMem trivial owned
  | commandStarts =>
      rcases commandStarts_eq_some stepped with ⟨commands, _, rfl⟩
      exact follows.unmarked owned { unmarked_refl world with }
  | commandSettles outcome behind listeners =>
      simp only [Uninterrupted] at uninterrupted
      subst listeners
      exact follows.commandSettles stepped
  | closeSettles number outcome errorThrows fatalThrows =>
      rcases uninterrupted with ⟨rfl, rfl⟩
      exact follows.closeSettles stepped
  | disconnects connection listeners =>
      rcases uninterrupted with ⟨rfl, announced⟩
      exact follows.disconnects announced stepped
  | retryFires number => exact follows.retryFires stepped
  | pushes connection =>
      rcases pushes_eq_some stepped with rfl | ⟨_, rfl⟩
      · exact follows.unmarked owned (unmarked_refl _)
      · exact follows.unmarked owned { unmarked_refl world with log := ⟨[_], rfl, rfl⟩ }
  | runCommand =>
      rcases runCommand_eq_some stepped with rfl | ⟨connection, _, rfl⟩
      · exact follows.unmarked owned (unmarked_refl _)
      · exact follows.unmarked owned { unmarked_refl world with }

theorem follows_of_reachable {history : Recorded RadioWorld RetryMark}
    (reachable : (retryHistory config).ReachableWhen
      (fun history event => history.state.Uninterrupted event) history) :
    Follows config history.state history.record := by
  apply reachable.invariant
  · rintro ⟨world, record⟩ ⟨rfl, rfl⟩
    exact follows_new config
  · intro before event after follows uninterrupted stepped
    rcases EventSystem.recorded_eq_some stepped with ⟨world, moved, rfl⟩
    exact follows.step uninterrupted moved

end RadioWorld

/-- The retry policy of a run, told from its record, newest first. A fatal error ends exactly the
rows of one failure more than the limit, and only a start follows it; every other failure arms a
retry, which begins an attempt when it fires; the delays of a row double up to the ceiling, and
their timers wait for them, a millisecond at least. -/
structure KeepsRetryPolicy (config : ReconnectConfig) (history : Recorded RadioWorld RetryMark) :
    Prop where
  errors : history.record.filter RetryMark.isError =
    history.state.log.filterMap RadioEntry.errorMark
  attempts : history.record.count .attempted = history.state.nextAttempt
  fatal : ∀ later earlier, history.record = later ++ .failed :: earlier →
    ((∃ rest, later = rest ++ [.gaveUp]) ↔
      config.maxRetries ≠ 0 ∧ failuresInRow (.failed :: earlier) = config.maxRetries + 1)
  fatalAfterFailure : ∀ later earlier, history.record = later ++ .gaveUp :: earlier →
    config.maxRetries ≠ 0 ∧ ∃ before, earlier = .failed :: before
  unlimited : config.maxRetries = 0 → .gaveUp ∉ history.record
  final : ∀ later earlier, history.record = later ++ .gaveUp :: earlier →
    later = [] ∨ ∃ rest, later = rest ++ [.started]
  retried : ∀ later earlier, history.record = later ++ .failed :: earlier →
    config.maxRetries = 0 ∨ failuresInRow (.failed :: earlier) ≤ config.maxRetries →
      ∃ rest delayMs, later = rest ++ [.armed delayMs]
  delays : ∀ later earlier, history.record = later ++ earlier → ∀ index delayMs,
    (delaysInRow earlier)[index]? = some delayMs →
      delayMs = .finite (min (config.initialDelayMs * 2 ^ index) config.maxDelayMs : Nat) ∧
        timeoutMs delayMs = max 1 (min (config.initialDelayMs * 2 ^ index) config.maxDelayMs)
  sorted : ∀ later earlier, history.record = later ++ earlier → ∃ delays : List Nat,
    delaysInRow earlier = delays.map (fun delayMs => .finite delayMs) ∧
      (delaysInRow earlier).map timeoutMs = delays.map (max 1) ∧
      delays.Pairwise (· ≤ ·) ∧ ∀ delayMs ∈ delays, delayMs ≤ config.maxDelayMs
  waits : ∀ delayMs, history.record.head? = some (.armed delayMs) →
    ∃ number after, history.state.timers = [⟨number, delayMs⟩] ∧
      (retryHistory config).step history (.retryFires number) = some after ∧
      after.record = .attempted :: history.record
  restarts : history.record.head? = some .gaveUp →
    ∃ after, (retryHistory config).step history .start = some after ∧
      after.record = .attempted :: .started :: history.record ∧
      failuresInRow after.record = 0 ∧ after.state.manager.attempt = 0

namespace RadioWorld

variable {config : ReconnectConfig} {world : RadioWorld} {later earlier : List RetryMark}

/-- What follows a failure is its answer, and it depends on the length of the row. -/
theorem Follows.answer (follows : Follows config world (later ++ .failed :: earlier)) :
    (∃ rest, later = rest ++ [.gaveUp]) ∧ config.maxRetries ≠ 0 ∧
        failuresInRow (.failed :: earlier) = config.maxRetries + 1 ∨
      (∃ rest delayMs, later = rest ++ [.armed delayMs]) ∧
        (config.maxRetries = 0 ∨ failuresInRow (.failed :: earlier) ≤ config.maxRetries) := by
  rcases follows.lawful.next with rfl | ⟨rest, mark, rfl, allowed⟩
  · rcases follows.stage with ⟨ended, _, _⟩ | ⟨_, _, begun, _⟩ | ⟨_, armed, _⟩ | ⟨_, made, _⟩
    · simp at ended
    · simp at begun
    · simp at armed
    · simp at made
  · cases mark with
    | gaveUp => exact Or.inl ⟨⟨rest, rfl⟩, allowed.2⟩
    | armed delayMs => exact Or.inr ⟨⟨rest, delayMs, rfl⟩, allowed.2.1⟩
    | _ => simp [RetryAllows] at allowed

theorem Follows.fatal (follows : Follows config world (later ++ .failed :: earlier)) :
    (∃ rest, later = rest ++ [.gaveUp]) ↔
      config.maxRetries ≠ 0 ∧ failuresInRow (.failed :: earlier) = config.maxRetries + 1 := by
  rcases follows.answer with ⟨gaveUp, exceeded⟩ | ⟨⟨rest, delayMs, rfl⟩, within⟩
  · exact iff_of_true gaveUp exceeded
  · apply iff_of_false
    · rintro ⟨other, same⟩
      have last := (List.append_inj_right' same rfl)
      simp at last
    · omega

theorem Follows.retried (follows : Follows config world (later ++ .failed :: earlier))
    (within : config.maxRetries = 0 ∨ failuresInRow (.failed :: earlier) ≤ config.maxRetries) :
    ∃ rest delayMs, later = rest ++ [.armed delayMs] := by
  rcases follows.answer with ⟨_, exceeded⟩ | ⟨armed, _⟩
  · omega
  · exact armed

theorem Follows.fatalAfterFailure (follows : Follows config world (later ++ .gaveUp :: earlier)) :
    config.maxRetries ≠ 0 ∧ ∃ before, earlier = .failed :: before := by
  rcases follows.lawful.allows with ⟨failed, limited, _⟩
  exact ⟨limited, List.head?_eq_some_iff.mp failed⟩

theorem Follows.final (follows : Follows config world (later ++ .gaveUp :: earlier)) :
    later = [] ∨ ∃ rest, later = rest ++ [.started] := by
  rcases follows.lawful.next with rfl | ⟨rest, mark, rfl, allowed⟩
  · exact Or.inl rfl
  · cases mark with
    | started => exact Or.inr ⟨rest, rfl⟩
    | _ => simp [RetryAllows] at allowed

theorem Follows.waits {record : List RetryMark} (follows : Follows config world record)
    {delayMs : JsNumber} (last : record.head? = some (.armed delayMs)) :
    ∃ number after, world.timers = [⟨number, delayMs⟩] ∧
      (retryHistory config).step ⟨world, record⟩ (.retryFires number) = some after ∧
      after.record = .attempted :: record := by
  rcases follows.stage with ⟨ended, _, _⟩ | ⟨_, _, begun, _⟩ |
    ⟨⟨number, waiting⟩, armed, _, timers⟩ | ⟨_, made, _⟩
  · simp [last] at ended
  · simp [last] at begun
  · simp only [last, Option.some.injEq, RetryMark.armed.injEq] at armed
    subst waiting
    have fires : (world.step (.retryFires number)).isSome := by simp [RadioWorld.step, timers]
    rcases Option.isSome_iff_exists.mp fires with ⟨after, stepped⟩
    refine ⟨number, ⟨after, retryMarks world after ++ record⟩, timers, ?_, ?_⟩
    · exact EventSystem.recorded_step stepped
    · rw [(follows.retries timers stepped).1, List.singleton_append]
  · simp [last] at made

theorem Follows.restarts {record : List RetryMark} (follows : Follows config world record)
    (last : record.head? = some .gaveUp) :
    ∃ after, (retryHistory config).step ⟨world, record⟩ .start = some after ∧
      after.record = .attempted :: .started :: record ∧ failuresInRow after.record = 0 ∧
      after.state.manager.attempt = 0 := by
  have stopped : world.manager.running = false := by
    rcases follows.stage with ⟨_, stopped, _⟩ | ⟨_, _, begun, _⟩ | ⟨_, armed, _⟩ | ⟨_, made, _⟩
    · exact stopped
    · simp [last] at begun
    · simp [last] at armed
    · simp [last] at made
  rcases follows.starts stopped with ⟨marks, _⟩
  refine ⟨⟨world.start, retryMarks world world.start ++ record⟩, rfl, ?_⟩
  rw [marks]
  refine ⟨rfl, failuresInRow_attempted.trans (failuresInRow_reset rfl), ?_⟩
  simp [RadioWorld.start, stopped, RadioWorld.attemptConnect]

/-- Every retry of the record has a delay that the code computes and a timer waits for, told from
the failures that were answered by one. -/
def AllTimeable (config : ReconnectConfig) (record : List RetryMark) : Prop :=
  ∀ later earlier, record = later ++ .failed :: earlier →
    config.maxRetries = 0 ∨ failuresInRow (.failed :: earlier) ≤ config.maxRetries →
      Timeable config (failuresInRow (.failed :: earlier))

/-- The retries of every row so far are those that are meant. -/
theorem Follows.delays (follows : Follows config world (later ++ earlier))
    (timeable : AllTimeable config (later ++ earlier)) :
    ∃ count, delaysInRow earlier = retryDelays config count ∧
      ∀ last, count = last + 1 → Timeable config count := by
  have lawful := follows.lawful.earlier
  rcases delaysInRow_eq lawful with ⟨count, delays, _⟩
  refine ⟨count, delays, ?_⟩
  rintro last rfl
  rcases exists_answered lawful delays with ⟨between, before, rfl, failures, within⟩
  have answered := timeable (later ++ between) before (List.append_assoc _ _ _).symm
  rw [failures] at answered
  exact answered within

/-- A failure that was answered by a retry has one that is meant for it. -/
theorem Follows.timeable (follows : Follows config world (later ++ .failed :: earlier))
    (keeps : KeepsRetryPolicy config ⟨world, later ++ .failed :: earlier⟩)
    (within : config.maxRetries = 0 ∨ failuresInRow (.failed :: earlier) ≤ config.maxRetries) :
    Timeable config (failuresInRow (.failed :: earlier)) := by
  rcases follows.retried within with ⟨rest, delayMs, rfl⟩
  have record : rest ++ [.armed delayMs] ++ .failed :: earlier =
      rest ++ .armed delayMs :: .failed :: earlier := by
    rw [List.append_assoc, List.singleton_append]
  have lawful : Lawful (RetryAllows config) (rest ++ .armed delayMs :: .failed :: earlier) :=
    record ▸ follows.lawful
  rcases delaysInRow_eq lawful.earlier with ⟨count, delays, failures⟩
  rcases lawful.allows with ⟨_, _, computed⟩
  simp only [List.head?_cons, Option.some.injEq, reduceCtorEq, or_self, if_false,
    failuresInRow_armed] at failures
  rw [failures] at computed ⊢
  have positive : 1 ≤ count := by
    rw [← failures, failuresInRow_failed]
    omega
  obtain ⟨last, rfl⟩ : ∃ last, count = last + 1 := ⟨count - 1, by omega⟩
  have present : (delaysInRow (.armed delayMs :: .failed :: earlier))[last]? = some delayMs := by
    rw [delays, retryDelays_succ, computed]
    simp [retryDelays]
  have exact := keeps.delays rest _ record last delayMs present
  rw [timeable_iff, ← computed]
  exact exact

/-- The rest of the policy holds of every run. -/
theorem Follows.keepsRetryPolicy {record : List RetryMark} (follows : Follows config world record)
    (timeable : AllTimeable config record) : KeepsRetryPolicy config ⟨world, record⟩ where
  errors := follows.errors
  attempts := follows.attempts
  fatal := by
    rintro later earlier rfl
    exact follows.fatal
  fatalAfterFailure := by
    rintro later earlier rfl
    exact follows.fatalAfterFailure
  unlimited := by
    intro unlimited gaveUp
    rcases List.append_of_mem gaveUp with ⟨later, earlier, rfl⟩
    exact follows.fatalAfterFailure.1 unlimited
  final := by
    rintro later earlier rfl
    exact follows.final
  retried := by
    rintro later earlier rfl
    exact follows.retried
  delays := by
    rintro later earlier rfl index delayMs present
    rcases follows.delays timeable with ⟨count, delays, last⟩
    rw [delays] at present
    rcases retryDelays_getElem present with ⟨within, rfl⟩
    rcases Nat.exists_eq_add_of_lt within with ⟨rest, rfl⟩
    exact timeable_iff.mp ((last _ rfl).earlier (by omega))
  sorted := by
    rintro later earlier rfl
    rcases follows.delays timeable with ⟨count, delays, last⟩
    rcases retryDelays_eq last with ⟨computed, waited⟩
    rw [delays]
    exact ⟨_, computed, waited, cappedDelays_sorted count, cappedDelays_le count⟩
  waits := by
    intro delayMs last
    exact follows.waits last
  restarts := by
    intro last
    exact follows.restarts last

theorem Follows.keepsRetryPolicy_iff {record : List RetryMark}
    (follows : Follows config world record) :
    KeepsRetryPolicy config ⟨world, record⟩ ↔ AllTimeable config record := by
  constructor
  · rintro keeps later earlier rfl within
    exact follows.timeable keeps within
  · exact follows.keepsRetryPolicy

/-- In a run without `stop()` whose connections are lost only after they were announced and whose
listeners return, the retry policy holds exactly when each failure that was answered by a retry
is of a number that has a delay. -/
theorem keepsRetryPolicy_iff_timeable {history : Recorded RadioWorld RetryMark}
    (reachable : (retryHistory config).ReachableWhen
      (fun history event => history.state.Uninterrupted event) history) :
    KeepsRetryPolicy config history ↔ AllTimeable config history.record :=
  (follows_of_reachable reachable).keepsRetryPolicy_iff

/-- A delay that is not zero and a ceiling that a timer can wait for have all the delays that are
meant. -/
theorem allTimeable_of_bounds (positive : config.initialDelayMs ≠ 0)
    (ceiling : config.maxDelayMs ≤ timeoutMax) (record : List RetryMark) :
    AllTimeable config record :=
  fun _ _ _ _ => ⟨.inl positive, (Nat.min_le_right _ _).trans ceiling⟩

/-- A row of two retries that is given up, after one that a connection has ended. -/
theorem keepsRetryPolicy_of_twoRows :
    KeepsRetryPolicy ⟨2, 5, 8⟩ (((retryHistory ⟨2, 5, 8⟩).run
      (fun history event => history.state.Uninterrupted event) ⟨.new ⟨2, 5, 8⟩, []⟩
      [.start, .transportFails 0 false false, .retryFires 0, .transportOpens 1, .commandStarts,
        .commandSettles .rejected false .finish, .closeSettles 1 .resolved false false,
        .retryFires 1, .transportOpens 2, .commandStarts,
        .commandSettles .resolved false .finish, .commandStarts,
        .commandSettles .resolved false .finish, .commandStarts,
        .commandSettles .resolved false .finish, .disconnects 1 .finish,
        .transportFails 3 false false, .retryFires 2, .transportFails 4 false false, .retryFires 3,
        .transportFails 5 false false, .start]).get rfl) := by
  have starts : (retryHistory ⟨2, 5, 8⟩).Initial ⟨.new ⟨2, 5, 8⟩, []⟩ := ⟨rfl, rfl⟩
  apply (keepsRetryPolicy_iff_timeable (EventSystem.reachableWhen_get starts _)).mpr
  apply allTimeable_of_bounds
  · exact Nat.succ_ne_zero 4
  · decide

/-- A run whose next attempt may fail at `openTransport`, after so many failures in a row. -/
structure Failing (config : ReconnectConfig) (count : Nat) (history : Recorded RadioWorld RetryMark)
    (number : Nat) : Prop where
  reachable : (retryHistory config).ReachableWhen
    (fun history event => history.state.Uninterrupted event) history
  attempts : history.state.attempts = [⟨number, .opening⟩]
  failures : failuresInRow history.record = count

theorem failing_start (config : ReconnectConfig) : ∃ history, Failing config 0 history 0 := by
  have starts : (retryHistory config).Initial ⟨.new config, []⟩ := ⟨rfl, rfl⟩
  refine ⟨⟨start (new config), retryMarks (new config) (start (new config)) ++ []⟩, ?_, rfl, ?_⟩
  · exact ⟨_, starts, Relation.ReflTransGen.single ⟨.start, trivial, rfl⟩⟩
  · rw [((follows_new config).starts rfl).1]
    rfl

theorem Failing.fails {count : Nat} {history : Recorded RadioWorld RetryMark}
    (failing : Failing config count history number) (unlimited : config.maxRetries = 0) :
    ∃ world delayMs,
      (retryHistory config).ReachableWhen (fun history event => history.state.Uninterrupted event)
        ⟨world, .armed delayMs :: .failed :: history.record⟩ ∧
      world.attempts = [] ∧ world.manager.running = true := by
  rcases history with ⟨world, record⟩
  have follows := follows_of_reachable failing.reachable
  have attempts := failing.attempts
  have attemptMem : ⟨number, .opening⟩ ∈ world.attempts := attempts ▸ List.mem_singleton_self _
  have running := (follows.attempting attemptMem trivial).2.1
  have timers := (follows.owned.attempts_eq attemptMem).2
  have within : world.config.maxRetries = 0 ∨
      world.manager.attempt + 1 ≤ world.config.maxRetries := by
    rw [follows.configured]
    exact .inl unlimited
  have stepped : (retryHistory config).step ⟨world, record⟩ (.transportFails number false false) =
      some ⟨world.reportFailure number false false,
        retryMarks world (world.reportFailure number false false) ++ record⟩ :=
    EventSystem.recorded_step (if_pos attemptMem)
  rw [retryMarks_armed running ⟨_, attempts⟩ timers within] at stepped
  rcases failing.reachable with ⟨initial, starts, lead⟩
  refine ⟨_, _, ⟨initial, starts, lead.tail ⟨.transportFails number false false, ⟨rfl, rfl⟩,
    stepped⟩⟩, ?_⟩
  rw [reportFailure_armed running ⟨_, attempts⟩ timers within]
  exact ⟨rfl, running⟩

theorem Failing.again {count : Nat} {history : Recorded RadioWorld RetryMark}
    (failing : Failing config count history number) (unlimited : config.maxRetries = 0) :
    ∃ next number, Failing config (count + 1) next number := by
  rcases failing.fails unlimited with ⟨world, delayMs, reachable, unattempted, running⟩
  rcases (follows_of_reachable reachable).waits rfl with ⟨timer, ⟨after, record⟩, _, stepped, shown⟩
  rcases EventSystem.recorded_eq_some stepped with ⟨moved, fires, same⟩
  cases same
  rcases reachable with ⟨initial, starts, lead⟩
  have next := lead.tail ⟨.retryFires timer, trivial, stepped⟩
  refine ⟨_, world.nextAttempt, ⟨initial, starts, next⟩, ?_, ?_⟩
  · rcases retryFires_eq_some fires with ⟨_, rfl⟩
    simp only [RadioWorld.attemptConnect, running, unattempted, if_true, List.nil_append]
  · rw [shown, failuresInRow_attempted, failuresInRow_armed, failuresInRow_failed,
      failing.failures]

theorem exists_failing (unlimited : config.maxRetries = 0) (count : Nat) :
    ∃ history number, Failing config count history number := by
  induction count with
  | zero =>
      rcases failing_start config with ⟨history, failing⟩
      exact ⟨history, 0, failing⟩
  | succ count ih =>
      rcases ih with ⟨history, number, failing⟩
      exact failing.again unlimited

/-- Without a limit, a retry that has no delay is reached by a row of failures. -/
theorem exists_not_keepsRetryPolicy (unlimited : config.maxRetries = 0) (count : Nat)
    (untimeable : ¬Timeable config (count + 1)) :
    ∃ history, (retryHistory config).ReachableWhen
        (fun history event => history.state.Uninterrupted event) history ∧
      ¬KeepsRetryPolicy config history := by
  rcases exists_failing unlimited count with ⟨history, number, failing⟩
  rcases failing.fails unlimited with ⟨world, delayMs, reachable, _⟩
  refine ⟨_, reachable, fun keeps => untimeable ?_⟩
  have timeable := (follows_of_reachable reachable).keepsRetryPolicy_iff.mp keeps
  have failures : failuresInRow (.failed :: history.record) = count + 1 := by
    rw [failuresInRow_failed, failing.failures]
  rw [← failures]
  exact timeable [.armed delayMs] history.record rfl (.inl unlimited)

/-- Without an initial delay, the retry after the 1025th failure waits for `NaN`; with a ceiling of
thirty days, the one after the 23rd failure waits one millisecond. -/
theorem delays_fail :
    (∃ history, (retryHistory ⟨0, 0, 60000⟩).ReachableWhen
        (fun history event => history.state.Uninterrupted event) history ∧
      ¬KeepsRetryPolicy ⟨0, 0, 60000⟩ history) ∧
    ∃ history, (retryHistory ⟨0, 1000, 2592000000⟩).ReachableWhen
        (fun history event => history.state.Uninterrupted event) history ∧
      ¬KeepsRetryPolicy ⟨0, 1000, 2592000000⟩ history := by
  constructor
  · apply exists_not_keepsRetryPolicy rfl 1024
    intro timeable
    exact absurd timeable.factor (by decide)
  · apply exists_not_keepsRetryPolicy rfl 22
    intro timeable
    exact absurd timeable.timer (by decide)

end RadioWorld

end MeshcoreObserver
