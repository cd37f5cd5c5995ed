import MeshcoreObserver.Basic
import MeshcoreObserver.Radio.Backoff
import MeshcoreObserver.Transition.EventSystem
import MeshcoreObserver.Transition.SerialQueue
import Mathlib.Algebra.Group.Nat.Defs

/-!
# The radio manager

`RadioManager` with the event loop around it. A `#attemptConnect()` that has not
returned is an attempt, in the phase of the `await` it is suspended at; attempts
overlap when a second one is begun before the first returns. Connections are
numbered in the order `openTransport` returns them, and what has happened to
them is kept in lists: `close()` called, wired, `'disconnected'` emitted.

Every command goes through the command queue and settles after any delay, or
never. A listener of an emitted event may throw: out of `'radio.connected'` into
the `catch` block of the attempt, out of `'radio.error'` through it, and out of
`'radio.disconnected'` into the connection that emitted. What a device answers is
represented by the connection it was asked on.
-/

namespace MeshcoreObserver

open Transition

/-- Where a `#attemptConnect()` is suspended. -/
inductive AttemptPhase where
  | opening
  | handshaking (connection : Nat)
  | abandoning (connection : Nat)
  | readingClock (connection : Nat)
  | settingClock (connection : Nat)
  | querying (connection : Nat)
  | closing (connection : Nat)
  deriving DecidableEq, Repr

structure Attempt where
  number : Nat
  phase : AttemptPhase
  deriving DecidableEq, Repr

/-- Why a command is on the queue: for an attempt, or for a caller of `runCommand`. -/
inductive CommandPurpose where
  | getSelfInfo (attempt : Nat)
  | getDeviceTime (attempt : Nat)
  | setDeviceTime (attempt : Nat)
  | deviceQuery (attempt : Nat)
  | runCommand
  deriving DecidableEq, Repr

/-- A queued command and the connection it was bound to at its submission. -/
structure DeviceCommand where
  connection : Nat
  purpose : CommandPurpose
  deriving DecidableEq, Repr

/-- `#deviceInfo`: the connections its handshake part and its device-query part were read from. -/
structure DeviceInfo where
  selfInfo : Nat
  query : Option Nat
  deriving DecidableEq, Repr

structure ReconnectConfig where
  maxRetries : Nat
  initialDelayMs : Nat
  maxDelayMs : Nat
  deriving DecidableEq, Repr

structure RetryTimer where
  number : Nat
  delayMs : JsNumber
  deriving DecidableEq, Repr

structure RadioManager where
  connection : Option Nat
  deviceInfo : Option DeviceInfo
  running : Bool
  retryTimer : Option Nat
  attempt : Nat
  deriving DecidableEq, Repr

/-- What a run records: the emitted events, with the state of the manager at the emission where
it matters, and the calls of `stop()`. -/
inductive RadioEntry where
  | connected (info : Option DeviceInfo) (current : Option Nat) (running : Bool)
  | disconnected
  | packet (connection : Nat) (current : Option Nat)
  | error (fatal : Bool)
  | stopped
  deriving DecidableEq, Repr

/-- How the listeners of an emitted event end, and whether the flood-advert scheduler is among
those called before one of them throws. -/
inductive Listeners where
  | finish
  | throw (schedulerCalled : Bool)
  deriving DecidableEq, Repr

/-- The manager, its attempts and timers, the connections, the command queue, `#connected` of the
flood-advert scheduler, and the record, newest first. -/
structure RadioWorld where
  config : ReconnectConfig
  manager : RadioManager
  attempts : List Attempt
  nextAttempt : Nat
  timers : List RetryTimer
  nextTimer : Nat
  opened : Nat
  closed : List Nat
  wired : List Nat
  disconnected : List Nat
  commands : SerialQueue DeviceCommand
  schedulerConnected : Bool
  log : List RadioEntry
  deriving DecidableEq, Repr

/-- What can happen. `behind` tells whether the device clock is behind; the flags of a failure
tell whether a listener of `'radio.error'` throws, at the first and at the fatal emission. -/
inductive RadioEvent where
  | start
  | stop
  | transportOpens (attempt : Nat)
  | transportFails (attempt : Nat) (errorThrows fatalThrows : Bool)
  | commandStarts
  | commandSettles (outcome : Outcome) (behind : Bool) (listeners : Listeners)
  | closeSettles (attempt : Nat) (outcome : Outcome) (errorThrows fatalThrows : Bool)
  | disconnects (connection : Nat) (listeners : Listeners)
  | retryFires (timer : Nat)
  | pushes (connection : Nat)
  | runCommand
  deriving DecidableEq, Repr

namespace RadioWorld

def new (config : ReconnectConfig) : RadioWorld :=
  { config
    manager :=
      { connection := none, deviceInfo := none, running := false, retryTimer := none, attempt := 0 }
    attempts := [], nextAttempt := 0, timers := [], nextTimer := 0, opened := 0, closed := []
    wired := [], disconnected := [], commands := .empty, schedulerConnected := false, log := [] }

def setPhase (world : RadioWorld) (number : Nat) (phase : AttemptPhase) : RadioWorld :=
  { world with
    attempts := world.attempts.map fun attempt =>
      if attempt.number = number then { attempt with phase } else attempt }

def finishAttempt (world : RadioWorld) (number : Nat) : RadioWorld :=
  { world with attempts := world.attempts.filter fun attempt => attempt.number ≠ number }

def submit (world : RadioWorld) (connection : Nat) (purpose : CommandPurpose) : RadioWorld :=
  { world with commands := world.commands.submit ⟨connection, purpose⟩ }

def close (world : RadioWorld) (connection : Nat) : RadioWorld :=
  { world with closed := connection :: world.closed }

/-- `#attemptConnect()` up to its first `await`. -/
def attemptConnect (world : RadioWorld) : RadioWorld :=
  if world.manager.running then
    { world with
      attempts := world.attempts ++ [⟨world.nextAttempt, .opening⟩]
      nextAttempt := world.nextAttempt + 1 }
  else world

def start (world : RadioWorld) : RadioWorld :=
  if world.manager.running then world
  else attemptConnect { world with manager := { world.manager with running := true, attempt := 0 } }

def stop (world : RadioWorld) : RadioWorld :=
  { world with
    manager := { world.manager with connection := none, running := false, retryTimer := none }
    timers := world.timers.filter fun timer => world.manager.retryTimer ≠ some timer.number
    closed := world.manager.connection.toList ++ world.closed
    log := .stopped :: world.log }

def scheduleRetry (world : RadioWorld) (fatalThrows : Bool) : RadioWorld :=
  if world.manager.running then
    let attempt := world.manager.attempt + 1
    if world.config.maxRetries ≠ 0 ∧ world.config.maxRetries < attempt then
      { world with
        manager := { world.manager with attempt, running := fatalThrows }
        log := .error true :: world.log }
    else
      { world with
        manager := { world.manager with attempt, retryTimer := some world.nextTimer }
        timers := world.timers ++ [⟨world.nextTimer,
          computeBackoffDelay attempt world.config.initialDelayMs world.config.maxDelayMs⟩]
        nextTimer := world.nextTimer + 1 }
  else world

/-- The end of the `catch` block of an attempt. -/
def reportFailure (world : RadioWorld) (number : Nat) (errorThrows fatalThrows : Bool) :
    RadioWorld :=
  let reported := { world with log := .error false :: world.log }.finishAttempt number
  if errorThrows then reported else reported.scheduleRetry fatalThrows

/-- The start of the `catch` block of an attempt that has a connection. -/
def closeAfterError (world : RadioWorld) (number connection : Nat) : RadioWorld :=
  (world.close connection).setPhase number (.closing connection)

def publish (world : RadioWorld) (number connection : Nat) : RadioWorld :=
  if world.manager.running then
    (submit { world with
      manager := { world.manager with
        connection := some connection, deviceInfo := some ⟨connection, none⟩, attempt := 0 }
      wired := connection :: world.wired } connection (.getDeviceTime number)).setPhase number
        (.readingClock connection)
  else (world.close connection).setPhase number (.abandoning connection)

/-- `#fetchDeviceQuery(connection)` up to its `await`. -/
def fetchDeviceQuery (world : RadioWorld) (number connection : Nat) : RadioWorld :=
  (world.submit connection (.deviceQuery number)).setPhase number (.querying connection)

/-- `#fetchDeviceQuery(connection)` from its `await` on. -/
def readDeviceQuery (world : RadioWorld) (connection : Nat) (outcome : Outcome) : RadioWorld :=
  match outcome with
  | .resolved =>
      { world with
        manager := { world.manager with
          deviceInfo := world.manager.deviceInfo.map fun info =>
            { info with query := some connection } } }
  | .rejected => world

/-- `this.emit('radio.connected', this.#deviceInfo)` and the end of the attempt. -/
def emitConnected (world : RadioWorld) (number connection : Nat) (listeners : Listeners) :
    RadioWorld :=
  let emitted := { world with
    log := .connected world.manager.deviceInfo world.manager.connection world.manager.running ::
      world.log }
  match listeners with
  | .finish => { emitted with schedulerConnected := true }.finishAttempt number
  | .throw schedulerCalled =>
      { emitted with
        schedulerConnected := schedulerCalled || world.schedulerConnected }.closeAfterError
          number connection

def continueWith (world : RadioWorld) (command : DeviceCommand) (outcome : Outcome)
    (behind : Bool) (listeners : Listeners) : RadioWorld :=
  match command.purpose, outcome with
  | .getSelfInfo number, .resolved => world.publish number command.connection
  | .getSelfInfo number, .rejected => world.closeAfterError number command.connection
  | .getDeviceTime number, .resolved =>
      if behind then
        (world.submit command.connection (.setDeviceTime number)).setPhase number
          (.settingClock command.connection)
      else world.fetchDeviceQuery number command.connection
  | .getDeviceTime number, .rejected => world.fetchDeviceQuery number command.connection
  | .setDeviceTime number, _ => world.fetchDeviceQuery number command.connection
  | .deviceQuery number, _ =>
      (world.readDeviceQuery command.connection outcome).emitConnected number command.connection
        listeners
  | .runCommand, _ => world

/-- The `'disconnected'` handler of the current connection. -/
def loseConnection (world : RadioWorld) (listeners : Listeners) : RadioWorld :=
  let emitted := { world with
    manager := { world.manager with connection := none }
    log := .disconnected :: world.log }
  match listeners with
  | .throw schedulerCalled =>
      { emitted with schedulerConnected := !schedulerCalled && world.schedulerConnected }
  | .finish =>
      let heard := { emitted with schedulerConnected := false }
      if world.manager.running then
        attemptConnect { heard with manager := { heard.manager with attempt := 0 } }
      else heard

def step (world : RadioWorld) : RadioEvent → Option RadioWorld
  | .start => some world.start
  | .stop => some world.stop
  | .transportOpens number =>
      if ⟨number, .opening⟩ ∈ world.attempts then
        some ((submit { world with opened := world.opened + 1 } world.opened
          (.getSelfInfo number)).setPhase number (.handshaking world.opened))
      else none
  | .transportFails number errorThrows fatalThrows =>
      if ⟨number, .opening⟩ ∈ world.attempts then
        some (world.reportFailure number errorThrows fatalThrows)
      else none
  | .commandStarts => world.commands.start.map fun commands => { world with commands }
  | .commandSettles outcome behind listeners =>
      world.commands.running.map fun command =>
        continueWith { world with commands := { world.commands with running := none } }
          command outcome behind listeners
  | .closeSettles number outcome errorThrows fatalThrows =>
      match (world.attempts.find? fun attempt => attempt.number = number).map Attempt.phase with
      | some (.closing _) => some (world.reportFailure number errorThrows fatalThrows)
      | some (.abandoning connection) =>
          match outcome with
          | .resolved => some (world.finishAttempt number)
          | .rejected => some (world.closeAfterError number connection)
      | _ => none
  | .disconnects connection listeners =>
      if connection < world.opened ∧ connection ∉ world.disconnected then
        let marked := { world with disconnected := connection :: world.disconnected }
        if connection ∈ world.wired ∧ world.manager.connection = some connection then
          some (marked.loseConnection listeners)
        else some marked
      else none
  | .retryFires number =>
      if number ∈ world.timers.map RetryTimer.number then
        some (attemptConnect { world with
          manager := { world.manager with retryTimer := none }
          timers := world.timers.filter fun timer => timer.number ≠ number })
      else none
  | .pushes connection =>
      if connection ∈ world.wired then
        some { world with log := .packet connection world.manager.connection :: world.log }
      else some world
  | .runCommand =>
      match world.manager.connection with
      | some connection => some (world.submit connection .runCommand)
      | none => some world

section Inversion

variable {world after : RadioWorld} {connection number : Nat}

theorem mem_of_find {number : Nat} {phase : AttemptPhase}
    (found : (world.attempts.find? fun attempt => attempt.number = number).map Attempt.phase =
      some phase) : ⟨number, phase⟩ ∈ world.attempts := by
  rcases Option.map_eq_some_iff.mp found with ⟨attempt, present, rfl⟩
  have same := List.find?_some present
  simp only [decide_eq_true_eq] at same
  subst number
  exact List.mem_of_find?_eq_some present

theorem pushes_eq_some (stepped : world.step (.pushes connection) = some after) :
    after = world ∨ connection ∈ world.wired ∧
      after = { world with log := .packet connection world.manager.connection :: world.log } := by
  simp only [step] at stepped
  split at stepped
  · rename_i wired
    exact .inr ⟨wired, (Option.some.inj stepped).symm⟩
  · exact .inl (Option.some.inj stepped).symm

theorem runCommand_eq_some (stepped : world.step .runCommand = some after) :
    after = world ∨ ∃ connection, world.manager.connection = some connection ∧
      after = world.submit connection .runCommand := by
  simp only [step] at stepped
  split at stepped
  · rename_i connection current
    exact .inr ⟨connection, current, (Option.some.inj stepped).symm⟩
  · exact .inl (Option.some.inj stepped).symm

theorem transportOpens_eq_some (stepped : world.step (.transportOpens number) = some after) :
    ⟨number, .opening⟩ ∈ world.attempts ∧
      after = (submit { world with opened := world.opened + 1 } world.opened
        (.getSelfInfo number)).setPhase number (.handshaking world.opened) := by
  simp only [step, Option.ite_none_right_eq_some, Option.some.injEq] at stepped
  exact ⟨stepped.1, stepped.2.symm⟩

theorem transportFails_eq_some {errorThrows fatalThrows : Bool}
    (stepped : world.step (.transportFails number errorThrows fatalThrows) = some after) :
    ⟨number, .opening⟩ ∈ world.attempts ∧
      after = world.reportFailure number errorThrows fatalThrows := by
  simp only [step, Option.ite_none_right_eq_some, Option.some.injEq] at stepped
  exact ⟨stepped.1, stepped.2.symm⟩

theorem commandStarts_eq_some (stepped : world.step .commandStarts = some after) :
    ∃ commands, world.commands.start = some commands ∧ after = { world with commands } := by
  simp only [step, Option.map_eq_some_iff] at stepped
  rcases stepped with ⟨commands, starts, rfl⟩
  exact ⟨commands, starts, rfl⟩

theorem commandSettles_eq_some {outcome : Outcome} {behind : Bool} {listeners : Listeners}
    (stepped : world.step (.commandSettles outcome behind listeners) = some after) :
    ∃ command, world.commands.running = some command ∧
      after = continueWith { world with commands := { world.commands with running := none } }
        command outcome behind listeners := by
  simp only [step, Option.map_eq_some_iff] at stepped
  rcases stepped with ⟨command, running, rfl⟩
  exact ⟨command, running, rfl⟩

theorem retryFires_eq_some (stepped : world.step (.retryFires number) = some after) :
    number ∈ world.timers.map RetryTimer.number ∧
      after = attemptConnect { world with
        manager := { world.manager with retryTimer := none }
        timers := world.timers.filter fun timer => timer.number ≠ number } := by
  simp only [step, Option.ite_none_right_eq_some, Option.some.injEq] at stepped
  exact ⟨stepped.1, stepped.2.symm⟩

theorem closeSettles_eq_some {outcome : Outcome} {errorThrows fatalThrows : Bool}
    (stepped : world.step (.closeSettles number outcome errorThrows fatalThrows) = some after) :
    (∃ connection, ⟨number, .closing connection⟩ ∈ world.attempts ∧
        after = world.reportFailure number errorThrows fatalThrows) ∨
      ∃ connection, ⟨number, .abandoning connection⟩ ∈ world.attempts ∧
        (after = world.finishAttempt number ∨
          after = world.closeAfterError number connection) := by
  simp only [step] at stepped
  split at stepped
  · rename_i connection found
    exact .inl ⟨connection, mem_of_find found, (Option.some.inj stepped).symm⟩
  · rename_i connection found
    refine .inr ⟨connection, mem_of_find found, ?_⟩
    cases outcome with
    | resolved => exact .inl (Option.some.inj stepped).symm
    | rejected => exact .inr (Option.some.inj stepped).symm
  · cases stepped

theorem disconnects_eq_some {listeners : Listeners}
    (stepped : world.step (.disconnects connection listeners) = some after) :
    connection < world.opened ∧
      ((connection ∈ world.wired ∧ world.manager.connection = some connection) ∧
          after =
            loseConnection { world with disconnected := connection :: world.disconnected }
              listeners ∨
        ¬(connection ∈ world.wired ∧ world.manager.connection = some connection) ∧
          after = { world with disconnected := connection :: world.disconnected }) := by
  simp only [step, Option.ite_none_right_eq_some] at stepped
  rcases stepped with ⟨⟨opened, _⟩, stepped⟩
  refine ⟨opened, ?_⟩
  split at stepped
  · rename_i lost
    exact .inl ⟨lost, (Option.some.inj stepped).symm⟩
  · rename_i kept
    exact .inr ⟨kept, (Option.some.inj stepped).symm⟩

end Inversion

theorem attemptConnect_spec (world : RadioWorld) :
    ∃ attempts nextAttempt, world.attemptConnect = { world with attempts, nextAttempt } ∧
      ∀ attempt ∈ attempts, attempt ∈ world.attempts ∨ attempt.phase = .opening := by
  simp only [RadioWorld.attemptConnect]
  split
  · refine ⟨_, _, rfl, ?_⟩
    intro attempt attemptMem
    rcases List.mem_append.mp attemptMem with old | new
    · exact Or.inl old
    · rw [List.mem_singleton] at new
      subst attempt
      exact Or.inr rfl
  · exact ⟨world.attempts, world.nextAttempt, rfl, fun _ attemptMem => Or.inl attemptMem⟩

theorem scheduleRetry_spec (world : RadioWorld) (fatalThrows : Bool) :
    ∃ manager timers nextTimer entries,
      world.scheduleRetry fatalThrows =
        { world with manager, timers, nextTimer, log := entries ++ world.log } ∧
      manager.connection = world.manager.connection ∧
      ∀ entry ∈ entries, ∃ fatal, entry = .error fatal := by
  simp only [RadioWorld.scheduleRetry]
  split
  · split
    · refine ⟨_, world.timers, world.nextTimer, [.error true], rfl, rfl, ?_⟩
      simp
    · exact ⟨_, _, _, [], rfl, rfl, nofun⟩
  · exact ⟨world.manager, world.timers, world.nextTimer, [], rfl, rfl, nofun⟩

theorem reportFailure_spec (world : RadioWorld) (number : Nat) (errorThrows fatalThrows : Bool) :
    ∃ manager timers nextTimer entries,
      world.reportFailure number errorThrows fatalThrows =
        { world.finishAttempt number with
          manager, timers, nextTimer, log := entries ++ world.log } ∧
      manager.connection = world.manager.connection ∧
      ∀ entry ∈ entries, ∃ fatal, entry = .error fatal := by
  simp only [RadioWorld.reportFailure]
  split
  · refine ⟨world.manager, world.timers, world.nextTimer, [.error false], rfl, rfl, ?_⟩
    simp
  · rcases scheduleRetry_spec ({ world with log := .error false :: world.log }.finishAttempt number)
      fatalThrows with ⟨manager, timers, nextTimer, entries, same, connection, errors⟩
    refine ⟨manager, timers, nextTimer, entries ++ [.error false], ?_, connection, ?_⟩
    · rw [same]
      simp [finishAttempt]
    · intro entry entryMem
      rcases List.mem_append.mp entryMem with retry | error
      · exact errors entry retry
      · rw [List.mem_singleton] at error
        subst entry
        simp

end RadioWorld

/-- One process, from the construction of its manager on. -/
def radioSystem (config : ReconnectConfig) : EventSystem RadioWorld RadioEvent where
  Initial world := world = .new config
  step := RadioWorld.step

end MeshcoreObserver
