import MeshcoreObserver.Basic
import MeshcoreObserver.Transition.EventSystem
import Mathlib.Algebra.Ring.Int.Defs

/-!
# The flood advert scheduler

One durable row holds the flood advert that is wanted or under way, and a
process at a time works on it: it asks for an advert at its first radio
connection and then on the configured cadence, waits for quiet air, claims the
request and sends the command. A process may end at any moment. An attempt it
leaves in `sending` is recovered by the next process.

A tick asks for the air synchronously and claims the request in a later
microtask, when the air was granted. Every clock reading is an argument of the
event that takes it, and an event is refused when its readings would go
backwards. The attempts are recorded with the process that started them.
-/

namespace MeshcoreObserver

open Transition

inductive AdvertStatus where
  | idle
  | pending
  | sending
  deriving DecidableEq, Repr

/-- The row of `flood_advert_state`. -/
structure FloodAdvertState where
  status : AdvertStatus
  requestedAt : Option Int
  attemptStartedAt : Option Int
  lastAttemptAt : Option Int
  lastSentAt : Option Int
  nextDueAt : Option Int
  deriving DecidableEq, Repr

namespace FloodAdvertState

def new : FloodAdvertState :=
  { status := .idle, requestedAt := none, attemptStartedAt := none, lastAttemptAt := none,
    lastSentAt := none, nextDueAt := none }

def requestFloodAdvert (row : FloodAdvertState) (requestedAt : Int) : FloodAdvertState :=
  if row.status = .idle then { row with status := .pending, requestedAt := some requestedAt }
  else row

/-- The claimed row, or `none` when there is no request to claim. -/
def startFloodAdvertAttempt (row : FloodAdvertState) (attemptStartedAt : Int) :
    Option FloodAdvertState :=
  if row.status = .pending then
    some
      { row with
        status := .sending
        attemptStartedAt := some attemptStartedAt
        lastAttemptAt := some attemptStartedAt }
  else none

def resolveFloodAdvertAttempt (row : FloodAdvertState) (resolvedAt intervalMs : Int)
    (sent : Bool) : FloodAdvertState :=
  if row.status = .sending then
    { row with
      status := .idle
      requestedAt := none
      attemptStartedAt := none
      lastSentAt := if sent then some resolvedAt else row.lastSentAt
      nextDueAt := some (resolvedAt + intervalMs) }
  else row

def recoverFloodAdvertAttempt (row : FloodAdvertState)
    (intervalMs uncertainAttemptIntervalMs : Int) : FloodAdvertState :=
  match row.status, row.attemptStartedAt with
  | .sending, some attemptStartedAt =>
      { row with
        status := .idle
        requestedAt := none
        attemptStartedAt := none
        lastAttemptAt := some attemptStartedAt
        nextDueAt := some (attemptStartedAt + max intervalMs uncertainAttemptIntervalMs) }
  | _, _ => row

/-- What the columns of a status hold. -/
structure WellFormed (row : FloodAdvertState) : Prop where
  idle : row.status = .idle → row.requestedAt = none ∧ row.attemptStartedAt = none
  pending : row.status = .pending → row.requestedAt.isSome ∧ row.attemptStartedAt = none
  sending : row.status = .sending → row.requestedAt.isSome ∧ row.attemptStartedAt.isSome

end FloodAdvertState

/-- Where a tick that was granted the air stands. -/
inductive AdvertTick where
  | granted
  | commanding
  | returned
  deriving DecidableEq, Repr

/-- A scheduler in its process; `#busy` holds while it has a tick. -/
structure AdvertProcess where
  number : Nat
  running : Bool
  connected : Bool
  timer : Bool
  startupRequested : Bool
  tick : Option AdvertTick
  deriving DecidableEq, Repr

/-- An attempt, with what its row said of the last advert sent. It is interrupted when its process
ends before it is resolved. -/
structure AdvertAttempt where
  process : Nat
  startedAt : Int
  lastSentAt : Option Int
  interrupted : Bool
  deriving DecidableEq, Repr

/-- The row, the process at work, the number of processes so far and the attempts, newest first. -/
structure AdvertWorld where
  row : FloodAdvertState
  process : Option AdvertProcess
  processes : Nat
  clock : Int
  attempts : List AdvertAttempt
  deriving DecidableEq, Repr

inductive AdvertEvent where
  | starts
  | exits
  | stop
  | radioConnected (now : Int)
  | radioDisconnected
  | tick (checkedAt requestedAt readyAt : Int) (quiet : Bool)
  | attemptStarts (now : Int)
  | commandSettles (outcome : Outcome) (now : Int)
  | tickEnds
  deriving DecidableEq, Repr

def hourMs : Int := 60 * 60 * 1000

/-- How long after an interrupted attempt no other one starts. -/
def uncertainAttemptIntervalMs (intervalMs : Int) : Int := max intervalMs (47 * hourMs)

namespace AdvertWorld

def new (now : Int) : AdvertWorld :=
  { row := .new, process := none, processes := 0, clock := now, attempts := [] }

/-- A fresh scheduler and its `start()`. -/
def starts (intervalMs : Int) (world : AdvertWorld) : Option AdvertWorld :=
  match world.process with
  | some _ => none
  | none =>
      some
        { world with
          row :=
            world.row.recoverFloodAdvertAttempt intervalMs (uncertainAttemptIntervalMs intervalMs)
          process :=
            some
              { number := world.processes, running := true, connected := false, timer := true
                startupRequested := false, tick := none }
          processes := world.processes + 1 }

def interruptLast : List AdvertAttempt → List AdvertAttempt
  | [] => []
  | last :: earlier => { last with interrupted := true } :: earlier

/-- The process ends, by a crash or at the end of `shutdown()`. -/
def exits (world : AdvertWorld) : AdvertWorld :=
  { world with
    process := none
    attempts :=
      if world.row.status = .sending then interruptLast world.attempts else world.attempts }

def stop (process : AdvertProcess) : AdvertProcess :=
  { process with running := false, timer := false }

/-- The listener of `radio.connected`, which `stop()` removes. -/
def onConnected (world : AdvertWorld) (process : AdvertProcess) (now : Int) : AdvertWorld :=
  if process.running then
    { world with
      row :=
        if process.startupRequested = false ∧ world.row.status ≠ .pending then
          world.row.requestFloodAdvert now
        else world.row
      process :=
        some { process with connected := true, startupRequested := true, timer := true }
      clock := now }
  else world

def onDisconnected (process : AdvertProcess) : AdvertProcess :=
  if process.running then { process with connected := false } else process

/-- The row once a tick has looked whether the next advert is due. -/
def requestDue (intervalMs : Int) (row : FloodAdvertState) (checkedAt requestedAt : Int) :
    FloodAdvertState :=
  if row.status = .idle ∧ 0 < intervalMs ∧ row.nextDueAt.any (· ≤ checkedAt) then
    row.requestFloodAdvert requestedAt
  else row

/-- `#tick()` up to its first `await`. -/
def tick (intervalMs : Int) (world : AdvertWorld) (process : AdvertProcess)
    (checkedAt requestedAt readyAt : Int) (quiet : Bool) : Option AdvertWorld :=
  if process.timer = true then
    if process.running = false ∨ process.tick.isSome then some world
    else
      let row := requestDue intervalMs world.row checkedAt requestedAt
      let waits := !process.connected || row.status ≠ .pending ||
        row.nextDueAt.any (readyAt < ·) || !quiet
      some
        { world with
          row
          process := some (if waits then process else { process with tick := some .granted })
          clock := readyAt }
  else none

/-- The operation that was granted the air, up to its command. -/
def attemptStarts (world : AdvertWorld) (process : AdvertProcess) (now : Int) :
    Option AdvertWorld :=
  if process.tick = some .granted then
    if process.running = false ∨ process.connected = false then
      some { world with process := some { process with tick := some .returned } }
    else
      match world.row.startFloodAdvertAttempt now with
      | none =>
          some
            { world with process := some { process with tick := some .returned }, clock := now }
      | some row =>
          some
            { world with
              row
              process := some { process with tick := some .commanding }
              clock := now
              attempts := ⟨process.number, now, world.row.lastSentAt, false⟩ :: world.attempts }
  else none

def commandSettles (intervalMs : Int) (world : AdvertWorld) (process : AdvertProcess)
    (outcome : Outcome) (now : Int) : Option AdvertWorld :=
  if process.tick = some .commanding then
    some
      { world with
        row := world.row.resolveFloodAdvertAttempt now intervalMs (outcome = .resolved)
        process := some { process with tick := some .returned }
        clock := now }
  else none

def tickEnds (world : AdvertWorld) (process : AdvertProcess) : Option AdvertWorld :=
  if process.tick = some .returned then
    some { world with process := some { process with tick := none } }
  else none

/-- What the process at work does, refused when there is none. -/
def withProcess (world : AdvertWorld) (act : AdvertProcess → Option AdvertWorld) :
    Option AdvertWorld :=
  world.process.bind act

def step (intervalMs : Int) (world : AdvertWorld) : AdvertEvent → Option AdvertWorld
  | .starts => world.starts intervalMs
  | .exits => world.withProcess fun _ => some world.exits
  | .stop => world.withProcess fun process => some { world with process := some (stop process) }
  | .radioConnected now =>
      world.withProcess fun process =>
        if world.clock ≤ now then some (world.onConnected process now) else none
  | .radioDisconnected =>
      world.withProcess fun process => some { world with process := some (onDisconnected process) }
  | .tick checkedAt requestedAt readyAt quiet =>
      world.withProcess fun process =>
        if world.clock ≤ checkedAt ∧ checkedAt ≤ requestedAt ∧ requestedAt ≤ readyAt then
          world.tick intervalMs process checkedAt requestedAt readyAt quiet
        else none
  | .attemptStarts now =>
      world.withProcess fun process =>
        if world.clock ≤ now then world.attemptStarts process now else none
  | .commandSettles outcome now =>
      world.withProcess fun process =>
        if world.clock ≤ now then world.commandSettles intervalMs process outcome now else none
  | .tickEnds => world.withProcess fun process => world.tickEnds process

end AdvertWorld

def intervalMsOf (intervalHours : Nat) : Int := intervalHours * hourMs

/-- Every run over a fresh store, with one `intervalHours` for all processes. -/
def advertSystem (intervalHours : Nat) : EventSystem AdvertWorld AdvertEvent where
  Initial world := ∃ now, world = .new now
  step := AdvertWorld.step (intervalMsOf intervalHours)

end MeshcoreObserver
