import MeshcoreObserver.Text
import MeshcoreObserver.Transition.EventSystem
import MeshcoreObserver.Transition.Promises

/-!
# Opening a transport

One call of `openSerialConnection`, or of `openTcpConnection`, which is the same
with one candidate. For each candidate the call waits for `connect()` and then for
what `waitForConnection` made of the connection's events and of its timer; when
either fails, it closes the connection and turns to the next candidate.

The connection and the timer act at any time, also on a candidate that has been
given up. In every run the candidates are tried in their order and one by one, the
connection the call returns has become ready, and every other one has been closed.

The connections are emitters of the library. Their `once` is known to remove a
listener when it calls it; whether their `off` removes a listener that `once` has
registered is a parameter.
-/

namespace MeshcoreObserver

open Transition

inductive OpeningError where
  | noPorts
  | timedOut (timeoutMs : Nat)
  | closedEarly
  | thrown (message : Text)
  deriving DecidableEq, Repr

def OpeningError.message : OpeningError → Text
  | .noPorts => "no serial ports configured".toList
  | .timedOut timeoutMs =>
      "Timed out waiting for connection after ".toList ++ Text.ofInt timeoutMs ++ "ms".toList
  | .closedEarly => "connection closed before it was ready".toList
  | .thrown message => message

/-- An event of the connection, or the timer of the wait for it. -/
inductive OpeningSignal where
  | connected
  | disconnected
  | timeout
  deriving DecidableEq, Repr

/-- The emitter of a connection. -/
structure ConnectionEmitter where
  offRemovesOnce : Bool
  deriving DecidableEq, Repr

/-- What `waitForConnection` has registered, and its promise. -/
structure ConnectionWait where
  timer : Bool
  onConnected : Bool
  onDisconnected : Bool
  settlement : Option (Settlement Unit OpeningError)
  deriving DecidableEq, Repr

namespace ConnectionWait

def waitForConnection : ConnectionWait :=
  { timer := true
    onConnected := true
    onDisconnected := true
    settlement := none }

def cleanup (emitter : ConnectionEmitter) (wait : ConnectionWait) : ConnectionWait :=
  { wait with
    timer := false
    onConnected := wait.onConnected && !emitter.offRemovesOnce
    onDisconnected := wait.onDisconnected && !emitter.offRemovesOnce }

def settle (wait : ConnectionWait) (outcome : Settlement Unit OpeningError) : ConnectionWait :=
  if wait.settlement.isSome then wait else { wait with settlement := some outcome }

def hear (emitter : ConnectionEmitter) (timeoutMs : Nat) (wait : ConnectionWait) :
    OpeningSignal → ConnectionWait
  | .connected =>
      if wait.onConnected then
        ({ wait with onConnected := false }.cleanup emitter).settle (.fulfilled ())
      else wait
  | .disconnected =>
      if wait.onDisconnected then
        ({ wait with onDisconnected := false }.cleanup emitter).settle (.rejected .closedEarly)
      else wait
  | .timeout =>
      if wait.timer then (wait.cleanup emitter).settle (.rejected (.timedOut timeoutMs)) else wait

end ConnectionWait

/-- One candidate: the promises of `connect()` and `close()`, the wait, what the wait was given
to hear, and the failure the log was told of. -/
structure OpeningAttempt (Port : Type) where
  port : Port
  connect : Option (Settlement Unit OpeningError)
  wait : ConnectionWait
  signals : List OpeningSignal
  awaited : Bool
  unhandled : Bool
  failure : Option OpeningError
  closeCalls : Nat
  closeSettled : Bool
  deriving DecidableEq, Repr

namespace OpeningAttempt

variable {Port : Type}

def new (port : Port) : OpeningAttempt Port :=
  { port
    connect := none
    wait := .waitForConnection
    signals := []
    awaited := false
    unhandled := false
    failure := none
    closeCalls := 0
    closeSettled := false }

/-- A rejection is unhandled when nothing awaits the promise at that time. -/
def hear (emitter : ConnectionEmitter) (timeoutMs : Nat) (attempt : OpeningAttempt Port)
    (signal : OpeningSignal) : OpeningAttempt Port :=
  let wait := attempt.wait.hear emitter timeoutMs signal
  let rejects := attempt.wait.settlement = none ∧ wait.settlement ≠ none ∧
    wait.settlement ≠ some (.fulfilled ())
  { attempt with
    wait
    signals := attempt.signals ++ [signal]
    unhandled := attempt.unhandled || (decide rejects && !attempt.awaited) }

/-- The `catch` up to `await connection.close()`. -/
def fail (attempt : OpeningAttempt Port) (error : OpeningError) : OpeningAttempt Port :=
  { attempt with failure := some error, closeCalls := attempt.closeCalls + 1 }

end OpeningAttempt

/-- Where the call waits: for `connect()`, for the wait or for `close()` of an attempt. -/
inductive OpeningPhase where
  | connecting (number : Nat)
  | waiting (number : Nat)
  | closing (number : Nat)
  | returned (number : Nat)
  | threw (error : OpeningError)
  deriving DecidableEq, Repr

/-- `creations` holds the calls of `createConnection`, with what they have thrown. -/
structure TransportOpening (Port : Type) where
  untried : List Port
  creations : List (Port × Option OpeningError)
  attempts : List (OpeningAttempt Port)
  lastError : OpeningError
  phase : OpeningPhase
  deriving DecidableEq, Repr

inductive OpeningEvent where
  | connectSettles (number : Nat) (outcome : Settlement Unit OpeningError)
  | signals (number : Nat) (signal : OpeningSignal)
  | closeSettles (number : Nat)
  | resumes (creationError : Option OpeningError)
  deriving DecidableEq, Repr

namespace TransportOpening

variable {Port : Type}

def modify (opening : TransportOpening Port) (number : Nat)
    (change : OpeningAttempt Port → OpeningAttempt Port) : TransportOpening Port :=
  { opening with attempts := opening.attempts.modify number change }

/-- The next turn of the loop, up to its first `await`. What `createConnection` throws is not
caught. -/
def tryNext (opening : TransportOpening Port) (creationError : Option OpeningError) :
    TransportOpening Port :=
  match opening.untried, creationError with
  | [], _ => { opening with phase := .threw opening.lastError }
  | port :: _, some error =>
      { opening with
        creations := opening.creations ++ [(port, some error)]
        phase := .threw error }
  | port :: untried, none =>
      { opening with
        untried
        creations := opening.creations ++ [(port, none)]
        attempts := opening.attempts ++ [.new port]
        phase := .connecting opening.attempts.length }

def openSerialConnection (serialPorts : List Port) (creationError : Option OpeningError) :
    TransportOpening Port :=
  tryNext
    { untried := serialPorts
      creations := []
      attempts := []
      lastError := .noPorts
      phase := .threw .noPorts }
    creationError

def openTcpConnection (address : Port) (creationError : Option OpeningError) :
    TransportOpening Port :=
  openSerialConnection [address] creationError

def fail (opening : TransportOpening Port) (number : Nat) (error : OpeningError) :
    TransportOpening Port :=
  { opening.modify number fun attempt => attempt.fail error with
    lastError := error
    phase := .closing number }

/-- The call goes on after an `await` whose promise has settled. -/
def resume (opening : TransportOpening Port) (creationError : Option OpeningError) :
    Option (TransportOpening Port) :=
  match opening.phase with
  | .connecting number =>
      (opening.attempts[number]?.bind OpeningAttempt.connect).map fun outcome =>
        match outcome with
        | .fulfilled _ =>
            { opening.modify number fun attempt => { attempt with awaited := true } with
              phase := .waiting number }
        | .rejected error => opening.fail number error
  | .waiting number =>
      (opening.attempts[number]?.bind fun attempt => attempt.wait.settlement).map fun outcome =>
        match outcome with
        | .fulfilled _ => { opening with phase := .returned number }
        | .rejected error => opening.fail number error
  | .closing number =>
      match opening.attempts[number]? with
      | some attempt => if attempt.closeSettled then some (opening.tryNext creationError) else none
      | none => none
  | .returned _ => none
  | .threw _ => none

/-- `connect()` and `close()` settle once, and a timer that was cleared does not fire. -/
def step (emitter : ConnectionEmitter) (timeoutMs : Nat) (opening : TransportOpening Port) :
    OpeningEvent → Option (TransportOpening Port)
  | .connectSettles number outcome =>
      match opening.attempts[number]? with
      | some attempt =>
          if attempt.connect = none then
            some (opening.modify number fun attempt => { attempt with connect := some outcome })
          else none
      | none => none
  | .signals number signal =>
      match opening.attempts[number]? with
      | some attempt =>
          if signal = .timeout → attempt.wait.timer then
            some (opening.modify number fun attempt => attempt.hear emitter timeoutMs signal)
          else none
      | none => none
  | .closeSettles number =>
      match opening.attempts[number]? with
      | some attempt =>
          if 0 < attempt.closeCalls ∧ attempt.closeSettled = false then
            some (opening.modify number fun attempt => { attempt with closeSettled := true })
          else none
      | none => none
  | .resumes creationError => opening.resume creationError

end TransportOpening

/-- Every run of one call on these candidates. -/
def openingSystem {Port : Type} (emitter : ConnectionEmitter) (timeoutMs : Nat)
    (candidates : List Port) : EventSystem (TransportOpening Port) OpeningEvent where
  Initial opening :=
    ∃ creationError, opening = .openSerialConnection candidates creationError
  step := TransportOpening.step emitter timeoutMs

namespace TransportOpening

variable {Port : Type} {emitter : ConnectionEmitter} {timeoutMs : Nat}
  {opening after : TransportOpening Port}

/-- The ways on from where the call waits. -/
inductive Resumes (opening : TransportOpening Port) (creationError : Option OpeningError) :
    TransportOpening Port → Prop where
  | connected {number : Nat} {attempt : OpeningAttempt Port}
      (phase : opening.phase = .connecting number)
      (found : opening.attempts[number]? = some attempt)
      (fulfilled : attempt.connect = some (.fulfilled ())) :
      Resumes opening creationError
        { opening.modify number fun attempt => { attempt with awaited := true } with
          phase := .waiting number }
  | connectFailed {number : Nat} {attempt : OpeningAttempt Port} {error : OpeningError}
      (phase : opening.phase = .connecting number)
      (found : opening.attempts[number]? = some attempt)
      (rejected : attempt.connect = some (.rejected error)) :
      Resumes opening creationError (opening.fail number error)
  | ready {number : Nat} {attempt : OpeningAttempt Port}
      (phase : opening.phase = .waiting number)
      (found : opening.attempts[number]? = some attempt)
      (fulfilled : attempt.wait.settlement = some (.fulfilled ())) :
      Resumes opening creationError { opening with phase := .returned number }
  | waitFailed {number : Nat} {attempt : OpeningAttempt Port} {error : OpeningError}
      (phase : opening.phase = .waiting number)
      (found : opening.attempts[number]? = some attempt)
      (rejected : attempt.wait.settlement = some (.rejected error)) :
      Resumes opening creationError (opening.fail number error)
  | closed {number : Nat} {attempt : OpeningAttempt Port}
      (phase : opening.phase = .closing number)
      (found : opening.attempts[number]? = some attempt)
      (settled : attempt.closeSettled = true) :
      Resumes opening creationError (opening.tryNext creationError)

theorem resumes_of_eq_some {creationError : Option OpeningError}
    (resumed : opening.resume creationError = some after) :
    opening.Resumes creationError after := by
  cases phase : opening.phase with
  | connecting number =>
      simp only [TransportOpening.resume, phase] at resumed
      rcases Option.map_eq_some_iff.mp resumed with ⟨outcome, settled, rfl⟩
      rcases Option.bind_eq_some_iff.mp settled with ⟨attempt, found, connected⟩
      cases outcome with
      | fulfilled value => exact .connected phase found connected
      | rejected error => exact .connectFailed phase found connected
  | waiting number =>
      simp only [TransportOpening.resume, phase] at resumed
      rcases Option.map_eq_some_iff.mp resumed with ⟨outcome, settled, rfl⟩
      rcases Option.bind_eq_some_iff.mp settled with ⟨attempt, found, decided⟩
      cases outcome with
      | fulfilled value => exact .ready phase found decided
      | rejected error => exact .waitFailed phase found decided
  | closing number =>
      simp only [TransportOpening.resume, phase] at resumed
      split at resumed
      · rename_i attempt found
        split at resumed
        · rename_i closed
          cases resumed
          exact .closed phase found closed
        · cases resumed
      · cases resumed
  | returned number =>
      simp only [TransportOpening.resume, phase] at resumed
      cases resumed
  | threw error =>
      simp only [TransportOpening.resume, phase] at resumed
      cases resumed

/-- The ways a step goes. -/
inductive Steps (emitter : ConnectionEmitter) (timeoutMs : Nat)
    (opening : TransportOpening Port) : OpeningEvent → TransportOpening Port → Prop where
  | connectSettles {number : Nat} {attempt : OpeningAttempt Port}
      (outcome : Settlement Unit OpeningError)
      (found : opening.attempts[number]? = some attempt) (pending : attempt.connect = none) :
      Steps emitter timeoutMs opening (.connectSettles number outcome)
        (opening.modify number fun attempt => { attempt with connect := some outcome })
  | signals {number : Nat} {attempt : OpeningAttempt Port} (signal : OpeningSignal)
      (found : opening.attempts[number]? = some attempt)
      (armed : signal = .timeout → attempt.wait.timer) :
      Steps emitter timeoutMs opening (.signals number signal)
        (opening.modify number fun attempt => attempt.hear emitter timeoutMs signal)
  | closeSettles {number : Nat} {attempt : OpeningAttempt Port}
      (found : opening.attempts[number]? = some attempt) (called : 0 < attempt.closeCalls)
      (pending : attempt.closeSettled = false) :
      Steps emitter timeoutMs opening (.closeSettles number)
        (opening.modify number fun attempt => { attempt with closeSettled := true })
  | resumes {creationError : Option OpeningError} {after : TransportOpening Port}
      (resumes : opening.Resumes creationError after) :
      Steps emitter timeoutMs opening (.resumes creationError) after

theorem steps_of_eq_some {event : OpeningEvent}
    (stepped : opening.step emitter timeoutMs event = some after) :
    opening.Steps emitter timeoutMs event after := by
  cases event with
  | connectSettles number outcome =>
      simp only [step] at stepped
      split at stepped
      · rename_i attempt found
        split at stepped
        · rename_i pending
          cases stepped
          exact .connectSettles outcome found pending
        · cases stepped
      · cases stepped
  | signals number signal =>
      simp only [step] at stepped
      split at stepped
      · rename_i attempt found
        split at stepped
        · rename_i armed
          cases stepped
          exact .signals signal found armed
        · cases stepped
      · cases stepped
  | closeSettles number =>
      simp only [step] at stepped
      split at stepped
      · rename_i attempt found
        split at stepped
        · rename_i called
          cases stepped
          exact .closeSettles found called.1 called.2
        · cases stepped
      · cases stepped
  | resumes creationError => exact .resumes (resumes_of_eq_some stepped)

end TransportOpening

end MeshcoreObserver
