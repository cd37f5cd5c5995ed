import MeshcoreObserver.Basic
import MeshcoreObserver.Transition.EventSystem

/-!
# The shared airtime reservation

`AirtimeCoordinator` grants one outbound operation at a time, and only after a
quiet window. Its methods are pure functions here. `AirtimeWorld` puts one
coordinator under any number of callers: packets are heard, callers ask for the
air at any moment, and a granted operation runs in a later microtask, settles
after any delay and only then gives the reservation back.

Every clock reading is an argument of the event that takes it, and an event is
refused when its readings would go backwards. `tryRunWhenQuiet` reads the clock
twice, once to compare and once to mark the activity, so its event carries both.
-/

namespace MeshcoreObserver

open Transition

universe u

structure AirtimeCoordinator where
  quietMs : Int
  lastActivityAt : Int
  sending : Bool
  deriving DecidableEq, Repr

namespace AirtimeCoordinator

def new (quietMs : Int) (now : Int) : AirtimeCoordinator :=
  { quietMs, lastActivityAt := now, sending := false }

def noteActivity (coordinator : AirtimeCoordinator) (now : Int) : AirtimeCoordinator :=
  { coordinator with lastActivityAt := now }

/-- The synchronous part of `tryRunWhenQuiet(send)`; `none` stands for the returned `null`. -/
def tryRunWhenQuiet (coordinator : AirtimeCoordinator) (checkedAt notedAt : Int) :
    Option AirtimeCoordinator :=
  if coordinator.sending = true ∨ checkedAt - coordinator.lastActivityAt < coordinator.quietMs then
    none
  else
    some ({ coordinator with sending := true }.noteActivity notedAt)

def release (coordinator : AirtimeCoordinator) : AirtimeCoordinator :=
  { coordinator with sending := false }

theorem tryRunWhenQuiet_eq_some {coordinator granted : AirtimeCoordinator}
    {checkedAt notedAt : Int} :
    coordinator.tryRunWhenQuiet checkedAt notedAt = some granted ↔
      coordinator.sending = false ∧
        coordinator.lastActivityAt + coordinator.quietMs ≤ checkedAt ∧
        granted = { coordinator with sending := true, lastActivityAt := notedAt } := by
  unfold tryRunWhenQuiet noteActivity
  split
  · rename_i busy
    simp only [reduceCtorEq, false_iff, not_and]
    intro free quiet _
    rcases busy with busy | busy
    · simp [free] at busy
    · omega
  · rename_i idle
    simp only [not_or, Bool.not_eq_true] at idle
    simp only [Option.some.injEq]
    constructor
    · rintro rfl
      exact ⟨idle.1, by omega, rfl⟩
    · rintro ⟨_, _, rfl⟩
      rfl

end AirtimeCoordinator

/-- The life of a granted operation: reserved until its microtask calls `send`, running until
the promise settles, settled until the `finally` callback gives the reservation back. -/
inductive OperationPhase where
  | reserved
  | running
  | settled (outcome : Outcome)
  deriving DecidableEq, Repr

structure Operation (Caller : Type u) where
  number : Nat
  caller : Caller
  phase : OperationPhase
  deriving DecidableEq, Repr

/-- What has happened to the air, in the coordinator's own clock readings. -/
inductive AirtimeEntry (Caller : Type u) where
  | constructed (now : Int)
  | noted (now : Int)
  | granted (caller : Caller) (checkedAt notedAt : Int)
  deriving DecidableEq, Repr

namespace AirtimeEntry

def activityAt {Caller : Type u} : AirtimeEntry Caller → Int
  | .constructed now => now
  | .noted now => now
  | .granted _ _ notedAt => notedAt

end AirtimeEntry

/-- One coordinator, the operations it has granted and its history, newest first. -/
structure AirtimeWorld (Caller : Type u) where
  coordinator : AirtimeCoordinator
  clock : Int
  granted : Nat
  operations : List (Operation Caller)
  history : List (AirtimeEntry Caller)
  deriving DecidableEq, Repr

inductive AirtimeEvent (Caller : Type u) where
  | noteActivity (now : Int)
  | tryRunWhenQuiet (caller : Caller) (checkedAt notedAt : Int)
  | sendStarts (number : Nat)
  | sendThrows (number : Nat)
  | sendSettles (number : Nat) (outcome : Outcome)
  | released (number : Nat)
  deriving DecidableEq, Repr

namespace AirtimeWorld

variable {Caller : Type u}

def new (quietMs : Int) (now : Int) : AirtimeWorld Caller :=
  { coordinator := .new quietMs now
    clock := now
    granted := 0
    operations := []
    history := [.constructed now] }

/-- Moves one operation, if it is in the phase the move leaves, into its next phase. -/
def advance (world : AirtimeWorld Caller) (number : Nat) (before after : OperationPhase) :
    Option (AirtimeWorld Caller) :=
  if world.operations.any fun operation =>
      operation.number = number ∧ operation.phase = before then
    some { world with
      operations := world.operations.map fun operation =>
        if operation.number = number then { operation with phase := after } else operation }
  else none

/-- A caller asks for the air. A refused call only reads the clock. -/
def request (world : AirtimeWorld Caller) (caller : Caller) (checkedAt notedAt : Int) :
    AirtimeWorld Caller :=
  match world.coordinator.tryRunWhenQuiet checkedAt notedAt with
  | none => { world with clock := checkedAt }
  | some coordinator =>
      { coordinator
        clock := notedAt
        granted := world.granted + 1
        operations := world.operations ++ [⟨world.granted, caller, .reserved⟩]
        history := .granted caller checkedAt notedAt :: world.history }

def step (world : AirtimeWorld Caller) : AirtimeEvent Caller → Option (AirtimeWorld Caller)
  | .noteActivity now =>
      if world.clock ≤ now then
        some { world with
          coordinator := world.coordinator.noteActivity now
          clock := now
          history := .noted now :: world.history }
      else none
  | .tryRunWhenQuiet caller checkedAt notedAt =>
      if world.clock ≤ checkedAt ∧ checkedAt ≤ notedAt then
        some (world.request caller checkedAt notedAt)
      else none
  | .sendStarts number => world.advance number .reserved .running
  | .sendThrows number => world.advance number .reserved (.settled .rejected)
  | .sendSettles number outcome => world.advance number .running (.settled outcome)
  | .released number =>
      if world.operations.any fun operation =>
          operation.number = number ∧ (operation.phase = .settled .resolved ∨
            operation.phase = .settled .rejected) then
        some { world with
          coordinator := world.coordinator.release
          operations := world.operations.filter fun operation => operation.number ≠ number }
      else none

end AirtimeWorld

end MeshcoreObserver
