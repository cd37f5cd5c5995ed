import MeshcoreObserver.Radio.AirtimeCoordinator
import Mathlib.Data.List.Pairwise

/-!
# One reservation for every sender

The invariant of the shared coordinator: its `#sending` flag is the existence of
a granted operation that has not been released, there is at most one such
operation, and `#lastActivityAt` is at or after everything that has been noted.
Mutual exclusion, the spacing of the grants and the release of the reservation
are read off it.
-/

namespace MeshcoreObserver

open Transition

universe u

variable {Caller : Type u}

/-- The spacing of one entry from an earlier one: a grant follows every earlier activity by
the quiet window. -/
def AirtimeEntry.Respects (quietMs : Int) (later earlier : AirtimeEntry Caller) : Prop :=
  match later with
  | .granted _ checkedAt _ => earlier.activityAt + quietMs ≤ checkedAt
  | _ => True

/-- One coordinator shared by all callers of one process. -/
def airtimeSystem (Caller : Type u) (quietMs : Int) :
    EventSystem (AirtimeWorld Caller) (AirtimeEvent Caller) where
  Initial world := ∃ now, world = .new quietMs now
  step := AirtimeWorld.step

namespace AirtimeWorld

structure Reserved (quietMs : Int) (world : AirtimeWorld Caller) : Prop where
  window : world.coordinator.quietMs = quietMs
  sending : world.coordinator.sending = true ↔ world.operations ≠ []
  single : world.operations.length ≤ 1
  latest : ∀ entry ∈ world.history, entry.activityAt ≤ world.coordinator.lastActivityAt
  clocked : world.coordinator.lastActivityAt ≤ world.clock
  spaced : world.history.Pairwise (AirtimeEntry.Respects quietMs)

theorem reserved_new (quietMs : Int) (now : Int) :
    (new quietMs now : AirtimeWorld Caller).Reserved quietMs where
  window := rfl
  sending := by simp [new, AirtimeCoordinator.new]
  single := by simp [new]
  latest := by simp [new, AirtimeCoordinator.new, AirtimeEntry.activityAt]
  clocked := by simp [new, AirtimeCoordinator.new]
  spaced := by simp [new]

theorem advance_eq_some {world after : AirtimeWorld Caller} {number : Nat}
    {source target : OperationPhase} (advanced : world.advance number source target = some after) :
    after = { world with operations := after.operations } ∧
      after.operations.length = world.operations.length := by
  unfold advance at advanced
  split at advanced
  · simp only [Option.some.injEq] at advanced
    subst after
    exact ⟨rfl, by simp⟩
  · cases advanced

theorem Reserved.advance {quietMs : Int} {world after : AirtimeWorld Caller} {number : Nat}
    {source target : OperationPhase} (reserved : world.Reserved quietMs)
    (advanced : world.advance number source target = some after) : after.Reserved quietMs := by
  rcases advance_eq_some advanced with ⟨same, length⟩
  have occupied : after.operations ≠ [] ↔ world.operations ≠ [] := by
    rw [← List.length_pos_iff, ← List.length_pos_iff, length]
  rw [same]
  exact
    { window := reserved.window
      sending := reserved.sending.trans occupied.symm
      single := length ▸ reserved.single
      latest := reserved.latest
      clocked := reserved.clocked
      spaced := reserved.spaced }

theorem Reserved.noteActivity {quietMs : Int} {world : AirtimeWorld Caller} {now : Int}
    (reserved : world.Reserved quietMs) (later : world.clock ≤ now) :
    Reserved quietMs { world with
      coordinator := world.coordinator.noteActivity now
      clock := now
      history := .noted now :: world.history } where
  window := reserved.window
  sending := reserved.sending
  single := reserved.single
  latest := by
    intro entry entryMem
    have clocked := reserved.clocked
    rcases List.mem_cons.mp entryMem with rfl | old
    · exact Int.le_refl now
    · have := reserved.latest entry old
      simp only [AirtimeCoordinator.noteActivity]
      omega
  clocked := Int.le_refl now
  spaced := List.pairwise_cons.mpr ⟨fun _ _ => trivial, reserved.spaced⟩

theorem Reserved.request {quietMs : Int} {world : AirtimeWorld Caller} {caller : Caller}
    {checkedAt notedAt : Int} (reserved : world.Reserved quietMs)
    (later : world.clock ≤ checkedAt) (ordered : checkedAt ≤ notedAt) :
    (world.request caller checkedAt notedAt).Reserved quietMs := by
  unfold AirtimeWorld.request
  cases asked : world.coordinator.tryRunWhenQuiet checkedAt notedAt with
  | none =>
      have clocked := reserved.clocked
      exact { reserved with clocked := by simp only; omega }
  | some coordinator =>
      rcases AirtimeCoordinator.tryRunWhenQuiet_eq_some.mp asked with ⟨free, quiet, rfl⟩
      have idle : world.operations = [] := by
        by_contra occupied
        simp [reserved.sending.mpr occupied] at free
      have before : ∀ entry ∈ world.history, entry.activityAt + quietMs ≤ checkedAt := by
        intro entry entryMem
        have := reserved.latest entry entryMem
        have := reserved.window
        omega
      have clocked := reserved.clocked
      exact
        { window := reserved.window
          sending := by simp
          single := by simp [idle]
          latest := by
            intro entry entryMem
            rcases List.mem_cons.mp entryMem with rfl | old
            · exact Int.le_refl notedAt
            · have := reserved.latest entry old
              simp only
              omega
          clocked := Int.le_refl notedAt
          spaced := List.pairwise_cons.mpr ⟨before, reserved.spaced⟩ }

theorem Reserved.operations_eq {quietMs : Int} {world : AirtimeWorld Caller}
    {operation : Operation Caller} (reserved : world.Reserved quietMs)
    (operationMem : operation ∈ world.operations) : world.operations = [operation] := by
  have single := reserved.single
  match operations : world.operations with
  | [] => simp [operations] at operationMem
  | [only] =>
      simp only [operations, List.mem_singleton] at operationMem
      rw [operationMem]
  | _ :: _ :: _ =>
      simp only [operations, List.length_cons] at single
      omega

theorem step_released {world : AirtimeWorld Caller} {operation : Operation Caller}
    {outcome : Outcome} (only : world.operations = [operation])
    (settled : operation.phase = .settled outcome) :
    world.step (.released operation.number) = some { world with
      coordinator := world.coordinator.release
      operations := [] } := by
  cases outcome <;> simp [step, only, settled]

theorem Reserved.released {quietMs : Int} {world after : AirtimeWorld Caller} {number : Nat}
    (reserved : world.Reserved quietMs) (stepped : world.step (.released number) = some after) :
    after.Reserved quietMs := by
  simp only [step] at stepped
  split at stepped
  · rename_i present
    rcases List.any_eq_true.mp present with ⟨operation, operationMem, matched⟩
    simp only [Bool.decide_and, Bool.and_eq_true, decide_eq_true_eq] at matched
    have only := reserved.operations_eq operationMem
    simp only [Option.some.injEq] at stepped
    subst after
    exact
      { window := reserved.window
        sending := by simp [only, matched.1, AirtimeCoordinator.release]
        single := by simp [only, matched.1]
        latest := reserved.latest
        clocked := reserved.clocked
        spaced := reserved.spaced }
  · cases stepped

theorem Reserved.step {quietMs : Int} {world after : AirtimeWorld Caller}
    {event : AirtimeEvent Caller} (reserved : world.Reserved quietMs)
    (stepped : world.step event = some after) : after.Reserved quietMs := by
  cases event with
  | noteActivity now =>
      simp only [AirtimeWorld.step] at stepped
      split at stepped
      · rename_i later
        simp only [Option.some.injEq] at stepped
        subst after
        exact reserved.noteActivity later
      · cases stepped
  | tryRunWhenQuiet caller checkedAt notedAt =>
      simp only [AirtimeWorld.step] at stepped
      split at stepped
      · rename_i ordered
        simp only [Option.some.injEq] at stepped
        subst after
        exact reserved.request ordered.1 ordered.2
      · cases stepped
  | sendStarts number => exact reserved.advance stepped
  | sendThrows number => exact reserved.advance stepped
  | sendSettles number outcome => exact reserved.advance stepped
  | released number => exact reserved.released stepped

theorem reserved_of_reachable {quietMs : Int} {world : AirtimeWorld Caller}
    (reachable : (airtimeSystem Caller quietMs).Reachable world) : world.Reserved quietMs :=
  reachable.invariant
    (fun _ ⟨now, starts⟩ => starts ▸ reserved_new quietMs now)
    (fun _ _ _ reserved _ stepped => reserved.step stepped)

/-- In every run, whoever the callers are and whatever the quiet window is: at most one granted
operation is unfinished, and the reservation is taken exactly while there is one; every grant
follows every earlier activity by the quiet window; a refused call leaves everything but the
clock as it was; and the `finally` callback of a settled operation frees the reservation. -/
theorem one_shared_reservation {quietMs : Int} {world : AirtimeWorld Caller}
    (reachable : (airtimeSystem Caller quietMs).Reachable world) :
    world.operations.length ≤ 1 ∧
      (world.coordinator.sending = true ↔ world.operations ≠ []) ∧
      world.history.Pairwise (AirtimeEntry.Respects quietMs) ∧
      (∀ caller checkedAt notedAt,
        world.coordinator.tryRunWhenQuiet checkedAt notedAt = none →
          world.request caller checkedAt notedAt = { world with clock := checkedAt }) ∧
      ∀ operation ∈ world.operations, ∀ outcome, operation.phase = .settled outcome →
        ∃ after, world.step (.released operation.number) = some after ∧
          after.coordinator.sending = false ∧ after.operations = [] := by
  have reserved := reserved_of_reachable reachable
  refine ⟨reserved.single, reserved.sending, reserved.spaced, ?_, ?_⟩
  · intro caller checkedAt notedAt refused
    simp only [AirtimeWorld.request, refused]
  · intro operation operationMem outcome settled
    have only := reserved.operations_eq operationMem
    exact ⟨_, step_released only settled, rfl, rfl⟩

theorem one_shared_reservation_of_two_callers :
    (((airtimeSystem Bool 10).run EventSystem.anyStep (.new 10 0)
      [.tryRunWhenQuiet true 10 10, .tryRunWhenQuiet false 10 10, .sendStarts 0, .noteActivity 12,
        .sendSettles 0 .rejected, .released 0, .tryRunWhenQuiet false 22 22]).get
          rfl).history.Pairwise (AirtimeEntry.Respects 10) := by
  refine (one_shared_reservation ?_).2.2.1
  refine EventSystem.reachableWhen_get ?_ _
  exact ⟨0, rfl⟩

end AirtimeWorld

end MeshcoreObserver
