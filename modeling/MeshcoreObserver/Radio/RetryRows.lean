import MeshcoreObserver.Radio.RadioManager
import MeshcoreObserver.Transition.Records

/-!
# Rows of retries

The record of a connect procedure: the starts, the attempts begun, the
connections made and lost, the failures reported, the retries armed and the fatal
errors, newest first. A row is what happened since the last start, connection or
disconnect.

The law of these records is the retry policy: a failure is answered by a retry,
with the backoff of its number in the row, or by the fatal error when the row is
longer than the configured limit, and a fatal error only by a new start.
-/

namespace MeshcoreObserver

open Transition

inductive RetryMark where
  | started
  | attempted
  | connected
  | disconnected
  | failed
  | armed (delayMs : JsNumber)
  | gaveUp
  deriving DecidableEq, Repr

namespace RetryMark

def resets : RetryMark → Bool
  | .started | .connected | .disconnected => true
  | .attempted | .failed | .armed _ | .gaveUp => false

def armedDelay : RetryMark → Option JsNumber
  | .armed delayMs => some delayMs
  | _ => none

/-- The mark of an emission of `'radio.error'`. -/
def isError : RetryMark → Bool
  | .failed | .gaveUp => true
  | _ => false

end RetryMark

/-- The part of a record, newest first, since the last start, connection or disconnect. -/
def retryRow (record : List RetryMark) : List RetryMark :=
  record.takeWhile fun mark => !mark.resets

def failuresInRow (record : List RetryMark) : Nat :=
  (retryRow record).count .failed

/-- The delays of the retries armed in the row, in order. -/
def delaysInRow (record : List RetryMark) : List JsNumber :=
  ((retryRow record).filterMap RetryMark.armedDelay).reverse

section Row

variable {record : List RetryMark} {mark : RetryMark}

theorem failuresInRow_reset (resets : mark.resets = true) :
    failuresInRow (mark :: record) = 0 := by
  simp [failuresInRow, retryRow, resets]

theorem failuresInRow_reset_le {limit : Nat} (resets : mark.resets = true) :
    failuresInRow (mark :: record) ≤ limit := by
  rw [failuresInRow_reset resets]
  exact Nat.zero_le limit

theorem delaysInRow_reset (resets : mark.resets = true) : delaysInRow (mark :: record) = [] := by
  simp [delaysInRow, retryRow, resets]

@[simp]
theorem failuresInRow_attempted : failuresInRow (.attempted :: record) = failuresInRow record := by
  simp [failuresInRow, retryRow, RetryMark.resets]

@[simp]
theorem failuresInRow_armed (delayMs : JsNumber) :
    failuresInRow (.armed delayMs :: record) = failuresInRow record := by
  simp [failuresInRow, retryRow, RetryMark.resets]

@[simp]
theorem failuresInRow_gaveUp : failuresInRow (.gaveUp :: record) = failuresInRow record := by
  simp [failuresInRow, retryRow, RetryMark.resets]

@[simp]
theorem failuresInRow_failed : failuresInRow (.failed :: record) = failuresInRow record + 1 := by
  simp [failuresInRow, retryRow, RetryMark.resets]

theorem delaysInRow_cons (stays : mark.resets = false) (unarmed : mark.armedDelay = none) :
    delaysInRow (mark :: record) = delaysInRow record := by
  simp [delaysInRow, retryRow, stays, unarmed]

theorem delaysInRow_armed (delayMs : JsNumber) :
    delaysInRow (.armed delayMs :: record) = delaysInRow record ++ [delayMs] := by
  simp [delaysInRow, retryRow, RetryMark.resets, RetryMark.armedDelay]

end Row

section Law

variable {config : ReconnectConfig}

/-- Which mark may follow a record. -/
def RetryAllows (config : ReconnectConfig) (record : List RetryMark) : RetryMark → Prop
  | .started => record.head? = none ∨ record.head? = some .gaveUp
  | .attempted => record.head? = some .started ∨ record.head? = some .disconnected ∨
      ∃ delayMs, record.head? = some (.armed delayMs)
  | .connected => record.head? = some .attempted
  | .disconnected => record.head? = some .connected
  | .failed => record.head? = some .attempted
  | .armed delayMs => record.head? = some .failed ∧
      (config.maxRetries = 0 ∨ failuresInRow record ≤ config.maxRetries) ∧
      delayMs = computeBackoffDelay (failuresInRow record) config.initialDelayMs config.maxDelayMs
  | .gaveUp => record.head? = some .failed ∧ config.maxRetries ≠ 0 ∧
      failuresInRow record = config.maxRetries + 1

/-- The delays of the first retries of a row. -/
def retryDelays (config : ReconnectConfig) (count : Nat) : List JsNumber :=
  (List.range count).map fun index =>
    computeBackoffDelay (index + 1) config.initialDelayMs config.maxDelayMs

theorem retryDelays_succ (count : Nat) :
    retryDelays config (count + 1) = retryDelays config count ++
      [computeBackoffDelay (count + 1) config.initialDelayMs config.maxDelayMs] := by
  simp [retryDelays, List.range_succ]

theorem retryDelays_getElem {count index : Nat} {delayMs : JsNumber}
    (present : (retryDelays config count)[index]? = some delayMs) :
    index < count ∧
      delayMs = computeBackoffDelay (index + 1) config.initialDelayMs config.maxDelayMs := by
  rcases List.getElem?_eq_some_iff.mp present with ⟨within, rfl⟩
  simp only [retryDelays, List.length_map, List.length_range] at within
  simp [retryDelays, within]

/-- The delays that are meant for the first retries of a row. -/
def cappedDelays (config : ReconnectConfig) (count : Nat) : List Nat :=
  (List.range count).map fun index =>
    cappedDelay (index + 1) config.initialDelayMs config.maxDelayMs

theorem cappedDelays_sorted (count : Nat) : (cappedDelays config count).Pairwise (· ≤ ·) := by
  simp only [cappedDelays, List.pairwise_map]
  apply List.pairwise_lt_range.imp
  intro first second before
  exact cappedDelay_mono (by omega) config.initialDelayMs config.maxDelayMs

theorem cappedDelays_le (count : Nat) :
    ∀ delayMs ∈ cappedDelays config count, delayMs ≤ config.maxDelayMs := by
  intro delayMs delayMem
  rcases List.mem_map.mp delayMem with ⟨index, _, rfl⟩
  exact Nat.min_le_right _ _

/-- The delay meant for a retry of a row is what the code computes, and a timer can wait for it:
no zero meets the overflow of the factor, and the delay is in the range of the timers. -/
structure Timeable (config : ReconnectConfig) (retry : Nat) : Prop where
  factor : config.initialDelayMs ≠ 0 ∨ retry ≤ 1024
  timer : cappedDelay retry config.initialDelayMs config.maxDelayMs ≤ timeoutMax

theorem timeable_iff {retry : Nat} :
    Timeable config retry ↔
      computeBackoffDelay retry config.initialDelayMs config.maxDelayMs =
          .finite (cappedDelay retry config.initialDelayMs config.maxDelayMs) ∧
        timeoutMs (computeBackoffDelay retry config.initialDelayMs config.maxDelayMs) =
          max 1 (cappedDelay retry config.initialDelayMs config.maxDelayMs) := by
  rw [computeBackoffDelay_eq_iff]
  exact ⟨fun timeable => ⟨timeable.factor, timeable.timer⟩, fun ⟨factor, timer⟩ => ⟨factor, timer⟩⟩

theorem Timeable.earlier {earlier later : Nat} (timeable : Timeable config later)
    (before : earlier ≤ later) : Timeable config earlier where
  factor := timeable.factor.imp_right before.trans
  timer := (cappedDelay_mono before _ _).trans timeable.timer

/-- The first retries of a row are all as they are meant when the last of them is. -/
theorem retryDelays_eq {count : Nat} (timeable : ∀ last, count = last + 1 → Timeable config count) :
    retryDelays config count = (cappedDelays config count).map (fun delayMs => .finite delayMs) ∧
      (retryDelays config count).map timeoutMs = (cappedDelays config count).map (max 1) := by
  have each : ∀ index ∈ List.range count, Timeable config (index + 1) := by
    intro index indexMem
    rcases Nat.exists_eq_add_of_lt (List.mem_range.mp indexMem) with ⟨rest, rfl⟩
    exact (timeable _ rfl).earlier (by omega)
  simp only [retryDelays, cappedDelays, List.map_map]
  constructor
  · refine List.map_congr_left fun index indexMem => ?_
    exact (timeable_iff.mp (each index indexMem)).1
  · refine List.map_congr_left fun index indexMem => ?_
    exact (timeable_iff.mp (each index indexMem)).2

/-- A row has one retry for each of its failures, but for one that has just been reported or has
ended it. -/
theorem delaysInRow_eq {record : List RetryMark} (lawful : Lawful (RetryAllows config) record) :
    ∃ count, delaysInRow record = retryDelays config count ∧
      failuresInRow record =
        if record.head? = some .failed ∨ record.head? = some .gaveUp then count + 1 else count := by
  induction lawful with
  | nil => exact ⟨0, rfl, rfl⟩
  | @cons record mark lawful allowed ih =>
      rcases ih with ⟨count, delays, failures⟩
      cases mark with
      | started => exact ⟨0, delaysInRow_reset rfl, failuresInRow_reset rfl⟩
      | connected => exact ⟨0, delaysInRow_reset rfl, failuresInRow_reset rfl⟩
      | disconnected => exact ⟨0, delaysInRow_reset rfl, failuresInRow_reset rfl⟩
      | attempted =>
          refine ⟨count, (delaysInRow_cons rfl rfl).trans delays, ?_⟩
          rcases allowed with head | head | ⟨delayMs, head⟩
          all_goals simpa [head] using failures
      | failed =>
          simp only [RetryAllows] at allowed
          refine ⟨count, (delaysInRow_cons rfl rfl).trans delays, ?_⟩
          simpa [allowed] using failures
      | armed delayMs =>
          rcases allowed with ⟨head, _, rfl⟩
          have failures : failuresInRow record = count + 1 := by simpa [head] using failures
          refine ⟨count + 1, ?_, ?_⟩
          · simp only [delaysInRow_armed, delays, retryDelays_succ, failures]
          · simpa using failures
      | gaveUp =>
          rcases allowed with ⟨head, _⟩
          refine ⟨count, (delaysInRow_cons rfl rfl).trans delays, ?_⟩
          simpa [head] using failures

/-- The last retry of a row has answered the failure of its number. -/
theorem exists_answered {record : List RetryMark} (lawful : Lawful (RetryAllows config) record)
    {count : Nat} (armed : delaysInRow record = retryDelays config (count + 1)) :
    ∃ later earlier, record = later ++ .failed :: earlier ∧
      failuresInRow (.failed :: earlier) = count + 1 ∧
      (config.maxRetries = 0 ∨ count + 1 ≤ config.maxRetries) := by
  have waits : delaysInRow record ≠ [] := by
    rw [armed, retryDelays_succ]
    exact List.append_ne_nil_of_right_ne_nil _ (List.cons_ne_nil _ _)
  induction lawful with
  | nil => exact absurd rfl waits
  | @cons record mark lawful allowed ih =>
      have longer : mark.resets = false → mark.armedDelay = none →
          ∃ later earlier, mark :: record = later ++ .failed :: earlier ∧
            failuresInRow (.failed :: earlier) = count + 1 ∧
            (config.maxRetries = 0 ∨ count + 1 ≤ config.maxRetries) := by
        intro stays unarmed
        rw [delaysInRow_cons stays unarmed] at armed waits
        rcases ih armed waits with ⟨later, earlier, rfl, answered⟩
        exact ⟨mark :: later, earlier, rfl, answered⟩
      cases mark with
      | started => exact absurd (delaysInRow_reset rfl) waits
      | connected => exact absurd (delaysInRow_reset rfl) waits
      | disconnected => exact absurd (delaysInRow_reset rfl) waits
      | attempted => exact longer rfl rfl
      | failed => exact longer rfl rfl
      | gaveUp => exact longer rfl rfl
      | armed delayMs =>
          rcases allowed with ⟨head, within, _⟩
          rcases List.head?_eq_some_iff.mp head with ⟨earlier, rfl⟩
          have failures : failuresInRow (.failed :: earlier) = count + 1 := by
            rcases delaysInRow_eq lawful with ⟨before, delays, failures⟩
            simp only [List.head?_cons, true_or, if_true] at failures
            rw [delaysInRow_armed, delays] at armed
            have lengths := congrArg List.length armed
            simp only [retryDelays, List.length_append, List.length_map, List.length_range,
              List.length_singleton] at lengths
            omega
          rw [failures] at within
          exact ⟨[.armed delayMs], earlier, rfl, failures, within⟩

/-- Where failures are limited, a row that goes on has at most as many as the limit. -/
theorem failuresInRow_le {record : List RetryMark} (lawful : Lawful (RetryAllows config) record)
    (limited : config.maxRetries ≠ 0) :
    failuresInRow record ≤ config.maxRetries ∨ record.head? = some .failed ∨
      record.head? = some .gaveUp := by
  induction lawful with
  | nil => exact Or.inl (Nat.zero_le _)
  | @cons record mark lawful allowed ih =>
      cases mark with
      | started => exact Or.inl (failuresInRow_reset_le rfl)
      | connected => exact Or.inl (failuresInRow_reset_le rfl)
      | disconnected => exact Or.inl (failuresInRow_reset_le rfl)
      | failed => exact Or.inr (Or.inl rfl)
      | gaveUp => exact Or.inr (Or.inr rfl)
      | armed delayMs =>
          left
          rw [failuresInRow_armed]
          exact allowed.2.1.resolve_left limited
      | attempted =>
          left
          rw [failuresInRow_attempted]
          apply ih.resolve_right
          rcases allowed with head | head | ⟨delayMs, head⟩
          all_goals simp [head]

end Law

end MeshcoreObserver
