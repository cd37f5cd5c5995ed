import MeshcoreObserver.Metrics.MetricsSample
import MeshcoreObserver.Mqtt.MqttBroker
import MeshcoreObserver.Transition.Promises

/-!
# Publishing to every broker

`MqttManager.publish` starts one promise for each broker that is connected when it
is called, waits for all of them, and lines their outcomes up again with the brokers.
The brokers that were skipped have no promise, so that the outcomes are counted with
an index of their own.

Whatever the promises come to, and in whatever order, every broker gets the result
that its own promise gives.
-/

namespace MeshcoreObserver

open Transition

universe u

/-- A promise of a call of `publish`, by the number of the call and the position of its broker. -/
abbrev PublishName := Nat × Nat

abbrev PublishHeap (Reason : Type u) := PromiseHeap PublishName Empty Unit Reason

structure PublishAttempt where
  brokerId : String
  promise : Option PublishName
  deriving DecidableEq, Repr

structure PublishResult where
  brokerId : String
  outcome : DeliveryOutcome
  error : Option String
  deriving DecidableEq, Repr

/-- The promise of a call of `publish`: pending, rejected by a `TypeError`, or resolved. -/
inductive PublishPromise where
  | pending
  | rejected
  | resolved (results : List PublishResult)
  deriving DecidableEq, Repr

namespace MqttManager

variable {Reason : Type u} (message : Reason → Option String)

/-- The attempts of a call of `publish`, for the brokers at the time of the call. -/
def attempts (call : Nat) (brokers : List (String × BrokerState)) : List PublishAttempt :=
  brokers.zipIdx.map fun broker =>
    { brokerId := broker.1.1
      promise := if broker.1.2 = .connected then some (call, broker.2) else none }

def promises (attempts : List PublishAttempt) : List PublishName :=
  attempts.filterMap PublishAttempt.promise

/-- The `map` behind `allSettled`, with its `settledIndex`. It throws where `settled` has no entry
for an attempt with a promise. -/
def alignResults (settled : List (Settlement Unit Reason)) :
    Nat → List PublishAttempt → Option (List PublishResult)
  | _, [] => some []
  | settledIndex, { brokerId, promise := none } :: attempts =>
      (alignResults settled settledIndex attempts).map fun results =>
        { brokerId, outcome := .skipped, error := none } :: results
  | settledIndex, { brokerId, promise := some _ } :: attempts =>
      match settled[settledIndex]? with
      | none => none
      | some (.rejected reason) =>
          (alignResults settled (settledIndex + 1) attempts).map fun results =>
            { brokerId, outcome := .failed, error := message reason } :: results
      | some (.fulfilled _) =>
          (alignResults settled (settledIndex + 1) attempts).map fun results =>
            { brokerId, outcome := .sent, error := none } :: results

def publish (heap : PublishHeap Reason) (attempts : List PublishAttempt) : PublishPromise :=
  match heap.allSettled (promises attempts) with
  | none => .pending
  | some settled =>
      match alignResults message settled 0 attempts with
      | none => .rejected
      | some results => .resolved results

/-- The result of an attempt whose promise, if any, has settled. -/
def ownResult (heap : PublishHeap Reason) (attempt : PublishAttempt) : PublishResult :=
  match attempt.promise.bind heap.settlement with
  | none => { brokerId := attempt.brokerId, outcome := .skipped, error := none }
  | some (.rejected reason) =>
      { brokerId := attempt.brokerId, outcome := .failed, error := message reason }
  | some (.fulfilled _) => { brokerId := attempt.brokerId, outcome := .sent, error := none }

variable {message} {heap : PublishHeap Reason}

theorem promises_cons (attempt : PublishAttempt) (attempts : List PublishAttempt) :
    promises (attempt :: attempts) = attempt.promise.toList ++ promises attempts := by
  rcases attempt with ⟨brokerId, promise⟩
  cases promise with
  | none => rfl
  | some name => rfl

theorem alignResults_eq {attempts : List PublishAttempt} (before : List (Settlement Unit Reason))
    {own : List (Settlement Unit Reason)}
    (settled : (promises attempts).map heap.settlement = own.map some) :
    alignResults message (before ++ own) before.length attempts =
      some (attempts.map (ownResult message heap)) := by
  induction attempts generalizing before own with
  | nil => rfl
  | cons attempt attempts ih =>
      rcases attempt with ⟨brokerId, promise⟩
      cases promise with
      | none =>
          simp [alignResults, ih before settled, ownResult]
      | some name =>
          cases own with
          | nil => simp [promises_cons] at settled
          | cons outcome own =>
              simp only [promises_cons, Option.toList_some, List.cons_append, List.nil_append,
                List.map_cons, List.cons.injEq] at settled
              rcases settled with ⟨first, settled⟩
              have rest := ih (before ++ [outcome]) settled
              rw [List.append_assoc, List.singleton_append, List.length_append,
                List.length_singleton] at rest
              have here : (before ++ outcome :: own)[before.length]? = some outcome := by simp
              cases outcome with
              | fulfilled value =>
                  simp only [alignResults, here]
                  simp [ownResult, first, rest]
              | rejected reason =>
                  simp only [alignResults, here]
                  simp [ownResult, first, rest]

/-- `publish` waits for the promises it has started, and then resolves. -/
theorem publish_eq (attempts : List PublishAttempt) :
    publish message heap attempts =
      if ∀ name ∈ promises attempts, (heap.settlement name).isSome then
        .resolved (attempts.map (ownResult message heap))
      else .pending := by
  have isSome : (heap.allSettled (promises attempts)).isSome ↔ _ := PromiseHeap.isSome_allSettled
  cases all : heap.allSettled (promises attempts) with
  | none =>
      rw [all] at isSome
      rw [if_neg fun every => by simpa using isSome.mpr every]
      simp only [publish, all]
  | some settled =>
      rw [all] at isSome
      rw [if_pos (isSome.mp rfl)]
      have aligned : alignResults message settled 0 attempts = _ :=
        alignResults_eq [] (PromiseHeap.allSettled_eq_some.mp all)
      simp only [publish, all, aligned]

end MqttManager

end MeshcoreObserver
