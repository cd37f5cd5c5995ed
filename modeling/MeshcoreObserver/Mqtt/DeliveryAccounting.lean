import MeshcoreObserver.Metrics.PersistedMetrics
import MeshcoreObserver.Mqtt.MqttManager

/-!
# Delivery accounting

Calls of `MqttManager.publish` at any time, while brokers connect and disconnect, the
promises of the brokers settling in any order, and the results recorded by
`ServiceHealth` in any order.

A call resolves once the promises it has started have settled, with one result for each
broker. What a counter of a broker shows is the number of recorded calls with that
outcome for it.
-/

namespace MeshcoreObserver

open Transition

universe u

/-- The brokers in the order of the configuration, and the calls of `publish` so far. -/
structure PublishWorld (Reason : Type u) where
  brokers : List (String × BrokerState)
  heap : PublishHeap Reason
  calls : List (List PublishAttempt)
  recorded : List Nat
  health : ServiceHealth

inductive PublishEvent (Reason : Type u) where
  | brokerChanges (position : Nat) (state : BrokerState)
  | publish
  | settles (call position : Nat) (outcome : Settlement Unit Reason)
  | records (call : Nat)
  deriving DecidableEq, Repr

namespace PublishWorld

variable {Reason : Type u}

def new (brokers : List (String × BrokerState)) : PublishWorld Reason :=
  { brokers
    heap := { settlement := fun _ => none, reactions := [] }
    calls := []
    recorded := []
    health := .new (brokers.map Prod.fst) }

variable (message : Reason → Option String) (world : PublishWorld Reason)

/-- The promise that a call of `publish` has returned. -/
def promise (call : Nat) : PublishPromise :=
  match world.calls[call]? with
  | none => .pending
  | some attempts => MqttManager.publish message world.heap attempts

def publish : PublishWorld Reason :=
  { world with
    calls := world.calls ++ [MqttManager.attempts world.calls.length world.brokers] }

def awaits (call position : Nat) : Bool :=
  (MqttManager.promises (world.calls[call]?.getD [])).contains (call, position) &&
    (world.heap.settlement (call, position)).isNone

/-- The results of a call are recorded once, when its promise has resolved. -/
def records (call : Nat) : Option (PublishWorld Reason) :=
  match world.promise message call with
  | .resolved results =>
      if world.recorded.contains call then none
      else
        some
          { world with
            recorded := world.recorded ++ [call]
            health := world.health.recordPublishResults
              (results.map fun result => (result.brokerId, result.outcome)) }
  | _ => none

def step (world : PublishWorld Reason) : PublishEvent Reason → Option (PublishWorld Reason)
  | .brokerChanges position state =>
      some
        { world with
          brokers := world.brokers.modify position fun broker => (broker.1, state) }
  | .publish => some world.publish
  | .settles call position outcome =>
      if world.awaits call position then
        some { world with heap := world.heap.settle (call, position) outcome }
      else none
  | .records call => world.records message call

end PublishWorld

/-- The runs of a service with these brokers, in any states. -/
def publishSystem {Reason : Type u} (message : Reason → Option String) (ids : List String) :
    EventSystem (PublishWorld Reason) (PublishEvent Reason) where
  Initial world := ∃ brokers, brokers.map Prod.fst = ids ∧ world = .new brokers
  step := PublishWorld.step message

namespace PublishWorld

variable {Reason : Type u}

/-- A result is the one of a broker in this state whose promise has this settlement. -/
structure IsOwn (message : Reason → Option String) (state : BrokerState)
    (settlement : Option (Settlement Unit Reason)) (result : PublishResult) : Prop where
  skipped : result.outcome = .skipped ↔ state ≠ .connected
  sent : result.outcome = .sent ↔ state = .connected ∧ settlement = some (.fulfilled ())
  failed : result.outcome = .failed ↔
    state = .connected ∧ ∃ reason, settlement = some (.rejected reason)
  error : ∀ reason, state = .connected → settlement = some (.rejected reason) →
    result.error = message reason

/-- What has become of a call made when the brokers were in these states. -/
structure Delivers (message : Reason → Option String) (brokers : List (String × BrokerState))
    (call : Nat) (world : PublishWorld Reason) : Prop where
  waits : world.promise message call = .pending ↔
    ∃ position id, brokers[position]? = some (id, .connected) ∧
      world.heap.settlement (call, position) = none
  neverRejects : world.promise message call ≠ .rejected
  inOrder : ∀ results, world.promise message call = .resolved results →
    results.map PublishResult.brokerId = brokers.map Prod.fst
  own : ∀ results, world.promise message call = .resolved results →
    ∀ position broker result, brokers[position]? = some broker →
      results[position]? = some result →
      IsOwn message broker.2 (world.heap.settlement (call, position)) result

/-- The outcome of a call for a broker. -/
def outcomeOf (message : Reason → Option String) (world : PublishWorld Reason) (brokerId : String)
    (call : Nat) : Option DeliveryOutcome :=
  match world.promise message call with
  | .resolved results =>
      (results.find? fun result => result.brokerId = brokerId).map PublishResult.outcome
  | _ => none

/-- The accounts of the brokers: each call made now will be delivered, and the counters are
those of the calls recorded so far. -/
structure Accounts (message : Reason → Option String) (ids : List String)
    (world : PublishWorld Reason) : Prop where
  delivers : ∀ later after,
    (publishSystem message ids).run EventSystem.anyStep world.publish later = some after →
      Delivers message world.brokers world.calls.length after
  configured : world.brokers.map Prod.fst = ids
  once : world.recorded.Nodup
  counts : ∀ brokerId ∈ ids, ∀ outcome,
    (world.health.deliveries brokerId).count outcome =
      world.recorded.countP fun call => world.outcomeOf message brokerId call = some outcome
  total : ∀ brokerId ∈ ids,
    (world.health.deliveries brokerId).sent + (world.health.deliveries brokerId).skipped +
      (world.health.deliveries brokerId).failed = world.recorded.length

end PublishWorld

namespace MqttManager

variable {call position : Nat} {brokers : List (String × BrokerState)}

theorem attempts_get {broker : String × BrokerState} (found : brokers[position]? = some broker) :
    (attempts call brokers)[position]? =
      some
        { brokerId := broker.1
          promise := if broker.2 = .connected then some (call, position) else none } := by
  simp [attempts, found]

theorem brokerIds_attempts :
    (attempts call brokers).map PublishAttempt.brokerId = brokers.map Prod.fst := by
  apply List.ext_getElem
  · simp [attempts]
  · intro position _ _
    simp [attempts]

theorem mem_promises_attempts {name : PublishName} :
    name ∈ promises (attempts call brokers) ↔
      ∃ position id, brokers[position]? = some (id, .connected) ∧ name = (call, position) := by
  simp only [promises, attempts, List.mem_filterMap, List.mem_map]
  constructor
  · rintro ⟨attempt, ⟨⟨⟨id, state⟩, position⟩, member, rfl⟩, promised⟩
    simp only [Option.ite_none_right_eq_some, Option.some.injEq] at promised
    rcases promised with ⟨rfl, rfl⟩
    exact ⟨position, id, List.mem_zipIdx_iff_getElem?.mp member, rfl⟩
  · rintro ⟨position, id, found, rfl⟩
    have member : ((id, BrokerState.connected), position) ∈ brokers.zipIdx :=
      List.mem_zipIdx_iff_getElem?.mpr found
    exact ⟨_, ⟨_, member, rfl⟩, by simp⟩

variable {Reason : Type u} {message : Reason → Option String} {heap : PublishHeap Reason}

theorem brokerIds_ownResult (attempts : List PublishAttempt) :
    (attempts.map (ownResult message heap)).map PublishResult.brokerId =
      attempts.map PublishAttempt.brokerId := by
  rw [List.map_map]
  apply List.map_congr_left
  intro attempt _
  simp only [Function.comp_apply, ownResult]
  split
  · rfl
  · rfl
  · rfl

/-- The result for a broker that was not connected. -/
theorem isOwn_of_away (brokerId : String) {state : BrokerState} (away : state ≠ .connected)
    (settlement : Option (Settlement Unit Reason)) :
    PublishWorld.IsOwn message state settlement
      (ownResult message heap { brokerId, promise := none }) := by
  constructor
  · simp [ownResult, away]
  · simp [ownResult, away]
  · simp [ownResult, away]
  · intro reason connected
    exact absurd connected away

/-- The result for a broker whose promise has settled. -/
theorem isOwn_of_connected (brokerId : String) {name : PublishName}
    (settled : (heap.settlement name).isSome) :
    PublishWorld.IsOwn message .connected (heap.settlement name)
      (ownResult message heap { brokerId, promise := some name }) := by
  rcases Option.isSome_iff_exists.mp settled with ⟨outcome, found⟩
  cases outcome with
  | fulfilled value =>
      constructor
      · simp [ownResult, found]
      · simp [ownResult, found]
      · simp [ownResult, found]
      · intro reason _ other
        simp [found] at other
  | rejected reason =>
      constructor
      · simp [ownResult, found]
      · simp [ownResult, found]
      · simp [ownResult, found]
      · intro other _ same
        simp only [found, Option.some.injEq, Settlement.rejected.injEq] at same
        simp [ownResult, found, same]

end MqttManager

namespace PublishWorld

variable {Reason : Type u} {message : Reason → Option String} {world after : PublishWorld Reason}
  {ids : List String}

theorem delivers_of_attempts {brokers : List (String × BrokerState)} {call : Nat}
    (made : world.calls[call]? = some (MqttManager.attempts call brokers)) :
    Delivers message brokers call world := by
  have promise : world.promise message call =
      MqttManager.publish message world.heap (MqttManager.attempts call brokers) := by
    rw [PublishWorld.promise, made]
  rw [MqttManager.publish_eq] at promise
  constructor
  · rw [promise]
    split
    · rename_i settled
      simp only [reduceCtorEq, false_iff]
      rintro ⟨position, id, found, pending⟩
      have isSome := settled _ (MqttManager.mem_promises_attempts.mpr ⟨position, id, found, rfl⟩)
      simp [pending] at isSome
    · rename_i waiting
      simp only [true_iff]
      by_contra none
      apply waiting
      intro name member
      rcases MqttManager.mem_promises_attempts.mp member with ⟨position, id, found, rfl⟩
      by_contra pending
      exact none ⟨position, id, found, by simpa using pending⟩
  · rw [promise]
    split
    · simp
    · simp
  · intro results resolved
    rw [promise] at resolved
    split at resolved
    · cases resolved
      rw [MqttManager.brokerIds_ownResult, MqttManager.brokerIds_attempts]
    · cases resolved
  · intro results resolved position broker result found resultFound
    rw [promise] at resolved
    split at resolved
    · rename_i settled
      cases resolved
      rcases broker with ⟨id, state⟩
      simp only [List.getElem?_map, MqttManager.attempts_get found, Option.map_some,
        Option.some.injEq] at resultFound
      subst result
      by_cases connected : state = .connected
      · subst state
        have started : (call, position) ∈
            MqttManager.promises (MqttManager.attempts call brokers) :=
          MqttManager.mem_promises_attempts.mpr ⟨position, id, found, rfl⟩
        exact MqttManager.isOwn_of_connected id (settled _ started)
      · rw [if_neg connected]
        exact MqttManager.isOwn_of_away id connected _
    · cases resolved

/-- Calls are only added, and what has settled stays as it is. -/
structure Extends (world after : PublishWorld Reason) : Prop where
  brokers : after.brokers.map Prod.fst = world.brokers.map Prod.fst
  calls : world.calls <+: after.calls
  settled : ∀ name outcome, world.heap.settlement name = some outcome →
    after.heap.settlement name = some outcome

theorem Extends.refl (world : PublishWorld Reason) : Extends world world :=
  ⟨rfl, List.prefix_rfl, fun _ _ settled => settled⟩

theorem extends_step {event : PublishEvent Reason}
    (stepped : world.step message event = some after) : Extends world after := by
  cases event with
  | brokerChanges position state =>
      cases stepped
      refine ⟨?_, List.prefix_rfl, fun _ _ settled => settled⟩
      apply List.ext_getElem
      · simp
      · intro other _ _
        simp only [List.getElem_map, List.getElem_modify]
        split
        · rfl
        · rfl
  | publish =>
      cases stepped
      exact ⟨rfl, List.prefix_append _ _, fun _ _ settled => settled⟩
  | settles call position outcome =>
      simp only [step, Option.ite_none_right_eq_some, Option.some.injEq] at stepped
      rcases stepped with ⟨_, rfl⟩
      refine ⟨rfl, List.prefix_rfl, ?_⟩
      intro name other settled
      exact PromiseHeap.settlement_settle_keeps settled outcome
  | records call =>
      simp only [step, records] at stepped
      split at stepped
      · simp only [Option.ite_none_left_eq_some, Option.some.injEq] at stepped
        rcases stepped with ⟨_, rfl⟩
        exact ⟨rfl, List.prefix_rfl, fun _ _ settled => settled⟩
      · cases stepped

theorem Extends.trans {first second third : PublishWorld Reason} (before : Extends first second)
    (behind : Extends second third) : Extends first third where
  brokers := behind.brokers.trans before.brokers
  calls := before.calls.trans behind.calls
  settled := fun name outcome settled =>
    behind.settled name outcome (before.settled name outcome settled)

theorem extends_run {later : List (PublishEvent Reason)}
    (ran : (publishSystem message ids).run EventSystem.anyStep world later = some after) :
    Extends world after := by
  have keeps : ∀ (before : PublishWorld Reason) (event) (next : PublishWorld Reason),
      Extends world before → EventSystem.anyStep before event →
      before.step message event = some next → Extends world next := by
    intro before event next reached _ stepped
    exact reached.trans (extends_step stepped)
  exact (EventSystem.leads_of_run ran).invariant keeps (.refl world)

theorem delivers_run {later : List (PublishEvent Reason)}
    (ran : (publishSystem message ids).run EventSystem.anyStep world.publish later = some after) :
    Delivers message world.brokers world.calls.length after := by
  apply delivers_of_attempts
  rcases (extends_run ran).calls with ⟨more, calls⟩
  rw [← calls, publish]
  simp

theorem promise_eq_resolved {call : Nat} {results : List PublishResult} :
    world.promise message call = .resolved results ↔
      ∃ attempts, world.calls[call]? = some attempts ∧
        (∀ name ∈ MqttManager.promises attempts, (world.heap.settlement name).isSome) ∧
        attempts.map (MqttManager.ownResult message world.heap) = results := by
  cases made : world.calls[call]? with
  | none => simp [promise, made]
  | some attempts =>
      simp only [promise, made, MqttManager.publish_eq, Option.some.injEq, exists_eq_left']
      split
      · rename_i settled
        rw [PublishPromise.resolved.injEq]
        exact ⟨fun same => ⟨settled, same⟩, fun same => same.2⟩
      · rename_i waiting
        simp only [reduceCtorEq, false_iff, not_and]
        intro settled
        exact absurd settled waiting

theorem ownResult_extends (grown : Extends world after) {attempts : List PublishAttempt}
    (settled : ∀ name ∈ MqttManager.promises attempts, (world.heap.settlement name).isSome) :
    attempts.map (MqttManager.ownResult message after.heap) =
      attempts.map (MqttManager.ownResult message world.heap) := by
  apply List.map_congr_left
  rintro ⟨brokerId, promise⟩ member
  cases promise with
  | none => rfl
  | some name =>
      have started : name ∈ MqttManager.promises attempts :=
        List.mem_filterMap.mpr ⟨_, member, rfl⟩
      rcases Option.isSome_iff_exists.mp (settled name started) with ⟨outcome, found⟩
      simp [MqttManager.ownResult, found, grown.settled name outcome found]

/-- A promise that has resolved keeps its results. -/
theorem promise_extends (grown : Extends world after) {call : Nat}
    {results : List PublishResult} (resolved : world.promise message call = .resolved results) :
    after.promise message call = .resolved results := by
  rcases promise_eq_resolved.mp resolved with ⟨attempts, made, settled, same⟩
  apply promise_eq_resolved.mpr
  refine ⟨attempts, ?_, ?_, ?_⟩
  · rcases grown.calls with ⟨more, calls⟩
    rw [← calls]
    have within := (List.getElem?_eq_some_iff.mp made).1
    simpa [List.getElem?_append_left within] using made
  · intro name member
    rcases Option.isSome_iff_exists.mp (settled name member) with ⟨outcome, found⟩
    simp [grown.settled name outcome found]
  · rw [ownResult_extends grown settled, same]

/-- What is recorded of a list of results. -/
theorem count_recordPublishResults (health : ServiceHealth)
    (results : List (String × DeliveryOutcome)) (brokerId : String) (outcome : DeliveryOutcome) :
    ((health.recordPublishResults results).deliveries brokerId).count outcome =
      (health.deliveries brokerId).count outcome +
        results.countP fun result => result = (brokerId, outcome) := by
  induction results generalizing health with
  | nil => simp [ServiceHealth.recordPublishResults]
  | cons result results ih =>
      have rest := ih (health.recordPublishResult result.1 result.2)
      simp only [ServiceHealth.recordPublishResults, List.foldl_cons] at rest ⊢
      rw [rest, ServiceHealth.deliveries_recordPublishResult, List.countP_cons]
      rcases result with ⟨id, other⟩
      by_cases same : brokerId = id
      · subst id
        rw [if_pos rfl, Deliveries.count_increment]
        by_cases counted : outcome = other
        · subst other
          simp
          omega
        · have apart : (brokerId, other) ≠ (brokerId, outcome) := by
            simpa using Ne.symm counted
          simp [counted, apart]
      · have apart : (id, other) ≠ (brokerId, outcome) := by
          simp [Ne.symm same]
        simp [same, apart]

/-- With one result for each broker, a broker's is counted once. -/
theorem countP_results {results : List PublishResult}
    (unique : (results.map PublishResult.brokerId).Nodup) (brokerId : String)
    (outcome : DeliveryOutcome) :
    ((results.map fun result => (result.brokerId, result.outcome)).countP fun result =>
        result = (brokerId, outcome)) =
      if (results.find? fun result => result.brokerId = brokerId).map PublishResult.outcome =
        some outcome then 1 else 0 := by
  induction results with
  | nil => rfl
  | cons result results ih =>
      simp only [List.map_cons, List.nodup_cons] at unique
      have rest := ih unique.2
      rw [List.map_cons, List.countP_cons, rest]
      by_cases own : result.brokerId = brokerId
      · subst brokerId
        have absent : (results.find? fun other => other.brokerId = result.brokerId) = none := by
          apply List.find?_eq_none.mpr
          intro other member
          have apart : other.brokerId ≠ result.brokerId := by
            intro same
            exact unique.1 (same ▸ List.mem_map_of_mem member)
          simpa using apart
        rw [absent]
        simp
      · have apart : (result.brokerId, result.outcome) ≠ (brokerId, outcome) := by
          simp [own]
        simp [own, apart]

structure Counted (message : Reason → Option String) (ids : List String)
    (world : PublishWorld Reason) : Prop where
  configured : world.brokers.map Prod.fst = ids
  attempted : ∀ attempts ∈ world.calls, attempts.map PublishAttempt.brokerId = ids
  resolved : ∀ call ∈ world.recorded, ∃ results, world.promise message call = .resolved results
  once : world.recorded.Nodup
  counts : ∀ brokerId ∈ ids, ∀ outcome,
    (world.health.deliveries brokerId).count outcome =
      world.recorded.countP fun call => world.outcomeOf message brokerId call = some outcome

theorem counted_new (brokers : List (String × BrokerState)) :
    Counted message (brokers.map Prod.fst) (new brokers) where
  configured := rfl
  attempted := by
    intro attempts member
    cases member
  resolved := by
    intro call member
    cases member
  once := List.nodup_nil
  counts := by
    intro brokerId _ outcome
    cases outcome with
    | sent => rfl
    | skipped => rfl
    | failed => rfl

/-- The recorded calls have the outcomes they had. -/
theorem Counted.outcomes_extends (counted : Counted message ids world)
    (grown : Extends world after) (brokerId : String) (outcome : DeliveryOutcome) :
    (world.recorded.countP fun call => after.outcomeOf message brokerId call = some outcome) =
      world.recorded.countP fun call => world.outcomeOf message brokerId call = some outcome := by
  apply List.countP_congr
  intro call member
  rcases counted.resolved call member with ⟨results, resolved⟩
  simp [outcomeOf, resolved, promise_extends grown resolved]

theorem Counted.resolved_extends (counted : Counted message ids world)
    (grown : Extends world after) (call : Nat) (member : call ∈ world.recorded) :
    ∃ results, after.promise message call = .resolved results := by
  rcases counted.resolved call member with ⟨results, resolved⟩
  exact ⟨results, promise_extends grown resolved⟩

theorem Counted.brokerIds (counted : Counted message ids world) {call : Nat}
    {results : List PublishResult} (resolved : world.promise message call = .resolved results) :
    results.map PublishResult.brokerId = ids := by
  rcases promise_eq_resolved.mp resolved with ⟨attempts, made, _, rfl⟩
  rw [MqttManager.brokerIds_ownResult]
  exact counted.attempted attempts (List.mem_of_getElem? made)

/-- A step that records nothing. -/
theorem Counted.unrecorded (counted : Counted message ids world) (grown : Extends world after)
    (attempted : ∀ attempts ∈ after.calls, attempts.map PublishAttempt.brokerId = ids)
    (recorded : after.recorded = world.recorded) (health : after.health = world.health) :
    Counted message ids after where
  configured := grown.brokers.trans counted.configured
  attempted := attempted
  resolved := by
    rw [recorded]
    exact counted.resolved_extends grown
  once := by
    rw [recorded]
    exact counted.once
  counts := by
    intro brokerId configured outcome
    rw [recorded, health, counted.outcomes_extends grown]
    exact counted.counts brokerId configured outcome

theorem Counted.recordsOnce (unique : ids.Nodup) (counted : Counted message ids world) {call : Nat}
    {results : List PublishResult} (resolved : world.promise message call = .resolved results)
    (fresh : call ∉ world.recorded)
    (recorded : after.recorded = world.recorded ++ [call])
    (health : after.health = world.health.recordPublishResults
      (results.map fun result => (result.brokerId, result.outcome)))
    (grown : Extends world after) (calls : after.calls = world.calls) :
    Counted message ids after where
  configured := grown.brokers.trans counted.configured
  attempted := by
    rw [calls]
    exact counted.attempted
  resolved := by
    intro other member
    rw [recorded] at member
    rcases List.mem_append.mp member with before | own
    · exact counted.resolved_extends grown other before
    · cases List.mem_singleton.mp own
      exact ⟨results, promise_extends grown resolved⟩
  once := by
    rw [recorded, ← List.concat_eq_append]
    exact (List.nodup_concat _ _).mpr ⟨fresh, counted.once⟩
  counts := by
    intro brokerId configured outcome
    have before := counted.counts brokerId configured outcome
    have brokerIds := counted.brokerIds resolved
    have own : after.outcomeOf message brokerId call =
        (results.find? fun result => result.brokerId = brokerId).map PublishResult.outcome := by
      simp [outcomeOf, promise_extends grown resolved]
    rw [health, count_recordPublishResults, countP_results (by rwa [brokerIds]), before, recorded,
      List.countP_append, counted.outcomes_extends grown, List.countP_singleton, own]
    simp

theorem Counted.step (unique : ids.Nodup) (counted : Counted message ids world)
    {event : PublishEvent Reason} (stepped : world.step message event = some after) :
    Counted message ids after := by
  have grown := extends_step stepped
  cases event with
  | brokerChanges position state =>
      cases stepped
      exact counted.unrecorded grown counted.attempted rfl rfl
  | publish =>
      cases stepped
      refine counted.unrecorded grown ?_ rfl rfl
      intro attempts member
      rcases List.mem_append.mp member with before | own
      · exact counted.attempted attempts before
      · cases List.mem_singleton.mp own
        rw [MqttManager.brokerIds_attempts]
        exact counted.configured
  | settles call position outcome =>
      simp only [PublishWorld.step, Option.ite_none_right_eq_some, Option.some.injEq] at stepped
      rcases stepped with ⟨_, rfl⟩
      exact counted.unrecorded grown counted.attempted rfl rfl
  | records call =>
      simp only [PublishWorld.step, records] at stepped
      split at stepped
      · rename_i results resolved
        simp only [Option.ite_none_left_eq_some, Option.some.injEq] at stepped
        rcases stepped with ⟨fresh, rfl⟩
        apply counted.recordsOnce unique resolved ?_ rfl rfl grown rfl
        simpa using fresh
      · cases stepped

/-- A broker that is configured has an outcome in every call that was recorded. -/
theorem Counted.outcome_recorded (counted : Counted message ids world) {brokerId : String}
    (configured : brokerId ∈ ids) {call : Nat} (member : call ∈ world.recorded) :
    ∃ outcome, world.outcomeOf message brokerId call = some outcome := by
  rcases counted.resolved call member with ⟨results, resolved⟩
  rw [← counted.brokerIds resolved] at configured
  rcases List.mem_map.mp configured with ⟨result, resultMem, rfl⟩
  cases found : results.find? fun other => other.brokerId = result.brokerId with
  | none =>
      have absent := List.find?_eq_none.mp found result resultMem
      simp at absent
  | some first => exact ⟨first.outcome, by simp [outcomeOf, resolved, found]⟩

theorem countP_outcomes {calls : List Nat} {outcomes : Nat → Option DeliveryOutcome}
    (known : ∀ call ∈ calls, ∃ outcome, outcomes call = some outcome) :
    (calls.countP fun call => outcomes call = some .sent) +
        (calls.countP fun call => outcomes call = some .skipped) +
        (calls.countP fun call => outcomes call = some .failed) =
      calls.length := by
  induction calls with
  | nil => rfl
  | cons call calls ih =>
      have rest := ih fun other member => known other (List.mem_cons_of_mem _ member)
      rcases known call List.mem_cons_self with ⟨outcome, found⟩
      simp only [List.countP_cons, List.length_cons, found]
      cases outcome with
      | sent =>
          simp
          omega
      | skipped =>
          simp
          omega
      | failed =>
          simp
          omega

theorem counted_of_reachable (unique : ids.Nodup)
    (reachable : (publishSystem message ids).Reachable world) : Counted message ids world := by
  refine reachable.invariant ?_ ?_
  · rintro state ⟨brokers, rfl, rfl⟩
    exact counted_new brokers
  · intro before event next counted _ stepped
    exact counted.step unique stepped

/-- Per-broker delivery accounting, in every reachable state. -/
theorem accounts_of_reachable (unique : ids.Nodup)
    (reachable : (publishSystem message ids).Reachable world) : Accounts message ids world := by
  have counted := counted_of_reachable unique reachable
  constructor
  · intro later after ran
    exact delivers_run ran
  · exact counted.configured
  · exact counted.once
  · exact counted.counts
  · intro brokerId configured
    have sum := countP_outcomes fun call member => counted.outcome_recorded configured member
    have sent := counted.counts brokerId configured .sent
    have skipped := counted.counts brokerId configured .skipped
    have failed := counted.counts brokerId configured .failed
    simp only [Deliveries.count] at sent skipped failed
    omega

/-- Three brokers of which the second is away and the third fails. -/
def mixedRun : List (PublishEvent String) :=
  [.publish, .publish, .settles 0 2 (.rejected "down"), .settles 1 0 (.fulfilled ()),
    .settles 0 0 (.fulfilled ()), .records 0, .settles 1 2 (.fulfilled ()), .records 1]

def mixedBrokers : List (String × BrokerState) :=
  [("a", .connected), ("b", .retrying), ("c", .connected)]

theorem isSome_mixedRun :
    ((publishSystem some ["a", "b", "c"]).run EventSystem.anyStep (new mixedBrokers)
      mixedRun).isSome := by
  rfl

theorem accounts_of_mixedRun :
    Accounts some ["a", "b", "c"]
      (((publishSystem some ["a", "b", "c"]).run EventSystem.anyStep (new mixedBrokers)
        mixedRun).get isSome_mixedRun) := by
  have initially : (publishSystem (some : String → Option String) ["a", "b", "c"]).Initial
      (new mixedBrokers) := ⟨mixedBrokers, rfl, rfl⟩
  exact accounts_of_reachable (by decide)
    (EventSystem.reachableWhen_get initially isSome_mixedRun)

end PublishWorld

end MeshcoreObserver
