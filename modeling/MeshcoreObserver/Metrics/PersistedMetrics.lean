import MeshcoreObserver.Metrics.MetricsSample
import MeshcoreObserver.Transition.EventSystem

/-!
# Persisted metrics

The sampler over the counters of the service. What it has persisted adds up to
its last snapshot, for every counter, as long as no sample is lost: a tick whose
`recordPacketSample` throws still moves the last snapshot on, so what was
counted since the tick before it is in no sample, persisted or to come.

The sums are over the samples persisted since the process started, whether or
not they have been pruned since.
-/

namespace MeshcoreObserver

open Counting Transition

/-- A counter which is both cumulated and sampled. -/
inductive Reading where
  | received
  | decoded
  | bucket (key : PacketTypeBucket)
  | delivery (brokerId : String) (outcome : DeliveryOutcome)
  deriving DecidableEq, Repr

def ServiceHealth.reading (health : ServiceHealth) : Reading → Int
  | .received => health.packetsReceived
  | .decoded => health.packetsDecoded
  | .bucket key => count key (bucketPacketsByType health.packetsByType)
  | .delivery brokerId outcome => (health.deliveries brokerId).count outcome

def StoredSample.reading (sample : StoredSample) : Reading → Int
  | .received => sample.packetsReceived
  | .decoded => sample.packetsDecoded
  | .bucket key => total (fun bucket => bucket = key) sample.packetTypes
  | .delivery brokerId outcome => total (fun row => row = (brokerId, outcome)) sample.deliveries

def totalReading (samples : List StoredSample) (reading : Reading) : Int :=
  (samples.map fun sample => sample.reading reading).sum

/-- The counters of the snapshot before, where there is one. -/
def prevReading (prevSnapshot : Option Snapshot) : Reading → Int
  | .received => prevPacketsReceived prevSnapshot
  | .decoded => prevPacketsDecoded prevSnapshot
  | .bucket key => count key (bucketPacketsByType (prevPacketsByType prevSnapshot))
  | .delivery brokerId outcome => (prevDeliveries prevSnapshot brokerId).count outcome

structure MetricsSampler where
  sampleIntervalMs : Int
  retentionDays : Int
  lastSnapshot : Option Snapshot
  lastPrunedAt : Option Int
  deriving DecidableEq, Repr

/-- The sampler with its counters and the table of samples. `persisted` and `lost` are the samples
whose `recordPacketSample` returned and threw. -/
structure MetricsWorld where
  health : ServiceHealth
  sampler : MetricsSampler
  stored : List StoredSample
  persisted : List StoredSample
  lost : List StoredSample
  deriving DecidableEq, Repr

inductive MetricsEvent where
  | packetReceived
  | packetDecoded (payloadType : Nat)
  | publishResults (results : List (String × DeliveryOutcome))
  | tick (gauges : Gauges) (sampleAt now : Int) (persists prunes : Bool)
  deriving DecidableEq, Repr

def oneDayMs : Int := 24 * 60 * 60 * 1000

namespace MetricsWorld

def new (brokers : List String) (sampleIntervalMs retentionDays : Int)
    (stored : List StoredSample) : MetricsWorld :=
  { health := .new brokers
    sampler := { sampleIntervalMs, retentionDays, lastSnapshot := none, lastPrunedAt := none }
    stored
    persisted := []
    lost := [] }

/-- The sample of a tick, with its rows. -/
def sampleOf (world : MetricsWorld) (snapshot : Snapshot) (sampleAt : Int) : StoredSample :=
  recordPacketSample
    (computeSampleDelta world.sampler.lastSnapshot snapshot sampleAt
      world.sampler.sampleIntervalMs)

def recordSample (world : MetricsWorld) (snapshot : Snapshot) (sampleAt : Int)
    (persists : Bool) : MetricsWorld :=
  let sample := world.sampleOf snapshot sampleAt
  if persists then
    { world with stored := world.stored ++ [sample], persisted := world.persisted ++ [sample] }
  else { world with lost := world.lost ++ [sample] }

def pruneOlderThan (stored : List StoredSample) (cutoffMs : Int) : List StoredSample :=
  stored.filter fun sample => cutoffMs ≤ sample.sampleAt

def maybePrune (world : MetricsWorld) (now : Int) (prunes : Bool) : MetricsWorld :=
  if world.sampler.retentionDays ≤ 0 then world
  else if world.sampler.lastPrunedAt.any fun prunedAt => now - prunedAt < oneDayMs then world
  else
    { world with
      sampler := { world.sampler with lastPrunedAt := some now }
      stored :=
        if prunes then
          pruneOlderThan world.stored (now - world.sampler.retentionDays * oneDayMs)
        else world.stored }

def tick (world : MetricsWorld) (gauges : Gauges) (sampleAt now : Int)
    (persists prunes : Bool) : MetricsWorld :=
  let snapshot := world.health.snapshot gauges
  let ticked := (world.recordSample snapshot sampleAt persists).maybePrune now prunes
  { ticked with sampler := { ticked.sampler with lastSnapshot := some snapshot } }

def step (world : MetricsWorld) : MetricsEvent → MetricsWorld
  | .packetReceived => { world with health := world.health.packetReceived }
  | .packetDecoded payloadType =>
      { world with health := world.health.packetDecoded (toString payloadType) }
  | .publishResults results => { world with health := world.health.recordPublishResults results }
  | .tick gauges sampleAt now persists prunes =>
      world.tick gauges sampleAt now persists prunes

end MetricsWorld

/-- Every run of the sampler, over any configuration. The ids of the brokers are distinct. -/
def metricsSystem : EventSystem MetricsWorld MetricsEvent where
  Initial world := ∃ brokers sampleIntervalMs retentionDays stored, brokers.Nodup ∧
    world = .new brokers sampleIntervalMs retentionDays stored
  step world event := some (world.step event)

/-- The counters a sample can hold: those of the service and of its configured brokers. -/
def ServiceHealth.Counts (health : ServiceHealth) : Reading → Prop
  | .delivery brokerId _ => brokerId ∈ health.brokers
  | _ => True

/-- Every counter is in the persisted samples. -/
def MetricsWorld.PersistsAll (world : MetricsWorld) : Prop :=
  ∀ reading, world.health.Counts reading →
    totalReading world.persisted reading = world.health.reading reading

/-- What a snapshot has counted since the one before. -/
structure Follows (prevSnapshot : Option Snapshot) (snapshot : Snapshot) : Prop where
  received : prevPacketsReceived prevSnapshot ≤ snapshot.packetsReceived
  decoded : prevPacketsDecoded prevSnapshot ≤ snapshot.packetsDecoded
  grown : GrownFrom (prevPacketsByType prevSnapshot) snapshot.packetsByType
  prevNodup : ((prevPacketsByType prevSnapshot).map Prod.fst).Nodup
  mqttNodup : (snapshot.mqtt.map Prod.fst).Nodup
  counted : ∀ entry ∈ snapshot.mqtt, ∀ outcome,
    (prevDeliveries prevSnapshot entry.1).count outcome ≤ entry.2.deliveries.count outcome
  brokers : ∀ brokerId, brokerId ∉ snapshot.mqtt.map Prod.fst →
    prevDeliveries prevSnapshot brokerId = .zero

theorem total_deliveryRows {brokerId other : String} {counts : Deliveries}
    {outcome : DeliveryOutcome} (nonneg : ∀ outcome, 0 ≤ counts.count outcome) :
    total (fun row => row = (other, outcome)) (deliveryRows brokerId counts) =
      if brokerId = other then counts.count outcome else 0 := by
  have entries : ∀ row ∈ [((brokerId, DeliveryOutcome.sent), counts.sent),
      ((brokerId, .skipped), counts.skipped), ((brokerId, .failed), counts.failed)],
      0 ≤ row.2 := by
    intro row rowMem
    simp only [List.mem_cons, List.not_mem_nil, or_false] at rowMem
    rcases rowMem with rfl | rfl | rfl
    · exact nonneg .sent
    · exact nonneg .skipped
    · exact nonneg .failed
  rw [deliveryRows, total_filter_pos entries]
  by_cases same : brokerId = other
  · cases outcome <;> simp [total, same, Deliveries.count]
  · simp [total, same]

theorem count_of_not_anyPositive {counts : Deliveries} (none : counts.anyPositive = false)
    (nonneg : ∀ outcome, 0 ≤ counts.count outcome) (outcome : DeliveryOutcome) :
    counts.count outcome = 0 := by
  simp only [Deliveries.anyPositive, Bool.or_eq_false_iff, decide_eq_false_iff_not] at none
  have least := nonneg outcome
  cases outcome with
  | sent => exact Int.le_antisymm (Int.not_lt.mp none.1.1) least
  | skipped => exact Int.le_antisymm (Int.not_lt.mp none.1.2) least
  | failed => exact Int.le_antisymm (Int.not_lt.mp none.2) least

theorem nonneg_deliveryRows {brokerId : String} {counts : Deliveries} :
    ∀ row ∈ deliveryRows brokerId counts, 0 ≤ row.2 := by
  intro row rowMem
  have positive := (List.mem_filter.mp rowMem).2
  exact Int.le_of_lt (of_decide_eq_true positive)

theorem reading_nonneg {prevSnapshot : Option Snapshot} {snapshot : Snapshot}
    (follows : Follows prevSnapshot snapshot) (sampleAt intervalMs : Int) (reading : Reading) :
    0 ≤ (recordPacketSample
      (computeSampleDelta prevSnapshot snapshot sampleAt intervalMs)).reading reading := by
  cases reading with
  | received => exact Int.sub_nonneg_of_le follows.received
  | decoded => exact Int.sub_nonneg_of_le follows.decoded
  | bucket key =>
      simp only [StoredSample.reading, recordPacketSample]
      refine total_nonneg _ fun row rowMem => ?_
      have positive := (List.mem_filter.mp rowMem).2
      exact Int.le_of_lt (of_decide_eq_true positive)
  | delivery brokerId outcome =>
      simp only [StoredSample.reading, recordPacketSample]
      refine total_nonneg _ fun row rowMem => ?_
      rcases List.mem_flatMap.mp rowMem with ⟨entry, _, rows⟩
      exact nonneg_deliveryRows row rows

/-- The deliveries of one broker in the rows of a sample. -/
theorem total_deliveriesDelta {prevSnapshot : Option Snapshot}
    {mqtt : List (String × BrokerHealth)} (nodup : (mqtt.map Prod.fst).Nodup)
    (counted : ∀ entry ∈ mqtt, ∀ outcome,
      (prevDeliveries prevSnapshot entry.1).count outcome ≤ entry.2.deliveries.count outcome)
    (brokerId : String) (outcome : DeliveryOutcome) :
    total (fun row => row = (brokerId, outcome))
        ((deliveriesDelta prevSnapshot mqtt).flatMap fun entry => deliveryRows entry.1 entry.2) =
      ((find? brokerId mqtt).map fun state =>
        state.deliveries.count outcome -
          (prevDeliveries prevSnapshot brokerId).count outcome).getD 0 := by
  induction mqtt with
  | nil => rfl
  | cons entry rest ih =>
      simp only [List.map_cons, List.nodup_cons] at nodup
      have others := ih nodup.2 fun other later => counted other (List.mem_cons_of_mem entry later)
      have nonneg : ∀ outcome,
          0 ≤ (entry.2.deliveries.minus (prevDeliveries prevSnapshot entry.1)).count outcome := by
        intro outcome
        rw [Deliveries.count_minus]
        exact Int.sub_nonneg_of_le (counted entry List.mem_cons_self outcome)
      have first : total (fun row => row = (brokerId, outcome))
          ((deliveriesDelta prevSnapshot (entry :: rest)).flatMap fun entry =>
            deliveryRows entry.1 entry.2) =
          (if entry.1 = brokerId then
            (entry.2.deliveries.minus (prevDeliveries prevSnapshot entry.1)).count outcome
          else 0) +
            total (fun row => row = (brokerId, outcome))
              ((deliveriesDelta prevSnapshot rest).flatMap fun entry =>
                deliveryRows entry.1 entry.2) := by
        cases positive :
            (entry.2.deliveries.minus (prevDeliveries prevSnapshot entry.1)).anyPositive with
        | true =>
            simp only [deliveriesDelta, List.filterMap_cons, positive, if_true,
              List.flatMap_cons, total_append, total_deliveryRows nonneg]
        | false =>
            simp only [deliveriesDelta, List.filterMap_cons, positive, Bool.false_eq_true, if_false]
            rw [count_of_not_anyPositive positive nonneg, ite_self, Int.zero_add]
      rw [first, others]
      by_cases same : entry.1 = brokerId
      · subst brokerId
        have missing : find? entry.1 rest = none := find?_of_absent nodup.1
        simp only [if_true, find?, missing, Option.map_none, Option.getD_none, Option.map_some,
          Option.getD_some, Deliveries.count_minus, Int.add_zero]
      · simp only [same, if_false, find?, Int.zero_add]

/-- A sample holds what each counter has grown by since the snapshot before. -/
theorem reading_computeSampleDelta {prevSnapshot : Option Snapshot} {snapshot : Snapshot}
    (follows : Follows prevSnapshot snapshot) (sampleAt intervalMs : Int) (reading : Reading) :
    (recordPacketSample
        (computeSampleDelta prevSnapshot snapshot sampleAt intervalMs)).reading reading =
      prevReading (some snapshot) reading - prevReading prevSnapshot reading := by
  cases reading with
  | received => rfl
  | decoded => rfl
  | bucket key =>
      simp only [StoredSample.reading, recordPacketSample, computeSampleDelta,
        bucketPacketsByType, prevReading, count_regroup]
      rw [total_filter_pos (nonneg_regroup (nonneg_difference _ _)), total_regroup,
        total_difference follows.grown follows.prevNodup]
      rfl
  | delivery brokerId outcome =>
      refine (total_deliveriesDelta follows.mqttNodup follows.counted brokerId outcome).trans ?_
      simp only [prevReading, prevDeliveries, Option.bind_some]
      cases found : find? brokerId snapshot.mqtt with
      | some state => rfl
      | none =>
          have absent := follows.brokers brokerId (not_mem_of_find?_eq_none found)
          simp only [prevDeliveries] at absent
          simp only [Option.map_none, Option.getD_none, absent, Int.sub_self]

namespace ServiceHealth

/-- Only the deliveries of brokers have changed, and they have grown. -/
structure Delivers (health after : ServiceHealth) : Prop where
  brokers : after.brokers = health.brokers
  received : after.packetsReceived = health.packetsReceived
  decoded : after.packetsDecoded = health.packetsDecoded
  byType : after.packetsByType = health.packetsByType
  deliveries : ∀ brokerId outcome,
    (health.deliveries brokerId).count outcome ≤ (after.deliveries brokerId).count outcome

theorem deliveries_recordPublishResult (health : ServiceHealth) (brokerId other : String)
    (outcome : DeliveryOutcome) :
    (health.recordPublishResult brokerId outcome).deliveries other =
      if other = brokerId then (health.deliveries brokerId).increment outcome
      else health.deliveries other := by
  simp only [deliveries, recordPublishResult, find?_update]
  split
  · rfl
  · rfl

theorem delivers_recordPublishResult (health : ServiceHealth) (brokerId : String)
    (outcome : DeliveryOutcome) :
    Delivers health (health.recordPublishResult brokerId outcome) where
  brokers := rfl
  received := rfl
  decoded := rfl
  byType := rfl
  deliveries := by
    intro other kind
    rw [deliveries_recordPublishResult]
    split
    · rename_i same
      rw [same, Deliveries.count_increment]
      split
      · omega
      · omega
    · exact Int.le_refl _

theorem Delivers.trans {first second third : ServiceHealth} (before : Delivers first second)
    (after : Delivers second third) : Delivers first third where
  brokers := after.brokers.trans before.brokers
  received := after.received.trans before.received
  decoded := after.decoded.trans before.decoded
  byType := after.byType.trans before.byType
  deliveries := fun brokerId outcome =>
    Int.le_trans (before.deliveries brokerId outcome) (after.deliveries brokerId outcome)

theorem delivers_recordPublishResults (results : List (String × DeliveryOutcome))
    (health : ServiceHealth) : Delivers health (health.recordPublishResults results) := by
  induction results generalizing health with
  | nil => exact ⟨rfl, rfl, rfl, rfl, fun _ _ => Int.le_refl _⟩
  | cons result rest ih =>
      exact (delivers_recordPublishResult health result.1 result.2).trans (ih _)

end ServiceHealth

/-- The deliveries in a snapshot: those of the configured brokers it has an entry for. -/
theorem prevDeliveries_snapshot (health : ServiceHealth) (gauges : Gauges) (brokerId : String) :
    prevDeliveries (some (health.snapshot gauges)) brokerId =
      if brokerId ∈ health.brokers ∧ brokerId ≠ "__proto__" then health.deliveries brokerId
      else .zero := by
  simp only [prevDeliveries, Option.bind_some, ServiceHealth.snapshot]
  rw [find?_map brokerId fun other : String =>
    ({ connected := gauges.connectedBrokers.contains other
       deliveries := health.deliveries other } : BrokerHealth)]
  simp only [List.mem_filter, decide_eq_true_eq]
  split
  · rfl
  · rfl

theorem prevReading_snapshot {health : ServiceHealth} {reading : Reading}
    (counts : health.Counts reading)
    (named : ∀ outcome, reading = .delivery "__proto__" outcome →
      (health.deliveries "__proto__").count outcome = 0) (gauges : Gauges) :
    prevReading (some (health.snapshot gauges)) reading = health.reading reading := by
  cases reading with
  | received => rfl
  | decoded => rfl
  | bucket key => rfl
  | delivery brokerId outcome =>
      rw [prevReading, prevDeliveries_snapshot]
      by_cases proto : brokerId = "__proto__"
      · subst brokerId
        rw [if_neg fun visible => visible.2 rfl]
        exact (by cases outcome <;> rfl : Deliveries.zero.count outcome = 0).trans
          (named outcome rfl).symm
      · rw [if_pos ⟨counts, proto⟩]
        rfl

namespace MetricsWorld

structure SampledInvariant (world : MetricsWorld) : Prop where
  brokersNodup : world.health.brokers.Nodup
  byTypeNodup : (world.health.packetsByType.map Prod.fst).Nodup
  received : prevPacketsReceived world.sampler.lastSnapshot ≤ world.health.packetsReceived
  decoded : prevPacketsDecoded world.sampler.lastSnapshot ≤ world.health.packetsDecoded
  typed : total (fun _ => true) world.health.packetsByType = world.health.packetsDecoded
  prevTyped : total (fun _ => true) (prevPacketsByType world.sampler.lastSnapshot) =
    prevPacketsDecoded world.sampler.lastSnapshot
  grown : GrownFrom (prevPacketsByType world.sampler.lastSnapshot) world.health.packetsByType
  prevNodup : ((prevPacketsByType world.sampler.lastSnapshot).map Prod.fst).Nodup
  counted : ∀ brokerId outcome,
    (prevDeliveries world.sampler.lastSnapshot brokerId).count outcome ≤
      (world.health.deliveries brokerId).count outcome
  unseen : ∀ brokerId, ¬(brokerId ∈ world.health.brokers ∧ brokerId ≠ "__proto__") →
    prevDeliveries world.sampler.lastSnapshot brokerId = .zero
  balance : ∀ reading,
    totalReading world.persisted reading + totalReading world.lost reading =
      prevReading world.sampler.lastSnapshot reading
  lostNonneg : ∀ sample ∈ world.lost, ∀ reading, 0 ≤ sample.reading reading

variable {world after : MetricsWorld}

theorem SampledInvariant.follows (invariant : SampledInvariant world) (gauges : Gauges) :
    Follows world.sampler.lastSnapshot (world.health.snapshot gauges) where
  received := invariant.received
  decoded := invariant.decoded
  grown := invariant.grown
  prevNodup := invariant.prevNodup
  mqttNodup := by
    simp only [ServiceHealth.snapshot, List.map_map, Function.comp_def, List.map_id']
    exact invariant.brokersNodup.filter _
  counted := by
    intro entry entryMem outcome
    simp only [ServiceHealth.snapshot, List.mem_map] at entryMem
    rcases entryMem with ⟨brokerId, _, rfl⟩
    exact invariant.counted brokerId outcome
  brokers := by
    intro brokerId absent
    refine invariant.unseen brokerId fun visible => absent ?_
    simp only [ServiceHealth.snapshot, List.map_map, Function.comp_def, List.map_id',
      List.mem_filter, decide_eq_true_eq]
    exact visible

theorem totalReading_append (samples : List StoredSample) (sample : StoredSample)
    (reading : Reading) :
    totalReading (samples ++ [sample]) reading =
      totalReading samples reading + sample.reading reading := by
  simp only [totalReading, List.map_append, List.sum_append, List.map_cons, List.map_nil,
    List.sum_cons, List.sum_nil, Int.add_zero]

/-- A tick leaves the counters and takes a sample, which is persisted or lost. -/
theorem tick_eq (world : MetricsWorld) (gauges : Gauges) (sampleAt now : Int)
    (persists prunes : Bool) :
    (world.tick gauges sampleAt now persists prunes).health = world.health ∧
      (world.tick gauges sampleAt now persists prunes).sampler.lastSnapshot =
        some (world.health.snapshot gauges) ∧
      (world.tick gauges sampleAt now persists prunes).persisted =
        (if persists then
          world.persisted ++ [world.sampleOf (world.health.snapshot gauges) sampleAt]
        else world.persisted) ∧
      (world.tick gauges sampleAt now persists prunes).lost =
        if persists then world.lost
        else world.lost ++ [world.sampleOf (world.health.snapshot gauges) sampleAt] := by
  have pruned : ∀ sampled : MetricsWorld, (sampled.maybePrune now prunes).health = sampled.health ∧
      (sampled.maybePrune now prunes).persisted = sampled.persisted ∧
      (sampled.maybePrune now prunes).lost = sampled.lost := by
    intro sampled
    rw [maybePrune]
    split
    · exact ⟨rfl, rfl, rfl⟩
    · split
      · exact ⟨rfl, rfl, rfl⟩
      · exact ⟨rfl, rfl, rfl⟩
  rcases pruned (world.recordSample (world.health.snapshot gauges) sampleAt persists) with
    ⟨health, persisted, lost⟩
  refine ⟨health.trans ?_, rfl, persisted.trans ?_, lost.trans ?_⟩
  all_goals
    cases persists with
    | true => rfl
    | false => rfl

/-- A snapshot shows no more than the counter. -/
theorem SampledInvariant.prevReading_le (invariant : SampledInvariant world) (gauges : Gauges)
    (reading : Reading) :
    prevReading (some (world.health.snapshot gauges)) reading ≤ world.health.reading reading := by
  cases reading with
  | received => exact Int.le_refl _
  | decoded => exact Int.le_refl _
  | bucket key => exact Int.le_refl _
  | delivery brokerId outcome =>
      rw [prevReading, prevDeliveries_snapshot]
      split
      · exact Int.le_refl _
      · rename_i hidden
        have least := invariant.counted brokerId outcome
        rw [invariant.unseen brokerId hidden] at least
        exact least

theorem SampledInvariant.tick (invariant : SampledInvariant world) (gauges : Gauges)
    (sampleAt now : Int) (persists prunes : Bool) :
    SampledInvariant (world.tick gauges sampleAt now persists prunes) := by
  rcases tick_eq world gauges sampleAt now persists prunes with ⟨health, last, persisted, lost⟩
  have follows := invariant.follows gauges
  have sampled := reading_computeSampleDelta follows sampleAt world.sampler.sampleIntervalMs
  have nonneg := reading_nonneg follows sampleAt world.sampler.sampleIntervalMs
  refine
    { brokersNodup := ?_, byTypeNodup := ?_, received := ?_, decoded := ?_, typed := ?_,
      prevTyped := ?_, grown := ?_, prevNodup := ?_, counted := ?_, unseen := ?_, balance := ?_,
      lostNonneg := ?_ }
  · rw [health]
    exact invariant.brokersNodup
  · rw [health]
    exact invariant.byTypeNodup
  · rw [health, last]
    exact Int.le_refl _
  · rw [health, last]
    exact Int.le_refl _
  · rw [health]
    exact invariant.typed
  · rw [last]
    exact invariant.typed
  · rw [health, last]
    exact Relation.ReflTransGen.refl
  · rw [last]
    exact invariant.byTypeNodup
  · intro brokerId outcome
    rw [health, last]
    exact invariant.prevReading_le gauges (.delivery brokerId outcome)
  · intro brokerId hidden
    rw [health] at hidden
    rw [last, prevDeliveries_snapshot, if_neg hidden]
  · intro reading
    have balance := invariant.balance reading
    have sample := sampled reading
    rw [persisted, lost, last]
    cases persists with
    | true =>
        simp only [if_true, totalReading_append, sampleOf]
        omega
    | false =>
        simp only [Bool.false_eq_true, if_false, totalReading_append, sampleOf]
        omega
  · intro sample sampleMem reading
    rw [lost] at sampleMem
    cases persists with
    | true => exact invariant.lostNonneg sample sampleMem reading
    | false =>
        rcases List.mem_append.mp sampleMem with former | latest
        · exact invariant.lostNonneg sample former reading
        · rw [List.mem_singleton.mp latest]
          exact nonneg reading

/-- Counting more keeps the invariant. -/
theorem SampledInvariant.counting (invariant : SampledInvariant world) {health : ServiceHealth}
    (brokers : health.brokers = world.health.brokers)
    (received : world.health.packetsReceived ≤ health.packetsReceived)
    (decoded : world.health.packetsDecoded ≤ health.packetsDecoded)
    (typed : total (fun _ => true) health.packetsByType = health.packetsDecoded)
    (nodup : (health.packetsByType.map Prod.fst).Nodup)
    (grown : GrownFrom world.health.packetsByType health.packetsByType)
    (counted : ∀ brokerId outcome,
      (world.health.deliveries brokerId).count outcome ≤
        (health.deliveries brokerId).count outcome) :
    SampledInvariant { world with health } where
  brokersNodup := by
    rw [brokers]
    exact invariant.brokersNodup
  byTypeNodup := nodup
  received := Int.le_trans invariant.received received
  decoded := Int.le_trans invariant.decoded decoded
  typed := typed
  prevTyped := invariant.prevTyped
  grown := Relation.ReflTransGen.trans invariant.grown grown
  prevNodup := invariant.prevNodup
  counted := fun brokerId outcome =>
    Int.le_trans (invariant.counted brokerId outcome) (counted brokerId outcome)
  unseen := by
    rw [brokers]
    exact invariant.unseen
  balance := invariant.balance
  lostNonneg := invariant.lostNonneg

theorem SampledInvariant.step (invariant : SampledInvariant world) (event : MetricsEvent) :
    SampledInvariant (world.step event) := by
  cases event with
  | packetReceived =>
      refine invariant.counting rfl ?_ (Int.le_refl _) invariant.typed invariant.byTypeNodup
        Relation.ReflTransGen.refl fun _ _ => Int.le_refl _
      exact Int.le_add_of_nonneg_right (by decide)
  | packetDecoded payloadType =>
      refine invariant.counting rfl (Int.le_refl _) ?_ ?_ (nodup_update invariant.byTypeNodup)
        (Relation.ReflTransGen.single ⟨_, 1, by decide, rfl⟩) fun _ _ => Int.le_refl _
      · exact Int.le_add_of_nonneg_right (by decide)
      · simp only [ServiceHealth.packetDecoded, total_add, if_true, invariant.typed]
  | publishResults results =>
      have delivers := ServiceHealth.delivers_recordPublishResults results world.health
      refine invariant.counting delivers.brokers ?_ ?_ ?_ ?_ ?_ delivers.deliveries
      · exact Int.le_of_eq delivers.received.symm
      · exact Int.le_of_eq delivers.decoded.symm
      · rw [delivers.byType, delivers.decoded]
        exact invariant.typed
      · rw [delivers.byType]
        exact invariant.byTypeNodup
      · rw [delivers.byType]
        exact Relation.ReflTransGen.refl
  | tick gauges sampleAt now persists prunes =>
      exact invariant.tick gauges sampleAt now persists prunes

theorem sampledInvariant_of_reachable {condition : MetricsWorld → MetricsEvent → Prop}
    (reachable : metricsSystem.ReachableWhen condition world) : SampledInvariant world := by
  refine reachable.invariant ?_ fun before event after held _ stepped => ?_
  · rintro _ ⟨brokers, sampleIntervalMs, retentionDays, stored, nodup, rfl⟩
    exact
      { brokersNodup := nodup
        byTypeNodup := List.nodup_nil
        received := Int.le_refl 0
        decoded := Int.le_refl 0
        typed := rfl
        prevTyped := rfl
        grown := Relation.ReflTransGen.refl
        prevNodup := List.nodup_nil
        counted := fun _ _ => Int.le_refl _
        unseen := fun _ _ => rfl
        balance := fun reading => by
          cases reading with
          | received => rfl
          | decoded => rfl
          | bucket key => rfl
          | delivery brokerId outcome => cases outcome <;> rfl
        lostNonneg := fun sample sampleMem => by cases sampleMem }
  · cases stepped
    exact held.step event

/-- Nothing was counted since the last tick. -/
def NothingNew (world : MetricsWorld) : Prop :=
  prevPacketsReceived world.sampler.lastSnapshot = world.health.packetsReceived ∧
    prevPacketsDecoded world.sampler.lastSnapshot = world.health.packetsDecoded ∧
    (world.health.brokers.all fun brokerId =>
      prevDeliveries world.sampler.lastSnapshot brokerId = world.health.deliveries brokerId) = true

/-- A tick whose sample is not persisted has nothing to persist, and nothing is published to a
broker called `__proto__`. -/
def Keeps (world : MetricsWorld) : MetricsEvent → Prop
  | .tick _ _ _ false _ => world.NothingNew
  | .publishResults results =>
      world.health.brokers.contains "__proto__" = true →
        (results.all fun result => result.1 ≠ "__proto__") = true
  | _ => True

instance (world : MetricsWorld) : Decidable world.NothingNew :=
  inferInstanceAs (Decidable (_ ∧ _))

instance (world : MetricsWorld) : (event : MetricsEvent) → Decidable (Keeps world event)
  | .tick _ _ _ false _ => inferInstanceAs (Decidable world.NothingNew)
  | .tick _ _ _ true _ => isTrue trivial
  | .publishResults _ => inferInstanceAs (Decidable (_ → _))
  | .packetReceived => isTrue trivial
  | .packetDecoded _ => isTrue trivial

theorem prevReading_of_nothingNew (invariant : SampledInvariant world)
    (nothing : world.NothingNew) (gauges : Gauges) (reading : Reading) :
    prevReading (some (world.health.snapshot gauges)) reading =
      prevReading world.sampler.lastSnapshot reading := by
  rcases nothing with ⟨received, decoded, deliveries⟩
  cases reading with
  | received => exact received.symm
  | decoded => exact decoded.symm
  | bucket key =>
      simp only [prevReading, bucketPacketsByType, count_regroup]
      change total _ world.health.packetsByType = _
      have differs := fun selects =>
        total_difference invariant.grown invariant.prevNodup selects
      have all := differs fun _ => true
      rw [invariant.typed, invariant.prevTyped, decoded, Int.sub_self] at all
      have own := differs fun code => bucketKeyForCode code = key
      have nonneg := nonneg_difference (prevPacketsByType world.sampler.lastSnapshot)
        world.health.packetsByType
      have least := total_nonneg (fun code => bucketKeyForCode code = key) nonneg
      have most := total_le_total (fun code => bucketKeyForCode code = key) nonneg
      omega
  | delivery brokerId outcome =>
      rw [prevReading, prevReading, prevDeliveries_snapshot]
      split
      · rename_i visible
        have same := List.all_eq_true.mp deliveries brokerId visible.1
        rw [of_decide_eq_true same]
      · rename_i hidden
        rw [invariant.unseen brokerId hidden]

/-- What a run keeps that loses no sample. -/
structure KeptInvariant (world : MetricsWorld) : Prop where
  lost : ∀ reading, totalReading world.lost reading = 0
  unnamed : world.health.brokers.contains "__proto__" = true →
    ∀ outcome, (world.health.deliveries "__proto__").count outcome = 0

theorem deliveries_of_unnamed {results : List (String × DeliveryOutcome)} {brokerId : String}
    (unnamed : ∀ result ∈ results, result.1 ≠ brokerId) (health : ServiceHealth) :
    (health.recordPublishResults results).deliveries brokerId = health.deliveries brokerId := by
  induction results generalizing health with
  | nil => rfl
  | cons result rest ih =>
      have later := ih (fun other otherMem => unnamed other (List.mem_cons_of_mem result otherMem))
        (health.recordPublishResult result.1 result.2)
      refine later.trans ?_
      rw [ServiceHealth.deliveries_recordPublishResult,
        if_neg fun same => unnamed result List.mem_cons_self same.symm]

theorem KeptInvariant.step (kept : KeptInvariant world) (invariant : SampledInvariant world)
    {event : MetricsEvent} (keeps : Keeps world event) : KeptInvariant (world.step event) := by
  cases event with
  | packetReceived => exact ⟨kept.lost, kept.unnamed⟩
  | packetDecoded payloadType => exact ⟨kept.lost, kept.unnamed⟩
  | publishResults results =>
      refine ⟨kept.lost, fun named outcome => ?_⟩
      have same := (ServiceHealth.delivers_recordPublishResults results world.health).brokers
      simp only [MetricsWorld.step, same] at named
      have unnamed : ∀ result ∈ results, result.1 ≠ "__proto__" := fun result resultMem =>
        of_decide_eq_true (List.all_eq_true.mp (keeps named) result resultMem)
      simp only [MetricsWorld.step, deliveries_of_unnamed unnamed]
      exact kept.unnamed named outcome
  | tick gauges sampleAt now persists prunes =>
      rcases tick_eq world gauges sampleAt now persists prunes with ⟨health, _, _, lost⟩
      simp only [MetricsWorld.step]
      refine ⟨fun reading => ?_, ?_⟩
      · rw [lost]
        cases persists with
        | true => exact kept.lost reading
        | false =>
            have same := prevReading_of_nothingNew invariant keeps gauges reading
            have sampled := reading_computeSampleDelta (invariant.follows gauges) sampleAt
              world.sampler.sampleIntervalMs reading
            have before := kept.lost reading
            simp only [Bool.false_eq_true, if_false, totalReading_append, sampleOf]
            omega
      · rw [health]
        exact kept.unnamed

theorem keptInvariant_of_reachable (reachable : metricsSystem.ReachableWhen Keeps world) :
    KeptInvariant world := by
  rcases reachable with ⟨initial, starts, lead⟩
  have keeps : ∀ before event after, SampledInvariant before ∧ KeptInvariant before →
      Keeps before event → metricsSystem.step before event = some after →
      SampledInvariant after ∧ KeptInvariant after := by
    intro before event after held keeps stepped
    cases stepped
    exact ⟨held.1.step event, held.2.step held.1 keeps⟩
  have sampled : SampledInvariant initial :=
    sampledInvariant_of_reachable
      (⟨initial, starts, Relation.ReflTransGen.refl⟩ : metricsSystem.Reachable initial)
  refine (lead.invariant keeps ⟨sampled, ?_⟩).2
  rcases starts with ⟨brokers, sampleIntervalMs, retentionDays, stored, nodup, rfl⟩
  exact ⟨fun _ => rfl, fun _ outcome => by cases outcome <;> rfl⟩

theorem SampledInvariant.persisted_after (invariant : SampledInvariant world) (gauges : Gauges)
    (sampleAt now : Int) (prunes : Bool) (reading : Reading) :
    totalReading (world.tick gauges sampleAt now true prunes).persisted reading +
        totalReading world.lost reading =
      prevReading (some (world.health.snapshot gauges)) reading := by
  rcases tick_eq world gauges sampleAt now true prunes with ⟨_, last, _, lost⟩
  have balance := (invariant.tick gauges sampleAt now true prunes).balance reading
  rw [last, lost] at balance
  exact balance

/-- A counter that no later sample brings back. -/
def Short (world : MetricsWorld) : Prop :=
  ∃ reading, world.health.Counts reading ∧
    (0 < totalReading world.lost reading ∨
      ∃ outcome, reading = .delivery "__proto__" outcome ∧
        0 < (world.health.deliveries "__proto__").count outcome)

theorem Short.step (short : Short world) (invariant : SampledInvariant world)
    (event : MetricsEvent) : Short (world.step event) := by
  rcases short with ⟨reading, counts, missing⟩
  cases event with
  | packetReceived => exact ⟨reading, by cases reading <;> exact counts, missing⟩
  | packetDecoded payloadType => exact ⟨reading, by cases reading <;> exact counts, missing⟩
  | publishResults results =>
      have delivers := ServiceHealth.delivers_recordPublishResults results world.health
      refine ⟨reading, ?_, ?_⟩
      · cases reading with
        | received => trivial
        | decoded => trivial
        | bucket key => trivial
        | delivery brokerId outcome =>
            simp only [ServiceHealth.Counts, MetricsWorld.step, delivers.brokers]
            exact counts
      · rcases missing with lost | ⟨outcome, named, delivered⟩
        · exact .inl lost
        · exact .inr ⟨outcome, named, Int.lt_of_lt_of_le delivered (delivers.deliveries _ outcome)⟩
  | tick gauges sampleAt now persists prunes =>
      rcases tick_eq world gauges sampleAt now persists prunes with ⟨health, _, _, lost⟩
      have nonneg := reading_nonneg (invariant.follows gauges) sampleAt
        world.sampler.sampleIntervalMs reading
      simp only [MetricsWorld.step]
      refine ⟨reading, ?_, ?_⟩
      · rw [health]
        exact counts
      · rw [health, lost]
        rcases missing with former | named
        · left
          cases persists with
          | true => exact former
          | false =>
              simp only [Bool.false_eq_true, if_false, totalReading_append, sampleOf]
              omega
        · exact .inr named

theorem totalReading_nonneg {samples : List StoredSample} {reading : Reading}
    (nonneg : ∀ sample ∈ samples, 0 ≤ sample.reading reading) :
    0 ≤ totalReading samples reading := by
  induction samples with
  | nil => exact Int.le_refl 0
  | cons sample rest ih =>
      have first := nonneg sample List.mem_cons_self
      have others := ih fun other later => nonneg other (List.mem_cons_of_mem sample later)
      simp only [totalReading, List.map_cons, List.sum_cons] at others ⊢
      omega

theorem Short.not_persistsAll (short : Short world) (invariant : SampledInvariant world)
    (gauges : Gauges) (sampleAt now : Int) (prunes : Bool) :
    ¬(world.tick gauges sampleAt now true prunes).PersistsAll := by
  intro persists
  rcases short with ⟨reading, counts, missing⟩
  rcases tick_eq world gauges sampleAt now true prunes with ⟨health, _, _, _⟩
  have all := persists reading (by
    rw [health]
    exact counts)
  rw [health] at all
  have balance := invariant.persisted_after gauges sampleAt now prunes reading
  have shown := invariant.prevReading_le gauges reading
  rcases missing with lost | ⟨outcome, named, delivered⟩
  · omega
  · subst reading
    have hidden : prevReading (some (world.health.snapshot gauges))
        (.delivery "__proto__" outcome) = 0 := by
      rw [prevReading, prevDeliveries_snapshot, if_neg fun visible => visible.2 rfl]
      cases outcome <;> rfl
    have lost := totalReading_nonneg fun sample sampleMem =>
      invariant.lostNonneg sample sampleMem (.delivery "__proto__" outcome)
    simp only [ServiceHealth.reading] at all
    omega

theorem exists_count_ne {first second : Deliveries} (differs : first ≠ second) :
    ∃ outcome, first.count outcome ≠ second.count outcome := by
  by_contra same
  simp only [not_exists, ne_eq, not_not] at same
  refine differs ?_
  cases first
  cases second
  simp only [Deliveries.mk.injEq]
  exact ⟨same .sent, same .skipped, same .failed⟩

/-- A lost sample that has something to persist leaves a counter short. -/
theorem SampledInvariant.short_of_lost (invariant : SampledInvariant world)
    (new : ¬world.NothingNew) (gauges : Gauges) (sampleAt now : Int) (prunes : Bool) :
    Short (world.tick gauges sampleAt now false prunes) := by
  rcases tick_eq world gauges sampleAt now false prunes with ⟨health, _, _, lost⟩
  have loses : ∀ reading, world.health.Counts reading →
      prevReading world.sampler.lastSnapshot reading <
        prevReading (some (world.health.snapshot gauges)) reading →
      Short (world.tick gauges sampleAt now false prunes) := by
    intro reading counts grown
    refine ⟨reading, ?_, .inl ?_⟩
    · rw [health]
      exact counts
    · have sampled := reading_computeSampleDelta (invariant.follows gauges) sampleAt
        world.sampler.sampleIntervalMs reading
      have former := totalReading_nonneg fun sample sampleMem =>
        invariant.lostNonneg sample sampleMem reading
      rw [lost]
      simp only [Bool.false_eq_true, if_false, totalReading_append, sampleOf]
      omega
  simp only [NothingNew, not_and_or] at new
  rcases new with received | decoded | deliveries
  · exact loses .received trivial (Int.lt_iff_le_and_ne.mpr ⟨invariant.received, received⟩)
  · exact loses .decoded trivial (Int.lt_iff_le_and_ne.mpr ⟨invariant.decoded, decoded⟩)
  · rw [Bool.not_eq_true, List.all_eq_false] at deliveries
    rcases deliveries with ⟨brokerId, configured, differs⟩
    rw [decide_eq_true_eq] at differs
    rcases exists_count_ne differs with ⟨outcome, counted⟩
    have grown := Int.lt_iff_le_and_ne.mpr ⟨invariant.counted brokerId outcome, counted⟩
    by_cases named : brokerId = "__proto__"
    · subst brokerId
      refine ⟨.delivery "__proto__" outcome, ?_, .inr ⟨outcome, rfl, ?_⟩⟩
      · rw [health]
        exact configured
      · rw [invariant.unseen _ fun visible => visible.2 rfl] at grown
        rw [health]
        exact (by cases outcome <;> rfl : Deliveries.zero.count outcome = 0) ▸ grown
    · refine loses (.delivery brokerId outcome) configured ?_
      rw [prevReading, prevReading, prevDeliveries_snapshot, if_pos ⟨configured, named⟩]
      exact grown

theorem delivered_of_result {results : List (String × DeliveryOutcome)}
    {result : String × DeliveryOutcome} (resultMem : result ∈ results)
    (health : ServiceHealth) :
    (health.deliveries result.1).count result.2 <
      ((health.recordPublishResults results).deliveries result.1).count result.2 := by
  induction results generalizing health with
  | nil => cases resultMem
  | cons first rest ih =>
      rcases List.mem_cons.mp resultMem with rfl | later
      · have rest_le := (ServiceHealth.delivers_recordPublishResults rest
          (health.recordPublishResult result.1 result.2)).deliveries result.1 result.2
        rw [ServiceHealth.deliveries_recordPublishResult, if_pos rfl,
          Deliveries.count_increment, if_pos rfl] at rest_le
        exact Int.lt_of_lt_of_le (Int.lt_succ _) rest_le
      · have first_le := (ServiceHealth.delivers_recordPublishResult health first.1
          first.2).deliveries result.1 result.2
        exact Int.lt_of_le_of_lt first_le (ih later _)

theorem SampledInvariant.short_of_not_keeps (invariant : SampledInvariant world)
    {event : MetricsEvent} (loses : ¬Keeps world event) : Short (world.step event) := by
  cases event with
  | packetReceived => exact absurd trivial loses
  | packetDecoded payloadType => exact absurd trivial loses
  | publishResults results =>
      rcases Classical.not_imp.mp loses with ⟨configured, named⟩
      rw [Bool.not_eq_true, List.all_eq_false] at named
      rcases named with ⟨result, resultMem, proto⟩
      simp only [ne_eq, decide_not, Bool.not_eq_true', decide_eq_false_iff_not, not_not] at proto
      have delivers := ServiceHealth.delivers_recordPublishResults results world.health
      have delivered := delivered_of_result resultMem world.health
      rw [proto] at delivered
      have least := invariant.counted "__proto__" result.2
      rw [invariant.unseen _ fun visible => visible.2 rfl] at least
      have zero : Deliveries.zero.count result.2 = 0 := by
        cases result.2 <;> rfl
      refine ⟨.delivery "__proto__" result.2, ?_, .inr ⟨result.2, rfl, ?_⟩⟩
      · simp only [ServiceHealth.Counts, MetricsWorld.step, delivers.brokers]
        exact List.contains_iff_mem.mp configured
      · simp only [MetricsWorld.step]
        omega
  | tick gauges sampleAt now persists prunes =>
      cases persists with
      | true => exact absurd trivial loses
      | false => exact invariant.short_of_lost loses gauges sampleAt now prunes

/-- After every tick that persists its sample, all that was counted is persisted, in a run that
loses no sample with something in it; and a step that loses one leaves the samples short after
every later tick. -/
theorem persistsAll_of_keeps (reachable : metricsSystem.ReachableWhen Keeps world) :
    (∀ gauges sampleAt now prunes, (world.tick gauges sampleAt now true prunes).PersistsAll) ∧
      ∀ event, ¬Keeps world event → ∀ later,
        metricsSystem.Leads EventSystem.anyStep (world.step event) later →
          ∀ gauges sampleAt now prunes,
            ¬(later.tick gauges sampleAt now true prunes).PersistsAll := by
  have invariant := sampledInvariant_of_reachable reachable
  have kept := keptInvariant_of_reachable reachable
  refine ⟨fun gauges sampleAt now prunes reading counts => ?_,
    fun event loses later lead gauges sampleAt now prunes => ?_⟩
  · rcases tick_eq world gauges sampleAt now true prunes with ⟨health, _, _, _⟩
    rw [health] at counts ⊢
    have balance := invariant.persisted_after gauges sampleAt now prunes reading
    rw [kept.lost reading, Int.add_zero] at balance
    rw [balance]
    refine prevReading_snapshot counts (fun outcome named => ?_) gauges
    subst reading
    exact kept.unnamed (List.contains_iff_mem.mpr counts) outcome
  · have keeps : ∀ before event after, SampledInvariant before ∧ Short before →
        EventSystem.anyStep before event → metricsSystem.step before event = some after →
        SampledInvariant after ∧ Short after := by
      intro before event after held _ stepped
      cases stepped
      exact ⟨held.1.step event, held.2.step held.1 event⟩
    rcases lead.invariant keeps
      ⟨invariant.step event, invariant.short_of_not_keeps loses⟩ with ⟨sampled, short⟩
    exact short.not_persistsAll sampled gauges sampleAt now prunes

def someGauges : Gauges :=
  { radioConnected := true, connectedBrokers := ["a"], botsReady := [true], replyQueueSize := 0 }

theorem initial_new (brokers : List String) (nodup : brokers.Nodup)
    (sampleIntervalMs retentionDays : Int) :
    metricsSystem.Initial (.new brokers sampleIntervalMs retentionDays []) :=
  ⟨brokers, sampleIntervalMs, retentionDays, [], nodup, rfl⟩

/-- Packets that are sampled once, and a tick that fails with nothing to persist. -/
def sampledOnce : List MetricsEvent :=
  [.packetReceived, .packetDecoded 4, .publishResults [("a", .sent)],
    .tick someGauges 10000 10000 true true, .tick someGauges 20000 20000 false true]

theorem sampledOnce_ran :
    (metricsSystem.run Keeps (.new ["a"] 10000 0 []) sampledOnce).isSome := by
  decide +kernel

theorem persistsAll_of_sampledOnce :
    (((metricsSystem.run Keeps (.new ["a"] 10000 0 []) sampledOnce).get sampledOnce_ran).tick
      someGauges 30000 30000 true true).PersistsAll :=
  (persistsAll_of_keeps (EventSystem.reachableWhen_get
    (initial_new ["a"] (List.nodup_singleton "a") 10000 0) sampledOnce_ran)).1
    someGauges 30000 30000 true

/-- A packet received before a tick whose sample is lost. -/
def sampleLost : List MetricsEvent :=
  [.packetReceived, .tick someGauges 10000 10000 false true]

theorem sampleLost_ran :
    (metricsSystem.run EventSystem.anyStep (.new ["a"] 10000 0 []) sampleLost).isSome := by
  decide +kernel

/-- After the next tick, which persists its sample, no packet received is persisted. -/
theorem received_packet_lost :
    ¬∀ world, metricsSystem.Reachable world → ∀ gauges sampleAt now prunes,
      (world.tick gauges sampleAt now true prunes).PersistsAll := by
  intro holds
  have persists := holds _ (EventSystem.reachableWhen_get
    (initial_new ["a"] (List.nodup_singleton "a") 10000 0) sampleLost_ran)
    someGauges 20000 20000 true .received trivial
  revert persists
  decide +kernel

end MetricsWorld

end MeshcoreObserver
