import MeshcoreObserver.Metrics.PersistedMetrics
import MeshcoreObserver.Metrics.SampleRows
import MeshcoreObserver.Metrics.StorePruning

/-!
# Packet accounting

A received packet on its way to the tables: the pipeline drops it or emits what it has
decoded, the listeners of `ServiceHealth` count both, and a tick of the sampler stores
what was counted since the tick before it.

A packet is counted as decoded only where it is counted as received in the same
emission, and every decoded packet has one type. Types are dropped, merged and filtered
on the way to the rows of a sample, but their counts still add up to the decoded
packets of that sample, and so do those of any window.
-/

namespace MeshcoreObserver

open Counting Sqlite Transition

structure ObserverIdentity where
  origin : Text
  originId : Text
  deriving DecidableEq, Repr

/-- The packet which `handleRawPacket` decodes and emits, if any. -/
def PacketPipeline.handleRawPacket (fromBytes : List UInt8 → Option Packet)
    (observer : Option ObserverIdentity) (push : RawPush) : Option Packet :=
  match normalizeRawPacketEvent push with
  | none => none
  | some frame =>
      match observer with
      | none => none
      | some _ => fromBytes frame

/-- The service from the radio to the store. `observer` is the identity of the device. -/
structure CaptureWorld where
  observer : Option ObserverIdentity
  metrics : MetricsWorld
  store : MetricsStore

inductive CaptureEvent where
  | deviceInfo (observer : Option ObserverIdentity)
  | radioPacket (push : RawPush)
  | publishResults (results : List (String × DeliveryOutcome))
  | write (fault : Fault) (write : StoreWrite)
  | tick (gauges : Gauges) (sampleAt now : Int) (recordFaults pruneFaults : Nat → Fault)
  | restarts (brokers : List String) (sampleIntervalMs retentionDays : Int)

namespace CaptureWorld

def new : CaptureWorld :=
  { observer := none, metrics := .new [] 0 0 [], store := .idle newTables }

/-- The listeners of `packet` and `radio.packet` that count. -/
def radioPacket (fromBytes : List UInt8 → Option Packet) (world : CaptureWorld)
    (push : RawPush) : CaptureWorld :=
  let emitted :=
    match PacketPipeline.handleRawPacket fromBytes world.observer push with
    | none => world.metrics
    | some packet => world.metrics.step (.packetDecoded packet.payloadType)
  { world with metrics := emitted.step .packetReceived }

def nextSample (world : CaptureWorld) (gauges : Gauges) (sampleAt : Int) : PacketSample :=
  computeSampleDelta world.metrics.sampler.lastSnapshot (world.metrics.health.snapshot gauges)
    sampleAt world.metrics.sampler.sampleIntervalMs

/-- The condition of `#maybePrune`. -/
def prunes (world : CaptureWorld) (now : Int) : Bool :=
  0 < world.metrics.sampler.retentionDays &&
    !(world.metrics.sampler.lastPrunedAt.any fun prunedAt => now - prunedAt < oneDayMs)

def tick (world : CaptureWorld) (gauges : Gauges) (sampleAt now : Int)
    (recordFaults pruneFaults : Nat → Fault) : CaptureWorld :=
  let recorded :=
    world.store.recordPacketSample recordFaults (world.nextSample gauges sampleAt).record
  let pruned :=
    if world.prunes now then
      recorded.1.pruneOlderThan pruneFaults
        (now - world.metrics.sampler.retentionDays * oneDayMs : Int)
    else (recorded.1, true)
  { world with
    metrics := world.metrics.tick gauges sampleAt now (!recorded.2) (!pruned.2)
    store := pruned.1 }

def step (fromBytes : List UInt8 → Option Packet) (world : CaptureWorld) :
    CaptureEvent → Option CaptureWorld
  | .deviceInfo observer => some { world with observer }
  | .radioPacket push => some (world.radioPacket fromBytes push)
  | .publishResults results =>
      some { world with metrics := world.metrics.step (.publishResults results) }
  | .write fault write => some { world with store := (world.store.write fault write).1 }
  | .tick gauges sampleAt now recordFaults pruneFaults =>
      some (world.tick gauges sampleAt now recordFaults pruneFaults)
  | .restarts brokers sampleIntervalMs retentionDays =>
      if brokers.Nodup then
        some
          { world with
            observer := none
            metrics := .new brokers sampleIntervalMs retentionDays [] }
      else none

end CaptureWorld

/-- Every run, over any number of processes, from a new store. -/
def captureSystem (fromBytes : List UInt8 → Option Packet) :
    EventSystem CaptureWorld CaptureEvent where
  Initial world := world = .new
  step := CaptureWorld.step fromBytes

/-- The numbers of a sample balance with the rows of its types. -/
structure BalancedSample (tables : StoreTables) (sample : SampleRow) : Prop where
  decoded : 0 ≤ sample.packetsDecoded
  received : 0 ≤ sample.packetsReceived
  within : sample.packetsDecoded ≤ sample.packetsReceived
  types : ((tables.packetTypesOf sample).map PacketTypeRow.count).sum = sample.packetsDecoded

def BalancedTables (tables : StoreTables) : Prop :=
  ∀ sample ∈ tables.samples, BalancedSample tables sample

section Windows

variable {tables : StoreTables}

theorem sum_queryPacketTypeTotals (tables : StoreTables) (window : Window) :
    ((tables.queryPacketTypeTotals window).map Prod.snd).sum =
      ((tables.packetTypesIn window).map fun joined => joined.2.count).sum := by
  have permuted : (tables.queryPacketTypeTotals window).Perm
      (sumBy (fun joined : SampleRow × PacketTypeRow => joined.2.packetTypeBucket)
        (fun joined => joined.2.count) (tables.packetTypesIn window)) :=
    List.perm_insertionSort _ _
  rw [(permuted.map Prod.snd).sum_eq, sumBy, List.map_map]
  exact sum_groupBy _ _ _

theorem sum_joined (samples : List SampleRow) (rows : List PacketTypeRow)
    (balanced : ∀ sample ∈ samples,
      ((rows.filter fun row => row.sampleId = sample.id).map PacketTypeRow.count).sum =
        sample.packetsDecoded) :
    ((joinSamples PacketTypeRow.sampleId samples rows).map fun joined => joined.2.count).sum =
      (samples.map fun sample => sample.packetsDecoded).sum := by
  induction samples with
  | nil => rfl
  | cons sample samples ih =>
      rw [List.forall_mem_cons] at balanced
      have rest := ih balanced.2
      rw [joinSamples] at rest
      have own := balanced.1
      rw [joinSamples, List.flatMap_cons, List.map_append, List.sum_append, rest, List.map_map,
        List.map_cons, List.sum_cons, ← own]
      rfl

/-- In balanced tables, the totals of the types of any window add up. -/
theorem BalancedTables.totals (balanced : BalancedTables tables) (window : Window) :
    ((tables.queryPacketTypeTotals window).map Prod.snd).sum =
      (tables.queryPacketTotals window).decoded := by
  rw [sum_queryPacketTypeTotals]
  apply sum_joined
  intro sample sampleMem
  exact (balanced sample (List.mem_of_mem_filter sampleMem)).types

end Windows

section Tables

variable {tables : StoreTables}

/-- A sample is recorded whole, or not at all. -/
theorem recordPacketSample_cases (keys : KeyConstraints tables) (prevSnapshot : Option Snapshot)
    {snapshot : Snapshot} (brokers : (snapshot.mqtt.map Prod.fst).Nodup)
    (sampleAt intervalMs : Int) (faults : Nat → Fault) :
    let sample := computeSampleDelta prevSnapshot snapshot sampleAt intervalMs
    MetricsStore.recordPacketSample faults sample.record (.idle tables) =
        (.idle (tables.recorded (recordPacketSample sample)), false) ∨
      MetricsStore.recordPacketSample faults sample.record (.idle tables) =
        (.idle tables, true) := by
  intro sample
  have returns := recordPacketSample_computeSampleDelta keys prevSnapshot brokers sampleAt
    intervalMs
  have executes : execAll (recordStatements tables.nextSampleId sample.record) tables =
      some (tables.recorded (recordPacketSample sample)) := by
    rcases Session.transact_idle (fun _ => .returns)
        (recordStatements tables.nextSampleId sample.record) tables with
      ⟨_, after, executed, finished⟩ | ⟨_, finished⟩
    · have same := finished.symm.trans returns
      simp only [Prod.mk.injEq, and_true] at same
      cases same
      exact executed
    · have same := finished.symm.trans returns
      cases congrArg Prod.snd same
  rcases Session.transact_idle faults (recordStatements tables.nextSampleId sample.record)
      tables with ⟨_, after, executed, finished⟩ | ⟨_, finished⟩
  · left
    rw [executes] at executed
    cases executed
    exact finished
  · exact .inr finished

theorem pruneOlderThan_cases (tables : StoreTables) (cutoffMs : ℚ) (faults : Nat → Fault) :
    MetricsStore.pruneOlderThan faults cutoffMs (.idle tables) =
        (.idle (tables.pruned cutoffMs), false) ∨
      MetricsStore.pruneOlderThan faults cutoffMs (.idle tables) = (.idle tables, true) := by
  rcases Session.transact_idle faults (pruneStatements cutoffMs) tables with
    ⟨_, after, executed, finished⟩ | ⟨_, finished⟩
  · left
    rw [tables.execAll_pruneStatements cutoffMs] at executed
    cases executed
    exact finished
  · exact .inr finished

theorem BalancedTables.pruned (balanced : BalancedTables tables) (keys : KeyConstraints tables)
    (cutoffMs : ℚ) : BalancedTables (tables.pruned cutoffMs) := by
  intro sample sampleMem
  rcases mem_samples_pruned.mp sampleMem with ⟨listed, later⟩
  have kept := sampledBefore_of_kept keys listed later
  have before := balanced sample listed
  refine { before with types := ?_ }
  rw [packetTypesOf_pruned, kept]
  exact before.types

/-- No other write touches a sample. -/
theorem write_samples (tables : StoreTables) (write : StoreWrite) :
    (tables.write write).samples = tables.samples ∧
      (tables.write write).packetTypes = tables.packetTypes := by
  cases write with
  | upsertNode hearing => exact ⟨rfl, rfl⟩
  | requestFloodAdvert requestedAt => exact ⟨rfl, rfl⟩
  | startFloodAdvertAttempt attemptStartedAt => exact ⟨rfl, rfl⟩
  | resolveFloodAdvertAttempt resolvedAt intervalMs sent => exact ⟨rfl, rfl⟩
  | recoverFloodAdvertAttempt intervalMs uncertainAttemptIntervalMs => exact ⟨rfl, rfl⟩
  | enqueueReplyItem item enqueuedAt expiresAt => exact ⟨rfl, rfl⟩
  | takeExpiredReplyItems now => exact ⟨rfl, rfl⟩
  | resolveReplyItem id status resolvedAt queuedMs => exact ⟨rfl, rfl⟩

theorem BalancedTables.write (balanced : BalancedTables tables) (write : StoreWrite) :
    BalancedTables (tables.write write) := by
  intro sample sampleMem
  rcases write_samples tables write with ⟨samples, packetTypes⟩
  rw [samples] at sampleMem
  have before := balanced sample sampleMem
  have same : (tables.write write).packetTypesOf sample = tables.packetTypesOf sample := by
    simp only [StoreTables.packetTypesOf, packetTypes]
  refine { before with types := ?_ }
  rw [same]
  exact before.types

/-- The rows of the new sample are its own. -/
theorem BalancedTables.recorded (balanced : BalancedTables tables) (keys : KeyConstraints tables)
    {sample : StoredSample} (decoded : 0 ≤ sample.packetsDecoded)
    (within : sample.packetsDecoded ≤ sample.packetsReceived)
    (types : (sample.packetTypes.map Prod.snd).sum = sample.packetsDecoded) :
    BalancedTables (tables.recorded sample) := by
  intro row rowMem
  have unused := keys.unused.1
  rcases List.mem_append.mp rowMem with old | new
  · have before := balanced row old
    have apart : row.id ≠ tables.nextSampleId :=
      Nat.ne_of_lt (lt_largest_succ SampleRow.id old)
    have added : (sample.packetTypeRows tables.nextSampleId).filter
        (fun type => type.sampleId = row.id) = [] := by
      apply List.filter_eq_nil_iff.mpr
      intro type typeMem
      have own := sampleId_packetTypeRows sample _ type typeMem
      simpa [own] using Ne.symm apart
    refine { before with types := ?_ }
    rw [StoreTables.packetTypesOf, StoreTables.recorded, List.filter_append, added,
      List.append_nil]
    exact before.types
  · cases List.mem_singleton.mp new
    have former : tables.packetTypes.filter
        (fun type => type.sampleId = tables.nextSampleId) = [] := by
      apply List.filter_eq_nil_iff.mpr
      intro type typeMem
      simpa using unused type typeMem
    have added : (sample.packetTypeRows tables.nextSampleId).filter
        (fun type => type.sampleId = tables.nextSampleId) =
          sample.packetTypeRows tables.nextSampleId := by
      apply List.filter_eq_self.mpr
      intro type typeMem
      simpa using sampleId_packetTypeRows sample _ type typeMem
    refine ⟨decoded, Int.le_trans decoded within, within, ?_⟩
    rw [StoreTables.packetTypesOf, StoreTables.recorded, List.filter_append, former, added,
      List.nil_append, StoredSample.packetTypeRows, List.map_map]
    exact types

end Tables

namespace CaptureWorld

variable {world after : CaptureWorld} {fromBytes : List UInt8 → Option Packet}

/-- Since the last tick, no more was decoded than was received. -/
structure CaptureInvariant (world : CaptureWorld) : Prop where
  sampled : world.metrics.SampledInvariant
  within : world.metrics.health.packetsDecoded -
      prevPacketsDecoded world.metrics.sampler.lastSnapshot ≤
    world.metrics.health.packetsReceived - prevPacketsReceived world.metrics.sampler.lastSnapshot
  stored : ∃ tables, world.store = .idle tables ∧ KeyConstraints tables ∧ BalancedTables tables

/-- The types of a sample add up to its decoded packets. -/
theorem CaptureInvariant.types (invariant : CaptureInvariant world) (gauges : Gauges)
    (sampleAt : Int) :
    ((recordPacketSample (world.nextSample gauges sampleAt)).packetTypes.map Prod.snd).sum =
      (world.nextSample gauges sampleAt).packetsDecoded := by
  have sampled := invariant.sampled
  have all : ∀ entries : List (PacketTypeBucket × Int),
      (entries.map Prod.snd).sum = total (fun _ => true) entries := by
    intro entries
    simp [total]
  rw [all]
  simp only [recordPacketSample, nextSample, computeSampleDelta, bucketPacketsByType]
  rw [total_filter_pos (nonneg_regroup (nonneg_difference _ _)), total_regroup,
    total_difference (sampled.follows gauges).grown sampled.prevNodup, sampled.prevTyped]
  exact congrArg (fun value => value - _) sampled.typed

/-- A received packet is counted once, and at most once as decoded. -/
theorem CaptureInvariant.radioPacket (invariant : CaptureInvariant world) (push : RawPush) :
    CaptureInvariant (world.radioPacket fromBytes push) := by
  have within := invariant.within
  simp only [CaptureWorld.radioPacket]
  cases PacketPipeline.handleRawPacket fromBytes world.observer push with
  | none =>
      refine ⟨invariant.sampled.step .packetReceived, ?_, invariant.stored⟩
      simp only [MetricsWorld.step, ServiceHealth.packetReceived]
      omega
  | some packet =>
      have decoded := invariant.sampled.step (.packetDecoded packet.payloadType)
      refine ⟨decoded.step .packetReceived, ?_, invariant.stored⟩
      simp only [MetricsWorld.step, ServiceHealth.packetReceived, ServiceHealth.packetDecoded]
      omega

theorem CaptureInvariant.publishResults (invariant : CaptureInvariant world)
    (results : List (String × DeliveryOutcome)) :
    CaptureInvariant { world with metrics := world.metrics.step (.publishResults results) } := by
  have delivers := ServiceHealth.delivers_recordPublishResults results world.metrics.health
  refine ⟨invariant.sampled.step (.publishResults results), ?_, invariant.stored⟩
  simp only [MetricsWorld.step, delivers.decoded, delivers.received]
  exact invariant.within

theorem CaptureInvariant.write (invariant : CaptureInvariant world) (fault : Fault)
    (write : StoreWrite) :
    CaptureInvariant { world with store := (world.store.write fault write).1 } := by
  rcases invariant.stored with ⟨tables, idle, keys, balanced⟩
  refine ⟨invariant.sampled, invariant.within, ?_⟩
  rw [idle]
  cases fault with
  | returns => exact ⟨_, rfl, keys.write write, balanced.write write⟩
  | throws => exact ⟨tables, rfl, keys, balanced⟩
  | rollsBack => exact ⟨tables, rfl, keys, balanced⟩

/-- Recording the next sample keeps the tables balanced. -/
theorem CaptureInvariant.records (invariant : CaptureInvariant world) (gauges : Gauges)
    (sampleAt : Int) (faults : Nat → Fault) :
    ∃ tables, (world.store.recordPacketSample faults
        (world.nextSample gauges sampleAt).record).1 = .idle tables ∧
      KeyConstraints tables ∧ BalancedTables tables := by
  rcases invariant.stored with ⟨tables, idle, keys, balanced⟩
  have follows := invariant.sampled.follows gauges
  have within := invariant.within
  rw [idle]
  rcases recordPacketSample_cases keys world.metrics.sampler.lastSnapshot follows.mqttNodup
      sampleAt world.metrics.sampler.sampleIntervalMs faults with recorded | failed
  · rcases keys.step (.recordPacketSample faults (world.nextSample gauges sampleAt).record) with
      ⟨next, stepped, nextKeys⟩
    have same : next = tables.recorded (recordPacketSample (world.nextSample gauges sampleAt)) := by
      rw [MetricsStore.step, nextSample, recorded] at stepped
      cases stepped
      rfl
    subst next
    refine ⟨_, congrArg Prod.fst recorded, nextKeys, ?_⟩
    apply balanced.recorded keys
    · exact Int.sub_nonneg_of_le follows.decoded
    · exact within
    · exact invariant.types gauges sampleAt
  · exact ⟨tables, congrArg Prod.fst failed, keys, balanced⟩

theorem CaptureInvariant.tick (invariant : CaptureInvariant world) (gauges : Gauges)
    (sampleAt now : Int) (recordFaults pruneFaults : Nat → Fault) :
    CaptureInvariant (world.tick gauges sampleAt now recordFaults pruneFaults) := by
  refine ⟨invariant.sampled.tick gauges sampleAt now _ _, ?_, ?_⟩
  · have ticked := fun persists prunes =>
      MetricsWorld.tick_eq world.metrics gauges sampleAt now persists prunes
    simp only [CaptureWorld.tick, (ticked _ _).1, (ticked _ _).2.1]
    simp [prevPacketsDecoded, prevPacketsReceived, ServiceHealth.snapshot]
  · rcases invariant.records gauges sampleAt recordFaults with ⟨tables, recorded, keys, balanced⟩
    simp only [CaptureWorld.tick, recorded]
    split
    · generalize ((now - world.metrics.sampler.retentionDays * oneDayMs : Int) : ℚ) = cutoffMs
      rcases pruneOlderThan_cases tables cutoffMs pruneFaults with pruned | failed
      · rcases keys.step (.pruneOlderThan pruneFaults cutoffMs) with ⟨next, stepped, nextKeys⟩
        have same : next = tables.pruned cutoffMs := by
          rw [MetricsStore.step, pruned] at stepped
          cases stepped
          rfl
        subst next
        exact ⟨_, congrArg Prod.fst pruned, nextKeys, balanced.pruned keys cutoffMs⟩
      · exact ⟨tables, congrArg Prod.fst failed, keys, balanced⟩
    · exact ⟨tables, rfl, keys, balanced⟩

/-- A new process counts from zero, over the tables it finds. -/
theorem captureInvariant_starting {tables : StoreTables} (keys : KeyConstraints tables)
    (balanced : BalancedTables tables) {brokers : List String} (unique : brokers.Nodup)
    (sampleIntervalMs retentionDays : Int) :
    CaptureInvariant
      { observer := none
        metrics := .new brokers sampleIntervalMs retentionDays []
        store := .idle tables } := by
  refine ⟨?_, Int.le_refl _, tables, rfl, keys, balanced⟩
  have started : metricsSystem.Reachable (.new brokers sampleIntervalMs retentionDays []) :=
    ⟨_, ⟨brokers, sampleIntervalMs, retentionDays, [], unique, rfl⟩, Relation.ReflTransGen.refl⟩
  exact MetricsWorld.sampledInvariant_of_reachable started

theorem CaptureInvariant.step (invariant : CaptureInvariant world) {event : CaptureEvent}
    (stepped : world.step fromBytes event = some after) : CaptureInvariant after := by
  cases event with
  | deviceInfo observer =>
      cases stepped
      exact ⟨invariant.sampled, invariant.within, invariant.stored⟩
  | radioPacket push =>
      cases stepped
      exact invariant.radioPacket push
  | publishResults results =>
      cases stepped
      exact invariant.publishResults results
  | write fault write =>
      cases stepped
      exact invariant.write fault write
  | tick gauges sampleAt now recordFaults pruneFaults =>
      cases stepped
      exact invariant.tick gauges sampleAt now recordFaults pruneFaults
  | restarts brokers sampleIntervalMs retentionDays =>
      simp only [CaptureWorld.step, Option.ite_none_right_eq_some, Option.some.injEq] at stepped
      rcases stepped with ⟨unique, rfl⟩
      rcases invariant.stored with ⟨tables, idle, keys, balanced⟩
      rw [idle]
      exact captureInvariant_starting keys balanced unique _ _

/-- Every stored sample balances, and so do the totals of every window. -/
theorem accounting_balances (reachable : (captureSystem fromBytes).Reachable world) :
    BalancedTables world.store.content ∧
      ∀ window, ((world.store.content.queryPacketTypeTotals window).map Prod.snd).sum =
        (world.store.content.queryPacketTotals window).decoded := by
  have invariant : CaptureInvariant world := by
    refine reachable.invariant ?_ ?_
    · rintro state rfl
      apply captureInvariant_starting keyConstraints_newTables
      · simp [BalancedTables, newTables]
      · exact List.nodup_nil
    · intro before event next held _ stepped
      exact held.step stepped
  rcases invariant.stored with ⟨tables, idle, _, balanced⟩
  rw [idle]
  exact ⟨balanced, balanced.totals⟩

/-- The frames of flood packets that no node has relayed. -/
def floodPacket : List UInt8 → Option Packet
  | header :: 0 :: payload =>
      if header.toNat % 4 = 1 then
        some
          { payloadType := header.toNat / 4 % 16, routeType := ['F', 'L', 'O', 'O', 'D']
            pathLen := 0, pathHashCount := 0, pathHashes := [], payload }
      else none
  | _ => none

/-- A packet before the identity is known, one of an unknown type, and then, behind a tick, one
that is not decoded, one without a measurement and an advert. -/
def fivePackets : List CaptureEvent :=
  let gauges : Gauges :=
    { radioConnected := true, connectedBrokers := [], botsReady := [], replyQueueSize := 0 }
  [.restarts [] 60000 0, .radioPacket ⟨some 5, some (-90), [0x11, 0, 1]⟩,
    .deviceInfo (some ⟨['a'], ['b']⟩), .radioPacket ⟨some 5, some (-90), [0x31, 0, 1]⟩,
    .tick gauges 60000 60000 (fun _ => .returns) (fun _ => .returns),
    .radioPacket ⟨some 5, some (-90), []⟩, .radioPacket ⟨none, some (-90), [0x11, 0, 1]⟩,
    .radioPacket ⟨some 5, some (-90), [0x11, 0, 1]⟩,
    .tick gauges 120000 120000 (fun _ => .returns) (fun _ => .returns)]

theorem isSome_fivePackets :
    ((captureSystem floodPacket).run EventSystem.anyStep new fivePackets).isSome := by
  decide

theorem accounting_balances_of_five :
    let world := ((captureSystem floodPacket).run EventSystem.anyStep new fivePackets).get
      isSome_fivePackets
    BalancedTables world.store.content ∧
      ∀ window, ((world.store.content.queryPacketTypeTotals window).map Prod.snd).sum =
        (world.store.content.queryPacketTotals window).decoded := by
  apply accounting_balances
  exact EventSystem.reachableWhen_get rfl isSome_fivePackets

end CaptureWorld

end MeshcoreObserver
