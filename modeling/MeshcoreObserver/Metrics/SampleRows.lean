import MeshcoreObserver.Metrics.StoreContents

/-!
# The rows of a sample

The keys of the schema never refuse a sample of the sampler: its buckets and its
brokers are pairwise different, its outcomes are those of the check, and no row
refers to its id yet. So `recordPacketSample` throws only where a statement is
made to, and what it adds to the tables are the rows of the stored sample.
-/

namespace MeshcoreObserver

open Counting Sqlite

/-- The `key` of `PACKET_TYPE_BUCKETS`. -/
def PacketTypeBucket.key : PacketTypeBucket → Text
  | .advert => ['a', 'd', 'v', 'e', 'r', 't']
  | .txtMsg => ['t', 'x', 't', 'M', 's', 'g']
  | .grpTxt => ['g', 'r', 'p', 'T', 'x', 't']
  | .ack => ['a', 'c', 'k']
  | .path => ['p', 'a', 't', 'h']
  | .trace => ['t', 'r', 'a', 'c', 'e']
  | .grpData => ['g', 'r', 'p', 'D', 'a', 't', 'a']
  | .other => ['o', 't', 'h', 'e', 'r']

def DeliveryOutcome.name : DeliveryOutcome → Text
  | .sent => ['s', 'e', 'n', 't']
  | .skipped => ['s', 'k', 'i', 'p', 'p', 'e', 'd']
  | .failed => ['f', 'a', 'i', 'l', 'e', 'd']

/-- `Object.entries(counts)`. -/
def Deliveries.entries (counts : Deliveries) : List (Text × Int) :=
  [(DeliveryOutcome.sent.name, counts.sent), (DeliveryOutcome.skipped.name, counts.skipped),
    (DeliveryOutcome.failed.name, counts.failed)]

/-- The sample as the sampler passes it on. -/
def PacketSample.record (sample : PacketSample) : SampleRecord :=
  { toSampleColumns := sample.toSampleColumns
    packetsByType := sample.packetsByType.map fun entry => (entry.1.key, entry.2)
    brokerDeliveries :=
      sample.brokerDeliveries.map fun entry => (entry.1.toList, entry.2.entries) }

namespace StoredSample

def packetTypeRows (sample : StoredSample) (sampleId : Nat) : List PacketTypeRow :=
  sample.packetTypes.map fun row =>
    { sampleId, packetTypeBucket := row.1.key, count := row.2 }

def brokerDeliveryRows (sample : StoredSample) (sampleId : Nat) : List BrokerDeliveryRow :=
  sample.deliveries.map fun row =>
    { sampleId, brokerId := row.1.1.toList, outcome := row.1.2.name, count := row.2 }

end StoredSample

/-- The tables with one sample more. -/
def StoreTables.recorded (tables : StoreTables) (sample : StoredSample) : StoreTables :=
  { tables with
    samples := tables.samples ++
      [{ toSampleColumns := sample.toSampleColumns, id := tables.nextSampleId }]
    packetTypes := tables.packetTypes ++ sample.packetTypeRows tables.nextSampleId
    brokerDeliveries := tables.brokerDeliveries ++ sample.brokerDeliveryRows tables.nextSampleId }

theorem PacketTypeBucket.key_injective : Function.Injective PacketTypeBucket.key := by
  intro first second same
  cases first <;> cases second <;> first | rfl | cases same

theorem DeliveryOutcome.name_injective : Function.Injective DeliveryOutcome.name := by
  intro first second same
  cases first <;> cases second <;> first | rfl | cases same

/-- No bucket has a name which an object refuses. -/
theorem PacketTypeBucket.key_ne_protoKey (bucket : PacketTypeBucket) : bucket.key ≠ protoKey := by
  cases bucket <;> decide

theorem DeliveryOutcome.name_mem (outcome : DeliveryOutcome) :
    outcome.name ∈ StoreTables.deliveryOutcomes := by
  cases outcome <;> decide

theorem packetTypeRows_record (sample : PacketSample) (sampleId : Nat) :
    sample.record.packetTypeRows sampleId =
      (recordPacketSample sample).packetTypeRows sampleId := by
  simp only [SampleRecord.packetTypeRows, PacketSample.record, List.filter_map, List.map_map,
    StoredSample.packetTypeRows, recordPacketSample]
  rfl

theorem brokerDeliveryRows_record (sample : PacketSample) (sampleId : Nat) :
    sample.record.brokerDeliveryRows sampleId =
      (recordPacketSample sample).brokerDeliveryRows sampleId := by
  simp only [SampleRecord.brokerDeliveryRows, PacketSample.record, List.flatMap_map,
    StoredSample.brokerDeliveryRows, recordPacketSample, List.map_flatMap]
  congr 1
  funext entry
  have counted : entry.2.entries =
      [((entry.1, DeliveryOutcome.sent), entry.2.sent), ((entry.1, .skipped), entry.2.skipped),
        ((entry.1, .failed), entry.2.failed)].map fun row => (row.1.2.name, row.2) := rfl
  simp only [counted, List.filter_map, List.map_map, deliveryRows]
  apply List.map_congr_left
  intro row rowMem
  have own : row.1.1 = entry.1 := by
    have listed := List.mem_of_mem_filter rowMem
    simp only [List.mem_cons, List.not_mem_nil, or_false] at listed
    rcases listed with rfl | rfl | rfl
    · rfl
    · rfl
    · rfl
  simp [own]

section Executes

variable {tables : StoreTables}

theorem execAll_insertPacketType {rows : List PacketTypeRow}
    (listed : ∀ row ∈ rows, tables.hasSample row.sampleId = true)
    (nodup : ((tables.packetTypes ++ rows).map fun row =>
      (row.sampleId, row.packetTypeBucket)).Nodup) :
    execAll (rows.map StoreTables.insertPacketType) tables =
      some { tables with packetTypes := tables.packetTypes ++ rows } := by
  have executes : ∀ done row rest, rows = done ++ row :: rest →
      StoreTables.insertPacketType row { tables with packetTypes := tables.packetTypes ++ done } =
        some { tables with packetTypes := tables.packetTypes ++ (done ++ [row]) } := by
    intro done row rest split
    have present := listed row (split ▸ List.mem_append_right done List.mem_cons_self)
    rw [split, ← List.append_assoc, List.map_append, List.map_cons, List.nodup_append] at nodup
    have fresh := fun key keyMem => nodup.2.2 key keyMem _ List.mem_cons_self
    rw [StoreTables.insertPacketType, if_pos]
    · rw [List.append_assoc]
    · simp only [Bool.and_eq_true, List.all_eq_true, decide_eq_true_eq]
      refine ⟨present, ?_⟩
      intro other otherMem
      exact fresh _ (List.mem_map_of_mem otherMem)
  have inserted := execAll_map executes
  rwa [List.append_nil] at inserted

theorem execAll_insertBrokerDelivery {rows : List BrokerDeliveryRow}
    (listed : ∀ row ∈ rows, tables.hasSample row.sampleId = true)
    (checked : ∀ row ∈ rows, row.outcome ∈ StoreTables.deliveryOutcomes)
    (nodup : ((tables.brokerDeliveries ++ rows).map fun row =>
      (row.sampleId, row.brokerId, row.outcome)).Nodup) :
    execAll (rows.map StoreTables.insertBrokerDelivery) tables =
      some { tables with brokerDeliveries := tables.brokerDeliveries ++ rows } := by
  have executes : ∀ done row rest, rows = done ++ row :: rest →
      StoreTables.insertBrokerDelivery row
          { tables with brokerDeliveries := tables.brokerDeliveries ++ done } =
        some { tables with brokerDeliveries := tables.brokerDeliveries ++ (done ++ [row]) } := by
    intro done row rest split
    have rowMem : row ∈ rows := split ▸ List.mem_append_right done List.mem_cons_self
    rw [split, ← List.append_assoc, List.map_append, List.map_cons, List.nodup_append] at nodup
    have fresh := fun key keyMem => nodup.2.2 key keyMem _ List.mem_cons_self
    rw [StoreTables.insertBrokerDelivery, if_pos]
    · rw [List.append_assoc]
    · simp only [Bool.and_eq_true, List.all_eq_true, decide_eq_true_eq, List.contains_iff_mem]
      refine ⟨⟨listed row rowMem, checked row rowMem⟩, ?_⟩
      intro other otherMem
      exact fresh _ (List.mem_map_of_mem otherMem)
  have inserted := execAll_map executes
  rwa [List.append_nil] at inserted

/-- No row refers to the next sample yet. -/
theorem KeyConstraints.unused (keys : KeyConstraints tables) :
    (∀ row ∈ tables.packetTypes, row.sampleId ≠ tables.nextSampleId) ∧
      ∀ row ∈ tables.brokerDeliveries, row.sampleId ≠ tables.nextSampleId := by
  have used : ∀ sampleId ∈ tables.samples.map SampleRow.id, sampleId ≠ tables.nextSampleId := by
    intro sampleId listed
    rcases List.mem_map.mp listed with ⟨sample, sampleMem, rfl⟩
    exact Nat.ne_of_lt (lt_largest_succ SampleRow.id sampleMem)
  constructor
  · intro row rowMem
    exact used _ (keys.packetTypesRefer row rowMem)
  · intro row rowMem
    exact used _ (keys.brokerDeliveriesRefer row rowMem)

/-- Rows of a new sample with different keys do not collide with the rows before them. -/
theorem nodup_map_append {Row Key : Type} {sampleId : Nat} (sampleOf : Row → Nat)
    (key : Row → Key) {before rows : List Row}
    (nodup : (before.map fun row => (sampleOf row, key row)).Nodup)
    (apart : (rows.map key).Nodup) (unused : ∀ row ∈ before, sampleOf row ≠ sampleId)
    (own : ∀ row ∈ rows, sampleOf row = sampleId) :
    ((before ++ rows).map fun row => (sampleOf row, key row)).Nodup := by
  rw [List.map_append]
  refine List.nodup_append.mpr ⟨nodup, ?_, ?_⟩
  · apply List.Nodup.of_map Prod.snd
    rw [List.map_map]
    exact apart
  · intro taken takenMem added addedMem same
    rcases List.mem_map.mp takenMem with ⟨row, rowMem, rfl⟩
    rcases List.mem_map.mp addedMem with ⟨other, otherMem, rfl⟩
    exact unused row rowMem ((congrArg Prod.fst same).trans (own other otherMem))

end Executes

section Recorded

variable {tables : StoreTables} {sample : PacketSample}

theorem nodup_packetTypeRows (buckets : (sample.packetsByType.map Prod.fst).Nodup)
    (sampleId : Nat) :
    (((recordPacketSample sample).packetTypeRows sampleId).map
      PacketTypeRow.packetTypeBucket).Nodup := by
  have kept : ((recordPacketSample sample).packetTypes.map Prod.fst).Nodup :=
    (List.filter_sublist.map Prod.fst).nodup buckets
  have keys := kept.map PacketTypeBucket.key_injective
  rw [List.map_map] at keys
  rw [StoredSample.packetTypeRows, List.map_map]
  exact keys

theorem nodup_brokerDeliveryRows (brokers : (sample.brokerDeliveries.map Prod.fst).Nodup)
    (sampleId : Nat) :
    (((recordPacketSample sample).brokerDeliveryRows sampleId).map fun row =>
      (row.brokerId, row.outcome)).Nodup := by
  have kept : ((recordPacketSample sample).deliveries.map Prod.fst).Nodup := by
    simp only [recordPacketSample, List.map_flatMap, List.nodup_flatMap]
    constructor
    · intro entry _
      apply (List.filter_sublist.map Prod.fst).nodup
      simp
    · refine (List.pairwise_map.mp brokers).imp ?_
      intro former later apart
      apply List.disjoint_left.mpr
      intro key formerMem laterMem
      have owner : ∀ entry : String × Deliveries,
          key ∈ (deliveryRows entry.1 entry.2).map Prod.fst → key.1 = entry.1 := by
        intro entry keyMem
        have listed := (List.filter_sublist.map Prod.fst).subset keyMem
        simp only [List.map_cons, List.map_nil, List.mem_cons, List.not_mem_nil,
          or_false] at listed
        rcases listed with rfl | rfl | rfl
        · rfl
        · rfl
        · rfl
      exact apart ((owner former formerMem).symm.trans (owner later laterMem))
  have names : Function.Injective fun key : String × DeliveryOutcome =>
      (key.1.toList, key.2.name) := by
    intro first second same
    simp only [Prod.mk.injEq, String.toList_inj] at same
    exact Prod.ext same.1 (DeliveryOutcome.name_injective same.2)
  have keys := kept.map names
  rw [List.map_map] at keys
  rw [StoredSample.brokerDeliveryRows, List.map_map]
  exact keys

theorem sampleId_packetTypeRows (sample : StoredSample) (sampleId : Nat) :
    ∀ row ∈ sample.packetTypeRows sampleId, row.sampleId = sampleId := by
  intro row rowMem
  rcases List.mem_map.mp rowMem with ⟨entry, _, rfl⟩
  rfl

theorem sampleId_brokerDeliveryRows (sample : StoredSample) (sampleId : Nat) :
    ∀ row ∈ sample.brokerDeliveryRows sampleId,
      row.sampleId = sampleId ∧ row.outcome ∈ StoreTables.deliveryOutcomes := by
  intro row rowMem
  rcases List.mem_map.mp rowMem with ⟨delivery, _, rfl⟩
  exact ⟨rfl, delivery.1.2.name_mem⟩

/-- What `recordPacketSample` adds to the tables, where no statement is made to throw. -/
theorem recordPacketSample_returns (keys : KeyConstraints tables)
    (buckets : (sample.packetsByType.map Prod.fst).Nodup)
    (brokers : (sample.brokerDeliveries.map Prod.fst).Nodup) :
    MetricsStore.recordPacketSample (fun _ => .returns) sample.record (.idle tables) =
      (.idle (tables.recorded (recordPacketSample sample)), false) := by
  apply Session.transact_returns
  have content : (Session.idle tables).content = tables := rfl
  rw [content]
  generalize number : tables.nextSampleId = sampleId
  have unused := keys.unused
  rw [number] at unused
  have types := sampleId_packetTypeRows (recordPacketSample sample) sampleId
  have deliveries := sampleId_brokerDeliveryRows (recordPacketSample sample) sampleId
  simp only [recordStatements, execAll, StoreTables.insertSample, Option.bind_some,
    packetTypeRows_record, brokerDeliveryRows_record, execAll_append]
  rw [execAll_insertPacketType, Option.bind_some, execAll_insertBrokerDelivery]
  · rw [StoreTables.recorded, number]
    rfl
  · intro row rowMem
    simp [StoreTables.hasSample, number, (deliveries row rowMem).1]
  · intro row rowMem
    exact (deliveries row rowMem).2
  · apply nodup_map_append BrokerDeliveryRow.sampleId _ keys.brokerDeliveryKeys
    · exact nodup_brokerDeliveryRows brokers sampleId
    · exact unused.2
    · intro row rowMem
      exact (deliveries row rowMem).1
  · intro row rowMem
    simp [StoreTables.hasSample, number, types row rowMem]
  · apply nodup_map_append PacketTypeRow.sampleId _ keys.packetTypeKeys
    · exact nodup_packetTypeRows buckets sampleId
    · exact unused.1
    · exact types

theorem sublist_deliveriesDelta (prevSnapshot : Option Snapshot)
    (mqtt : List (String × BrokerHealth)) :
    ((deliveriesDelta prevSnapshot mqtt).map Prod.fst).Sublist (mqtt.map Prod.fst) := by
  induction mqtt with
  | nil => exact List.Sublist.refl _
  | cons state states ih =>
      simp only [deliveriesDelta, List.filterMap_cons] at ih ⊢
      split
      · rename_i skipped
        exact ih.cons _
      · rename_i entry counted
        simp only [Option.ite_none_right_eq_some, Option.some.injEq] at counted
        rcases counted with ⟨_, rfl⟩
        exact ih.cons_cons _

/-- A sample of the sampler is never refused. -/
theorem recordPacketSample_computeSampleDelta (keys : KeyConstraints tables)
    (prevSnapshot : Option Snapshot) {snapshot : Snapshot}
    (brokers : (snapshot.mqtt.map Prod.fst).Nodup) (sampleAt intervalMs : Int) :
    MetricsStore.recordPacketSample (fun _ => .returns)
        (computeSampleDelta prevSnapshot snapshot sampleAt intervalMs).record (.idle tables) =
      (.idle (tables.recorded
        (recordPacketSample (computeSampleDelta prevSnapshot snapshot sampleAt intervalMs))),
        false) := by
  apply recordPacketSample_returns keys
  · apply nodup_regroup
  · exact (sublist_deliveriesDelta prevSnapshot snapshot.mqtt).nodup brokers

/-- The packet history has a key for every bucket of a sample. -/
theorem named_recorded (named : ∀ row ∈ tables.packetTypes, row.packetTypeBucket ≠ protoKey)
    (sample : StoredSample) :
    ∀ row ∈ (tables.recorded sample).packetTypes, row.packetTypeBucket ≠ protoKey := by
  intro row rowMem
  rcases List.mem_append.mp rowMem with old | new
  · exact named row old
  · rcases List.mem_map.mp new with ⟨entry, _, rfl⟩
    exact entry.1.key_ne_protoKey

end Recorded

end MeshcoreObserver
