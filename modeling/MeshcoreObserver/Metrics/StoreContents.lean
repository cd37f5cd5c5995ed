import MeshcoreObserver.Metrics.StoreQueries
import MeshcoreObserver.Sqlite.Transaction
import MeshcoreObserver.Transition.EventSystem

/-!
# What a metrics store holds

Every statement which writes the tables of the store, and the store under any
sequence of them. A sample is recorded, and old rows are pruned, in a transaction
of several statements; every other method is one statement, committed by itself.
Any statement may throw.

A store is opened with what earlier processes have left in it: any rows the keys
of the schema admit. `PRAGMA foreign_keys = ON` refuses a statement which leaves
a row that refers to no sample.
-/

namespace MeshcoreObserver

open Counting Sqlite Transition

/-- The store over its connection. -/
abbrev MetricsStore := Session StoreTables

/-- The argument of `recordPacketSample`, with the entries of its objects. -/
structure SampleRecord extends SampleColumns where
  packetsByType : List (Text × Int)
  brokerDeliveries : List (Text × List (Text × Int))
  deriving DecidableEq, Repr

/-- A statement on the tables, which may be refused. -/
abbrev TableStatement := StoreTables → Option StoreTables

namespace StoreTables

def nextSampleId (tables : StoreTables) : Nat :=
  tables.samples.foldr (fun sample largest => max sample.id largest) 0 + 1

def insertSample (columns : SampleColumns) (tables : StoreTables) : Option StoreTables :=
  some
    { tables with
      samples := tables.samples ++ [{ toSampleColumns := columns, id := tables.nextSampleId }] }

/-- `REFERENCES metrics_samples(id)`. -/
def hasSample (tables : StoreTables) (sampleId : Nat) : Bool :=
  tables.samples.any fun sample => sample.id = sampleId

def insertPacketType (row : PacketTypeRow) (tables : StoreTables) : Option StoreTables :=
  if tables.hasSample row.sampleId &&
      tables.packetTypes.all fun other =>
        (other.sampleId, other.packetTypeBucket) ≠ (row.sampleId, row.packetTypeBucket) then
    some { tables with packetTypes := tables.packetTypes ++ [row] }
  else none

/-- `CHECK (outcome IN ('sent', 'skipped', 'failed'))`. -/
def deliveryOutcomes : List Text :=
  [['s', 'e', 'n', 't'], ['s', 'k', 'i', 'p', 'p', 'e', 'd'], ['f', 'a', 'i', 'l', 'e', 'd']]

def insertBrokerDelivery (row : BrokerDeliveryRow) (tables : StoreTables) : Option StoreTables :=
  if tables.hasSample row.sampleId && deliveryOutcomes.contains row.outcome &&
      tables.brokerDeliveries.all fun other =>
        (other.sampleId, other.brokerId, other.outcome) ≠
          (row.sampleId, row.brokerId, row.outcome) then
    some { tables with brokerDeliveries := tables.brokerDeliveries ++ [row] }
  else none

/-- `sample_id IN (SELECT id FROM metrics_samples WHERE sample_at < ?)`. -/
def sampledBefore (cutoffMs : ℚ) (tables : StoreTables) (sampleId : Nat) : Bool :=
  tables.samples.any fun sample => sample.id = sampleId && (sample.sampleAt : ℚ) < cutoffMs

def deletePacketTypes (cutoffMs : ℚ) (tables : StoreTables) : Option StoreTables :=
  some
    { tables with
      packetTypes :=
        tables.packetTypes.filter fun row => !tables.sampledBefore cutoffMs row.sampleId }

def deleteBrokerDeliveries (cutoffMs : ℚ) (tables : StoreTables) : Option StoreTables :=
  some
    { tables with
      brokerDeliveries :=
        tables.brokerDeliveries.filter fun row => !tables.sampledBefore cutoffMs row.sampleId }

/-- Refused where a row still refers to a sample it would delete. -/
def deleteSamples (cutoffMs : ℚ) (tables : StoreTables) : Option StoreTables :=
  if (tables.packetTypes.any fun row => tables.sampledBefore cutoffMs row.sampleId) ||
      tables.brokerDeliveries.any fun row => tables.sampledBefore cutoffMs row.sampleId then
    none
  else
    some
      { tables with
        samples := tables.samples.filter fun sample => !decide ((sample.sampleAt : ℚ) < cutoffMs) }

/-- `status != 'pending' AND resolved_at < ?`. -/
def deleteReplies (cutoffMs : ℚ) (tables : StoreTables) : Option StoreTables :=
  some
    { tables with
      botReplies := tables.botReplies.filter fun row =>
        !(row.status ≠ .pending &&
          row.resolvedAt.any fun resolvedAt : Int => (resolvedAt : ℚ) < cutoffMs) }

end StoreTables

/-- The rows the first loop inserts. -/
def SampleRecord.packetTypeRows (sample : SampleRecord) (sampleId : Nat) : List PacketTypeRow :=
  (sample.packetsByType.filter fun entry => 0 < entry.2).map fun entry =>
    { sampleId, packetTypeBucket := entry.1, count := entry.2 }

/-- The rows the second loop inserts. -/
def SampleRecord.brokerDeliveryRows (sample : SampleRecord) (sampleId : Nat) :
    List BrokerDeliveryRow :=
  sample.brokerDeliveries.flatMap fun broker =>
    (broker.2.filter fun entry => 0 < entry.2).map fun entry =>
      { sampleId, brokerId := broker.1, outcome := entry.1, count := entry.2 }

def recordStatements (sampleId : Nat) (sample : SampleRecord) : List TableStatement :=
  StoreTables.insertSample sample.toSampleColumns ::
    ((sample.packetTypeRows sampleId).map StoreTables.insertPacketType ++
      (sample.brokerDeliveryRows sampleId).map StoreTables.insertBrokerDelivery)

def pruneStatements (cutoffMs : ℚ) : List TableStatement :=
  [StoreTables.deletePacketTypes cutoffMs, StoreTables.deleteBrokerDeliveries cutoffMs,
    StoreTables.deleteSamples cutoffMs, StoreTables.deleteReplies cutoffMs]

/-- The methods of one statement. -/
inductive StoreWrite where
  | upsertNode (hearing : NodeHearing)
  | requestFloodAdvert (requestedAt : Int)
  | startFloodAdvertAttempt (attemptStartedAt : Int)
  | resolveFloodAdvertAttempt (resolvedAt intervalMs : Int) (sent : Bool)
  | recoverFloodAdvertAttempt (intervalMs uncertainAttemptIntervalMs : Int)
  | enqueueReplyItem (item : QueuedReply) (enqueuedAt expiresAt : Int)
  | takeExpiredReplyItems (now : Int)
  | resolveReplyItem (id : Nat) (status : ReplyStatus) (resolvedAt queuedMs : Int)
  deriving DecidableEq, Repr

def StoreTables.write (tables : StoreTables) : StoreWrite → StoreTables
  | .upsertNode hearing => { tables with nodes := upsertNode tables.nodes hearing }
  | .requestFloodAdvert requestedAt =>
      { tables with floodAdvertState := tables.floodAdvertState.requestFloodAdvert requestedAt }
  | .startFloodAdvertAttempt attemptStartedAt =>
      { tables with
        floodAdvertState :=
          (tables.floodAdvertState.startFloodAdvertAttempt attemptStartedAt).getD
            tables.floodAdvertState }
  | .resolveFloodAdvertAttempt resolvedAt intervalMs sent =>
      { tables with
        floodAdvertState :=
          tables.floodAdvertState.resolveFloodAdvertAttempt resolvedAt intervalMs sent }
  | .recoverFloodAdvertAttempt intervalMs uncertainAttemptIntervalMs =>
      { tables with
        floodAdvertState :=
          tables.floodAdvertState.recoverFloodAdvertAttempt intervalMs
            uncertainAttemptIntervalMs }
  | .enqueueReplyItem item enqueuedAt expiresAt =>
      { tables with botReplies := tables.botReplies.enqueueReplyItem item enqueuedAt expiresAt }
  | .takeExpiredReplyItems now => { tables with botReplies := tables.botReplies.expire now }
  | .resolveReplyItem id status resolvedAt queuedMs =>
      { tables with
        botReplies := tables.botReplies.resolveReplyItem id status resolvedAt queuedMs }

namespace MetricsStore

/-- The statements insert under the `lastInsertRowid` of the first. -/
def recordPacketSample (faults : Nat → Fault) (sample : SampleRecord) (store : MetricsStore) :
    MetricsStore × Bool :=
  store.transact faults (recordStatements store.content.nextSampleId sample)

/-- The store it leaves, with whether it throws. -/
def pruneOlderThan (faults : Nat → Fault) (cutoffMs : ℚ) (store : MetricsStore) :
    MetricsStore × Bool :=
  store.transact faults (pruneStatements cutoffMs)

def write (fault : Fault) (write : StoreWrite) (store : MetricsStore) : MetricsStore × Bool :=
  store.attempt fault (Session.exec fun tables => some (tables.write write))

end MetricsStore

inductive StoreEvent where
  | recordPacketSample (faults : Nat → Fault) (sample : SampleRecord)
  | pruneOlderThan (faults : Nat → Fault) (cutoffMs : ℚ)
  | write (fault : Fault) (write : StoreWrite)

def MetricsStore.step (store : MetricsStore) : StoreEvent → MetricsStore
  | .recordPacketSample faults sample => (store.recordPacketSample faults sample).1
  | .pruneOlderThan faults cutoffMs => (store.pruneOlderThan faults cutoffMs).1
  | .write fault write => (store.write fault write).1

/-- The primary keys are unique, and the rows of a sample refer to one. -/
structure KeyConstraints (tables : StoreTables) : Prop where
  sampleIds : (tables.samples.map SampleRow.id).Nodup
  packetTypeKeys : (tables.packetTypes.map fun row => (row.sampleId, row.packetTypeBucket)).Nodup
  brokerDeliveryKeys :
    (tables.brokerDeliveries.map fun row => (row.sampleId, row.brokerId, row.outcome)).Nodup
  packetTypesRefer : ∀ row ∈ tables.packetTypes, row.sampleId ∈ tables.samples.map SampleRow.id
  brokerDeliveriesRefer :
    ∀ row ∈ tables.brokerDeliveries, row.sampleId ∈ tables.samples.map SampleRow.id
  replyIds : (tables.botReplies.map ReplyRow.id).Nodup
  publicKeys : (tables.nodes.map Prod.fst).Nodup

/-- The store of one process. -/
def storeSystem : EventSystem MetricsStore StoreEvent where
  Initial store := ∃ tables, KeyConstraints tables ∧ store = .idle tables
  step store event := some (store.step event)

namespace KeyConstraints

variable {tables after : StoreTables}

theorem insertSample (keys : KeyConstraints tables) (columns : SampleColumns)
    (executed : tables.insertSample columns = some after) : KeyConstraints after := by
  cases executed
  have still : ∀ row : SampleRow, ∀ sampleId ∈ tables.samples.map SampleRow.id,
      sampleId ∈ (tables.samples ++ [row]).map SampleRow.id := by
    intro row sampleId listed
    rw [List.map_append]
    exact List.mem_append_left _ listed
  exact
    { keys with
      sampleIds := by
        apply nodup_map_concat SampleRow.id keys.sampleIds
        intro sample sampleMem
        exact Nat.ne_of_lt (lt_largest_succ SampleRow.id sampleMem)
      packetTypesRefer := fun row rowMem => still _ _ (keys.packetTypesRefer row rowMem)
      brokerDeliveriesRefer := fun row rowMem => still _ _ (keys.brokerDeliveriesRefer row rowMem) }

theorem insertPacketType (keys : KeyConstraints tables) {row : PacketTypeRow}
    (executed : tables.insertPacketType row = some after) : KeyConstraints after := by
  simp only [StoreTables.insertPacketType, StoreTables.hasSample, Bool.and_eq_true,
    List.any_eq_true, List.all_eq_true, decide_eq_true_eq, Option.ite_none_right_eq_some,
    Option.some.injEq] at executed
  rcases executed with ⟨⟨⟨sample, sampleMem, same⟩, fresh⟩, rfl⟩
  exact
    { keys with
      packetTypeKeys := by
        apply nodup_map_concat _ keys.packetTypeKeys
        exact fresh
      packetTypesRefer := by
        simp only [List.forall_mem_append, List.forall_mem_singleton]
        exact ⟨keys.packetTypesRefer, List.mem_map.mpr ⟨sample, sampleMem, same⟩⟩ }

theorem insertBrokerDelivery (keys : KeyConstraints tables) {row : BrokerDeliveryRow}
    (executed : tables.insertBrokerDelivery row = some after) : KeyConstraints after := by
  simp only [StoreTables.insertBrokerDelivery, StoreTables.hasSample, Bool.and_eq_true,
    List.any_eq_true, List.all_eq_true, decide_eq_true_eq, Option.ite_none_right_eq_some,
    Option.some.injEq] at executed
  rcases executed with ⟨⟨⟨⟨sample, sampleMem, same⟩, _⟩, fresh⟩, rfl⟩
  exact
    { keys with
      brokerDeliveryKeys := by
        apply nodup_map_concat _ keys.brokerDeliveryKeys
        exact fresh
      brokerDeliveriesRefer := by
        simp only [List.forall_mem_append, List.forall_mem_singleton]
        exact ⟨keys.brokerDeliveriesRefer, List.mem_map.mpr ⟨sample, sampleMem, same⟩⟩ }

theorem recordStatements (sampleId : Nat) (sample : SampleRecord) {statement : TableStatement}
    (statementMem : statement ∈ MeshcoreObserver.recordStatements sampleId sample)
    (keys : KeyConstraints tables) (executed : statement tables = some after) :
    KeyConstraints after := by
  simp only [MeshcoreObserver.recordStatements, List.mem_cons, List.mem_append,
    List.mem_map] at statementMem
  rcases statementMem with rfl | ⟨row, _, rfl⟩ | ⟨row, _, rfl⟩
  · exact keys.insertSample _ executed
  · exact keys.insertPacketType executed
  · exact keys.insertBrokerDelivery executed

theorem deletePacketTypes (keys : KeyConstraints tables) {cutoffMs : ℚ}
    (executed : tables.deletePacketTypes cutoffMs = some after) : KeyConstraints after := by
  cases executed
  exact
    { keys with
      packetTypeKeys := (List.filter_sublist.map _).nodup keys.packetTypeKeys
      packetTypesRefer := fun row rowMem =>
        keys.packetTypesRefer row (List.mem_of_mem_filter rowMem) }

theorem deleteBrokerDeliveries (keys : KeyConstraints tables) {cutoffMs : ℚ}
    (executed : tables.deleteBrokerDeliveries cutoffMs = some after) : KeyConstraints after := by
  cases executed
  exact
    { keys with
      brokerDeliveryKeys := (List.filter_sublist.map _).nodup keys.brokerDeliveryKeys
      brokerDeliveriesRefer := fun row rowMem =>
        keys.brokerDeliveriesRefer row (List.mem_of_mem_filter rowMem) }

/-- A row of a sample which is not deleted still refers to it. -/
theorem mem_of_kept {cutoffMs : ℚ} {sampleId : Nat}
    (listed : sampleId ∈ tables.samples.map SampleRow.id)
    (kept : tables.sampledBefore cutoffMs sampleId = false) :
    sampleId ∈ (tables.samples.filter fun sample =>
      !decide ((sample.sampleAt : ℚ) < cutoffMs)).map SampleRow.id := by
  rcases List.mem_map.mp listed with ⟨sample, sampleMem, rfl⟩
  refine List.mem_map_of_mem (List.mem_filter.mpr ⟨sampleMem, ?_⟩)
  have later := List.any_eq_false.mp kept sample sampleMem
  simpa using later

theorem deleteSamples (keys : KeyConstraints tables) {cutoffMs : ℚ}
    (executed : tables.deleteSamples cutoffMs = some after) : KeyConstraints after := by
  simp only [StoreTables.deleteSamples, Option.ite_none_left_eq_some, Bool.or_eq_true, not_or,
    Bool.not_eq_true, Option.some.injEq] at executed
  rcases executed with ⟨⟨types, deliveries⟩, rfl⟩
  exact
    { keys with
      sampleIds := (List.filter_sublist.map _).nodup keys.sampleIds
      packetTypesRefer := by
        intro row rowMem
        apply mem_of_kept (keys.packetTypesRefer row rowMem)
        simpa using List.any_eq_false.mp types row rowMem
      brokerDeliveriesRefer := by
        intro row rowMem
        apply mem_of_kept (keys.brokerDeliveriesRefer row rowMem)
        simpa using List.any_eq_false.mp deliveries row rowMem }

theorem deleteReplies (keys : KeyConstraints tables) {cutoffMs : ℚ}
    (executed : tables.deleteReplies cutoffMs = some after) : KeyConstraints after := by
  cases executed
  exact { keys with replyIds := (List.filter_sublist.map _).nodup keys.replyIds }

theorem pruneStatements (cutoffMs : ℚ) {statement : TableStatement}
    (statementMem : statement ∈ MeshcoreObserver.pruneStatements cutoffMs)
    (keys : KeyConstraints tables) (executed : statement tables = some after) :
    KeyConstraints after := by
  simp only [MeshcoreObserver.pruneStatements, List.mem_cons, List.not_mem_nil,
    or_false] at statementMem
  rcases statementMem with rfl | rfl | rfl | rfl
  · exact keys.deletePacketTypes executed
  · exact keys.deleteBrokerDeliveries executed
  · exact keys.deleteSamples executed
  · exact keys.deleteReplies executed

theorem write (keys : KeyConstraints tables) (write : StoreWrite) :
    KeyConstraints (tables.write write) := by
  cases write with
  | upsertNode hearing => exact { keys with publicKeys := nodup_update keys.publicKeys }
  | requestFloodAdvert requestedAt => exact { keys with }
  | startFloodAdvertAttempt attemptStartedAt => exact { keys with }
  | resolveFloodAdvertAttempt resolvedAt intervalMs sent => exact { keys with }
  | recoverFloodAdvertAttempt intervalMs uncertainAttemptIntervalMs => exact { keys with }
  | enqueueReplyItem item enqueuedAt expiresAt =>
      refine { keys with replyIds := ?_ }
      apply nodup_map_concat ReplyRow.id keys.replyIds
      intro row rowMem
      exact Nat.ne_of_lt (BotReplies.lt_nextId rowMem)
  | takeExpiredReplyItems now =>
      have same := BotReplies.map_expire ReplyRow.id (fun _ _ _ _ => rfl) tables.botReplies now
      exact { keys with replyIds := same ▸ keys.replyIds }
  | resolveReplyItem id status resolvedAt queuedMs =>
      have same := BotReplies.map_resolveReplyItem ReplyRow.id (fun _ _ _ _ => rfl)
        tables.botReplies id status resolvedAt queuedMs
      exact { keys with replyIds := same ▸ keys.replyIds }

theorem step (keys : KeyConstraints tables) (event : StoreEvent) :
    ∃ after, MetricsStore.step (.idle tables) event = .idle after ∧ KeyConstraints after := by
  cases event with
  | recordPacketSample faults sample =>
      apply Session.transact_keeps _ faults keys
      intro statement statementMem before after kept executed
      exact recordStatements _ sample statementMem kept executed
  | pruneOlderThan faults cutoffMs =>
      apply Session.transact_keeps _ faults keys
      intro statement statementMem before after kept executed
      exact pruneStatements cutoffMs statementMem kept executed
  | write fault write =>
      cases fault with
      | returns => exact ⟨tables.write write, rfl, keys.write write⟩
      | throws => exact ⟨tables, rfl, keys⟩
      | rollsBack => exact ⟨tables, rfl, keys⟩

end KeyConstraints

/-- Between its methods, no transaction of a store is open, and its rows meet the keys of the
schema. -/
theorem keys_of_reachable {store : MetricsStore} (reachable : storeSystem.Reachable store) :
    ∃ tables, store = .idle tables ∧ KeyConstraints tables := by
  apply reachable.invariant
  · rintro store ⟨tables, keys, rfl⟩
    exact ⟨tables, rfl, keys⟩
  · rintro before event after ⟨tables, rfl, keys⟩ _ stepped
    cases stepped
    exact keys.step event

end MeshcoreObserver
