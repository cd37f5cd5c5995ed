import MeshcoreObserver.Metrics.PacketHistory
import MeshcoreObserver.Metrics.SampleRows
import MeshcoreObserver.Web.BotTotals

/-!
# The dashboard and the endpoints

The aggregate view derives its totals in JavaScript, from the buckets of a
history and from grouped rows; the dedicated endpoints ask SQL for them. Both
give the same answer, whatever the number of buckets: the buckets partition the
window, and no row that the sampler writes has a count of zero or a type that a
plain object loses, so the types with a total are those which occur.
-/

namespace MeshcoreObserver

open Counting Sqlite Transition

/-- No row is of the type whose count a plain object does not keep, and each count is positive. -/
structure CountedTypes (tables : StoreTables) : Prop where
  named : ∀ row ∈ tables.packetTypes, row.packetTypeBucket ≠ protoKey
  positive : ∀ row ∈ tables.packetTypes, 0 < row.count

/-- Rows as `recordPacketSample` writes them for the sampler. -/
structure SampledTypes (tables : StoreTables) : Prop where
  named : ∀ row ∈ tables.packetTypes, ∃ bucket : PacketTypeBucket,
    row.packetTypeBucket = bucket.key
  positive : ∀ row ∈ tables.packetTypes, 0 < row.count

/-- The samples that are recorded come from the sampler. -/
def StoreEvent.FromSampler : StoreEvent → Prop
  | .recordPacketSample _ sample => ∃ sampled : PacketSample, sample = sampled.record
  | .pruneOlderThan _ _ => True
  | .write _ _ => True

namespace SampledTypes

variable {tables after : StoreTables}

theorem of_same (types : SampledTypes tables) (same : after.packetTypes = tables.packetTypes) :
    SampledTypes after where
  named := same ▸ types.named
  positive := same ▸ types.positive

theorem counted (types : SampledTypes tables) : CountedTypes tables where
  named := by
    intro row rowMem
    rcases types.named row rowMem with ⟨bucket, own⟩
    rw [own]
    exact bucket.key_ne_protoKey
  positive := types.positive

theorem insertPacketType (types : SampledTypes tables) {row : PacketTypeRow}
    {bucket : PacketTypeBucket} (named : row.packetTypeBucket = bucket.key)
    (positive : 0 < row.count) (executed : tables.insertPacketType row = some after) :
    SampledTypes after := by
  simp only [StoreTables.insertPacketType, Option.ite_none_right_eq_some,
    Option.some.injEq] at executed
  rcases executed with ⟨_, rfl⟩
  constructor
  · simp only [List.forall_mem_append, List.forall_mem_singleton]
    exact ⟨types.named, bucket, named⟩
  · simp only [List.forall_mem_append, List.forall_mem_singleton]
    exact ⟨types.positive, positive⟩

theorem recordStatements (sampleId : Nat) (sample : PacketSample) {statement : TableStatement}
    (statementMem : statement ∈ MeshcoreObserver.recordStatements sampleId sample.record)
    (types : SampledTypes tables) (executed : statement tables = some after) :
    SampledTypes after := by
  simp only [MeshcoreObserver.recordStatements, List.mem_cons, List.mem_append,
    List.mem_map] at statementMem
  rcases statementMem with rfl | ⟨row, rowMem, rfl⟩ | ⟨row, _, rfl⟩
  · cases executed
    exact types.of_same rfl
  · rw [packetTypeRows_record] at rowMem
    rcases List.mem_map.mp rowMem with ⟨entry, entryMem, rfl⟩
    apply types.insertPacketType rfl _ executed
    exact of_decide_eq_true (List.mem_filter.mp entryMem).2
  · simp only [StoreTables.insertBrokerDelivery, Option.ite_none_right_eq_some,
      Option.some.injEq] at executed
    rcases executed with ⟨_, rfl⟩
    exact types.of_same rfl

theorem pruneStatements (cutoffMs : ℚ) {statement : TableStatement}
    (statementMem : statement ∈ MeshcoreObserver.pruneStatements cutoffMs)
    (types : SampledTypes tables) (executed : statement tables = some after) :
    SampledTypes after := by
  simp only [MeshcoreObserver.pruneStatements, List.mem_cons, List.not_mem_nil,
    or_false] at statementMem
  rcases statementMem with rfl | rfl | rfl | rfl
  · cases executed
    exact
      { named := fun row rowMem => types.named row (List.mem_of_mem_filter rowMem)
        positive := fun row rowMem => types.positive row (List.mem_of_mem_filter rowMem) }
  · cases executed
    exact types.of_same rfl
  · simp only [StoreTables.deleteSamples, Option.ite_none_left_eq_some, Option.some.injEq]
      at executed
    rcases executed with ⟨_, rfl⟩
    exact types.of_same rfl
  · cases executed
    exact types.of_same rfl

theorem write (types : SampledTypes tables) (write : StoreWrite) :
    SampledTypes (tables.write write) := by
  apply types.of_same
  cases write <;> rfl

theorem step (types : SampledTypes tables) {event : StoreEvent} (sampled : event.FromSampler) :
    ∃ after, MetricsStore.step (.idle tables) event = .idle after ∧ SampledTypes after := by
  cases event with
  | recordPacketSample faults sample =>
      rcases sampled with ⟨sampled, rfl⟩
      apply Session.transact_keeps _ faults types
      intro statement statementMem before after kept executed
      exact recordStatements _ sampled statementMem kept executed
  | pruneOlderThan faults cutoffMs =>
      apply Session.transact_keeps _ faults types
      intro statement statementMem before after kept executed
      exact pruneStatements cutoffMs statementMem kept executed
  | write fault write =>
      cases fault with
      | returns => exact ⟨tables.write write, rfl, types.write write⟩
      | throws => exact ⟨tables, rfl, types⟩
      | rollsBack => exact ⟨tables, rfl, types⟩

/-- A store into which only the sampler records holds rows of this form. -/
theorem of_leads (types : SampledTypes tables) {store : MetricsStore}
    (lead : storeSystem.Leads (fun _ event => event.FromSampler) (.idle tables) store) :
    ∃ after, store = .idle after ∧ SampledTypes after := by
  apply lead.invariant
  · rintro before event after ⟨held, rfl, kept⟩ sampled stepped
    cases stepped
    exact kept.step sampled
  · exact ⟨tables, rfl, types⟩

end SampledTypes

section Totals

variable {tables : StoreTables} {window : Window} {width : ℚ}

/-- The entries of the buckets, added up by their keys. -/
theorem perm_packetTypeTotalsFromHistory (buckets : List PacketBucket) :
    (packetTypeTotalsFromHistory buckets).Perm
      (regroup (fun key : Text => key) (buckets.flatMap PacketBucket.countsByType)) := by
  rw [regroup, List.foldl_flatMap]
  exact perm_orderBy _ _

theorem nodup_packetTypeTotalsFromHistory (buckets : List PacketBucket) :
    ((packetTypeTotalsFromHistory buckets).map Prod.fst).Nodup :=
  ((perm_packetTypeTotalsFromHistory buckets).map Prod.fst).nodup_iff.mpr
    (nodup_regroup _ _)

theorem count_packetTypeTotalsFromHistory {buckets : List PacketBucket}
    (nodup : ∀ bucket ∈ buckets, (bucket.countsByType.map Prod.fst).Nodup) (key : Text) :
    count key (packetTypeTotalsFromHistory buckets) =
      (buckets.map fun bucket => count key bucket.countsByType).sum := by
  have regrouped := count_regroup (fun key : Text => key) key
    (buckets.flatMap PacketBucket.countsByType)
  have summed : total (fun other => other = key) (buckets.flatMap PacketBucket.countsByType) =
      (buckets.map fun bucket => count key bucket.countsByType).sum := by
    induction buckets with
    | nil => rfl
    | cons bucket buckets ih =>
        simp only [List.forall_mem_cons] at nodup
        rw [List.flatMap_cons, total_append, total_eq_count nodup.1,
          ih nodup.2 (count_regroup _ _ _), List.map_cons, List.sum_cons]
  rw [← summed, ← regrouped, count, count,
    find?_perm (nodup_packetTypeTotalsFromHistory buckets)
      (perm_packetTypeTotalsFromHistory buckets)]

theorem nodup_setTypes (rows : List ((Int × Text) × Int)) {bucket : PacketBucket}
    (nodup : (bucket.countsByType.map Prod.fst).Nodup) :
    ((rows.foldl PacketBucket.setType bucket).countsByType.map Prod.fst).Nodup := by
  induction rows generalizing bucket with
  | nil => exact nodup
  | cons row rows ih =>
      apply ih
      simp only [PacketBucket.setType, setCount]
      split
      · exact nodup
      · exact nodup_update nodup

/-- The counts of a bucket are totals of rows of the second query. -/
theorem mem_setTypes {rows : List ((Int × Text) × Int)} {bucket : PacketBucket}
    {entry : Text × Int}
    (entryMem : entry ∈ (rows.foldl PacketBucket.setType bucket).countsByType) :
    entry ∈ bucket.countsByType ∨ ∃ row ∈ rows, row.2 = entry.2 := by
  induction rows generalizing bucket with
  | nil => exact Or.inl entryMem
  | cons row rows ih =>
      rcases ih entryMem with former | ⟨other, later, same⟩
      · simp only [PacketBucket.setType, setCount] at former
        split at former
        · exact Or.inl former
        · rcases mem_update former with old | rfl
          · exact Or.inl old
          · exact Or.inr ⟨row, List.mem_cons_self, rfl⟩
      · exact Or.inr ⟨other, List.mem_cons_of_mem row later, same⟩

theorem nodup_of_mem_historyBuckets {bucket : PacketBucket}
    (bucketMem : bucket ∈ historyBuckets tables window width) :
    (bucket.countsByType.map Prod.fst).Nodup := by
  rcases List.mem_map.mp bucketMem with ⟨row, _, rfl⟩
  apply nodup_setTypes
  exact List.nodup_nil

section Counted

variable (types : CountedTypes tables)

include types

theorem CountedTypes.pos_joined :
    ∀ joined ∈ tables.packetTypesIn window, 0 < joined.2.count := by
  intro joined joinedMem
  exact types.positive joined.2 (mem_packetTypes_of_joined joinedMem)

theorem CountedTypes.pos_queryPacketTypeTotals :
    ∀ entry ∈ tables.queryPacketTypeTotals window, 0 < entry.2 := by
  intro entry entryMem
  apply pos_of_mem_sumBy types.pos_joined entry
  exact (perm_orderBy _ _).mem_iff.mp entryMem

theorem CountedTypes.pos_historyBuckets {bucket : PacketBucket}
    (bucketMem : bucket ∈ historyBuckets tables window width) :
    ∀ entry ∈ bucket.countsByType, 0 < entry.2 := by
  rcases List.mem_map.mp bucketMem with ⟨row, _, rfl⟩
  intro entry entryMem
  rcases mem_setTypes entryMem with former | ⟨typeRow, typeRowMem, same⟩
  · cases former
  · have listed := (perm_typeRows window.start width _).mem_iff.mp
      (List.mem_of_mem_filter typeRowMem)
    rw [← same]
    exact pos_of_mem_sumBy types.pos_joined typeRow listed

theorem CountedTypes.pos_packetTypeTotalsFromHistory :
    ∀ entry ∈ packetTypeTotalsFromHistory (historyBuckets tables window width), 0 < entry.2 := by
  intro entry entryMem
  refine pos_regroup ?_ entry
    ((perm_packetTypeTotalsFromHistory _).mem_iff.mp entryMem)
  intro counted countedMem
  rcases List.mem_flatMap.mp countedMem with ⟨bucket, bucketMem, own⟩
  exact types.pos_historyBuckets bucketMem counted own

/-- The totals derived from the history are those which SQL computes. -/
theorem CountedTypes.perm_totals :
    (packetTypeTotalsFromHistory (historyBuckets tables window width)).Perm
      (tables.queryPacketTypeTotals window) := by
  apply perm_of_count_eq
  · exact nodup_packetTypeTotalsFromHistory _
  · exact nodup_orderBy _ (nodup_sumBy _ _ _)
  · intro entry entryMem
    exact ne_of_gt (types.pos_packetTypeTotalsFromHistory entry entryMem)
  · intro entry entryMem
    exact ne_of_gt (types.pos_queryPacketTypeTotals entry entryMem)
  · intro key
    rw [count_packetTypeTotalsFromHistory fun bucket => nodup_of_mem_historyBuckets]
    exact types_historyBuckets types.named key

end Counted

theorem packetTotalsFromHistory_eq :
    packetTotalsFromHistory (historyBuckets tables window width) =
      tables.queryPacketTotals window := by
  rw [packetTotalsFromHistory, received_historyBuckets, decoded_historyBuckets]

end Totals

/-- The totals of the types are those of the endpoint, and none of either is zero. -/
structure TypesAgree (tables : StoreTables) (window : Window) (byType : List (Text × Int)) :
    Prop where
  perm : byType.Perm (MetricsServer.handlePacketTypes tables window)
  nonzero : ∀ entry ∈ byType, entry.2 ≠ 0
  endpointNonzero : ∀ entry ∈ MetricsServer.handlePacketTypes tables window, entry.2 ≠ 0

/-- The views agree with the dedicated endpoints. -/
structure DashboardAgrees (server : MetricsServer) (tables : StoreTables) (window : Window)
    (comparisonWindow : Option Window) (maxBuckets : Nat) : Prop where
  overview : ∃ data,
    server.queryDashboardView tables window .overview maxBuckets comparisonWindow =
        some (.overview data) ∧
      TypesAgree tables window data.byType ∧
      data.packets = tables.queryPacketTotals window ∧
      data.brokers = server.handleBrokerDeliveries tables window ∧
      data.outcomes = MetricsServer.handleReplyQueue tables window
  packets : ∃ history totals,
    server.queryDashboardView tables window .packets maxBuckets comparisonWindow =
        some (.packets history totals) ∧ TypesAgree tables window totals
  brokers : server.queryDashboardView tables window .brokers maxBuckets comparisonWindow =
    some (.brokers (server.handleBrokerDeliveries tables window))
  bots : server.queryDashboardView tables window .bots maxBuckets comparisonWindow =
    some (.bots (MetricsServer.handleReplyQueue tables window)
      (server.handleBotCommands tables window))

/-- Nothing but the order of its types depends on the number of buckets of an overview. -/
def SameOverview (server : MetricsServer) (tables : StoreTables) (window : Window)
    (comparisonWindow : Option Window) (maxBuckets otherMaxBuckets : Nat) : Prop :=
  ∃ data byType,
    server.queryDashboardView tables window .overview maxBuckets comparisonWindow =
        some (.overview data) ∧
      server.queryDashboardView tables window .overview otherMaxBuckets comparisonWindow =
        some (.overview { data with byType }) ∧
      data.byType.Perm byType

/-- The overview of a window with the totals that SQL computes, and given totals of the types. -/
def MetricsServer.overviewOfTotals (server : MetricsServer) (tables : StoreTables)
    (window : Window) (comparisonWindow : Option Window) (byType : List (Text × Int)) :
    OverviewData :=
  let packets := tables.queryPacketTotals window
  let outcomes := MetricsServer.handleReplyQueue tables window
  let brokers := server.handleBrokerDeliveries tables window
  let repeaters := queryNodeTotals tables.nodes window repeaterType
  { packets
    byType
    outcomes
    brokers
    repeaters
    comparison := comparisonWindow.map fun previous =>
      { window := previous, durationMs := window.finish - window.start }
    trends := comparisonWindow.map fun previous =>
      MetricsServer.trends tables packets outcomes brokers repeaters previous
        (tables.queryPacketTotals previous) }

section Views

variable {server : MetricsServer} {tables : StoreTables} {window : Window} {maxBuckets : Nat}

theorem CountedTypes.agree (types : CountedTypes tables) (width : ℚ) :
    TypesAgree tables window
      (packetTypeTotalsFromHistory (historyBuckets tables window width)) where
  perm := types.perm_totals
  nonzero := fun entry entryMem => ne_of_gt (types.pos_packetTypeTotalsFromHistory entry entryMem)
  endpointNonzero := fun entry entryMem =>
    ne_of_gt (types.pos_queryPacketTypeTotals entry entryMem)

section Interval

variable (interval : 0 < server.sampleIntervalMs) (atLeast : 1 ≤ maxBuckets)

include interval atLeast

theorem queryPacketHistory_historyBuckets (tables : StoreTables) (window : Window) :
    ∃ width, server.queryPacketHistory tables window maxBuckets =
      some (historyBuckets tables window width) := by
  have grouped : ∃ width, _ ∧ _ ∧ tables.queryPacketHistory window maxBuckets
      server.sampleIntervalMs = _ := queryPacketHistory_eq interval atLeast
  rcases grouped with ⟨width, _, _, history⟩
  exact ⟨width, history⟩

/-- An overview shows what SQL computes, and the totals of its types. -/
theorem queryOverview_eq (tables : StoreTables) (window : Window)
    (comparisonWindow : Option Window) :
    ∃ width, server.queryOverview tables window maxBuckets comparisonWindow =
      some (server.overviewOfTotals tables window comparisonWindow
        (packetTypeTotalsFromHistory (historyBuckets tables window width))) := by
  rcases queryPacketHistory_historyBuckets interval atLeast tables window with ⟨width, history⟩
  refine ⟨width, ?_⟩
  rw [MetricsServer.queryOverview, history, Option.bind_some, packetTotalsFromHistory_eq]
  cases comparisonWindow with
  | none => rfl
  | some previous =>
      rcases queryPacketHistory_historyBuckets interval atLeast tables previous with
        ⟨previousWidth, previousHistory⟩
      simp only [previousHistory, Option.map_some, packetTotalsFromHistory_eq]
      rfl

theorem CountedTypes.dashboardAgrees (types : CountedTypes tables)
    (comparisonWindow : Option Window) :
    DashboardAgrees server tables window comparisonWindow maxBuckets where
  overview := by
    rcases queryOverview_eq interval atLeast tables window comparisonWindow with ⟨width, view⟩
    refine ⟨server.overviewOfTotals tables window comparisonWindow _, ?_, types.agree width, rfl,
      rfl, rfl⟩
    simp only [MetricsServer.queryDashboardView, view, Option.map_some]
    rfl
  packets := by
    rcases queryPacketHistory_historyBuckets interval atLeast tables window with ⟨width, history⟩
    refine ⟨historyBuckets tables window width, _, ?_, types.agree width⟩
    simp only [MetricsServer.queryDashboardView, history, Option.map_some]
  brokers := rfl
  bots := by
    simp only [MetricsServer.queryDashboardView, queryDashboardBotCommands_eq,
      handleBotCommands_eq, MetricsServer.handleReplyQueue]

theorem CountedTypes.sameOverview {otherMaxBuckets : Nat} (types : CountedTypes tables)
    (otherAtLeast : 1 ≤ otherMaxBuckets) (comparisonWindow : Option Window) :
    SameOverview server tables window comparisonWindow maxBuckets otherMaxBuckets := by
  rcases queryOverview_eq interval atLeast tables window comparisonWindow with ⟨width, view⟩
  rcases queryOverview_eq interval otherAtLeast tables window comparisonWindow with
    ⟨otherWidth, otherView⟩
  refine ⟨server.overviewOfTotals tables window comparisonWindow
      (packetTypeTotalsFromHistory (historyBuckets tables window width)),
    packetTypeTotalsFromHistory (historyBuckets tables window otherWidth), ?_, ?_,
    (types.agree width).perm.trans (types.agree otherWidth).perm.symm⟩
  · simp only [MetricsServer.queryDashboardView, view, Option.map_some]
  · simp only [MetricsServer.queryDashboardView, otherView, Option.map_some]
    rfl

end Interval

/-- For any two numbers of buckets, the aggregate views agree with the dedicated endpoints and with
each other. -/
theorem dashboard_agrees {otherMaxBuckets : Nat} (types : CountedTypes tables)
    (interval : 0 < server.sampleIntervalMs) (atLeast : 1 ≤ maxBuckets)
    (otherAtLeast : 1 ≤ otherMaxBuckets) (comparisonWindow : Option Window) :
    DashboardAgrees server tables window comparisonWindow maxBuckets ∧
      DashboardAgrees server tables window comparisonWindow otherMaxBuckets ∧
      SameOverview server tables window comparisonWindow maxBuckets otherMaxBuckets :=
  ⟨types.dashboardAgrees interval atLeast comparisonWindow,
    types.dashboardAgrees interval otherAtLeast comparisonWindow,
    types.sameOverview interval atLeast otherAtLeast comparisonWindow⟩

end Views

theorem sampledTypes_threeSamples : SampledTypes threeSamples where
  named := by
    intro row rowMem
    simp only [threeSamples, List.mem_cons, List.not_mem_nil, or_false] at rowMem
    rcases rowMem with rfl | rfl | rfl
    · exact ⟨.ack, rfl⟩
    · exact ⟨.ack, rfl⟩
    · exact ⟨.path, rfl⟩
  positive := by decide

theorem dashboard_agrees_of_threeSamples :
    DashboardAgrees renamedTrigger threeSamples ⟨0, 120000⟩ (some ⟨-120000, 0⟩) 10 ∧
      DashboardAgrees renamedTrigger threeSamples ⟨0, 120000⟩ (some ⟨-120000, 0⟩) 1000 ∧
      SameOverview renamedTrigger threeSamples ⟨0, 120000⟩ (some ⟨-120000, 0⟩) 10 1000 := by
  have interval : 0 < renamedTrigger.sampleIntervalMs := by
    simp [renamedTrigger]
  exact dashboard_agrees sampledTypes_threeSamples.counted interval (by decide) (by decide) _

end MeshcoreObserver
