import MeshcoreObserver.Metrics.StoreContents

/-!
# Pruning the store

`pruneOlderThan` deletes the samples before a cutoff with the rows that refer to
them, and the replies that were resolved before it. A window which begins at the
cutoff or later does not see a difference: the condition of each delete is the
complement of the lower bound of the queries on the same column, and the ids of
the samples are unique, so no sample that is kept loses a row.
-/

namespace MeshcoreObserver

open Sqlite Transition

namespace StoreTables

/-- The rows of a sample. -/
def packetTypesOf (tables : StoreTables) (sample : SampleRow) : List PacketTypeRow :=
  tables.packetTypes.filter fun row => row.sampleId = sample.id

def brokerDeliveriesOf (tables : StoreTables) (sample : SampleRow) : List BrokerDeliveryRow :=
  tables.brokerDeliveries.filter fun row => row.sampleId = sample.id

end StoreTables

/-- A window shows the same before and after. -/
structure SameResults (before after : StoreTables) (window : Window) : Prop where
  packetHistory : ∀ maxBuckets sampleIntervalMs,
    after.queryPacketHistory window maxBuckets sampleIntervalMs =
      before.queryPacketHistory window maxBuckets sampleIntervalMs
  packetTypeTotals : after.queryPacketTypeTotals window = before.queryPacketTypeTotals window
  packetTotals : after.queryPacketTotals window = before.queryPacketTotals window
  brokerDeliveryTotals :
    after.queryBrokerDeliveryTotals window = before.queryBrokerDeliveryTotals window
  botCommandCounts : ∀ botName,
    after.queryBotCommandCounts botName window = before.queryBotCommandCounts botName window
  botCommandCountsByBot :
    after.queryBotCommandCountsByBot window = before.queryBotCommandCountsByBot window
  replyOutcomeTotals :
    after.queryReplyOutcomeTotals window = before.queryReplyOutcomeTotals window
  botReplyOutcomeTotals :
    after.queryBotReplyOutcomeTotals window = before.queryBotReplyOutcomeTotals window

/-- Nothing is forgotten but what lies before the cutoff. -/
structure ForgetsPast (cutoffMs : ℚ) (before after : StoreTables) : Prop where
  results : ∀ window : Window, cutoffMs ≤ window.start → SameResults before after window
  pending : after.botReplies.pending = before.botReplies.pending
  nodes : after.nodes = before.nodes
  floodAdvertState : after.floodAdvertState = before.floodAdvertState
  unreferred : ∀ sample ∈ before.samples, sample ∉ after.samples →
    after.packetTypesOf sample = [] ∧ after.brokerDeliveriesOf sample = []
  kept : ∀ sample ∈ before.samples, cutoffMs ≤ sample.sampleAt →
    sample ∈ after.samples ∧ after.packetTypesOf sample = before.packetTypesOf sample ∧
      after.brokerDeliveriesOf sample = before.brokerDeliveriesOf sample

namespace StoreTables

variable (tables : StoreTables) (cutoffMs : ℚ)

def pruned : StoreTables :=
  { tables with
    samples := tables.samples.filter fun sample => !decide ((sample.sampleAt : ℚ) < cutoffMs)
    packetTypes := tables.packetTypes.filter fun row => !tables.sampledBefore cutoffMs row.sampleId
    brokerDeliveries :=
      tables.brokerDeliveries.filter fun row => !tables.sampledBefore cutoffMs row.sampleId
    botReplies := tables.botReplies.pruneOlderThan ⌈cutoffMs⌉ }

theorem deleteReplies_eq : tables.deleteReplies cutoffMs =
    some { tables with botReplies := tables.botReplies.pruneOlderThan ⌈cutoffMs⌉ } := by
  simp only [deleteReplies, BotReplies.pruneOlderThan, BotReplies.prunable, Int.lt_ceil]
  congr 3
  funext row
  simp

/-- The rows which refer to an old sample are gone before it is, so no statement is refused. -/
theorem execAll_pruneStatements :
    execAll (pruneStatements cutoffMs) tables = some (tables.pruned cutoffMs) := by
  have types : (tables.packetTypes.filter fun row =>
      !tables.sampledBefore cutoffMs row.sampleId).any (fun row =>
        tables.sampledBefore cutoffMs row.sampleId) = false := by
    apply List.any_eq_false.mpr
    intro row rowMem
    simpa using (List.mem_filter.mp rowMem).2
  have deliveries : (tables.brokerDeliveries.filter fun row =>
      !tables.sampledBefore cutoffMs row.sampleId).any (fun row =>
        tables.sampledBefore cutoffMs row.sampleId) = false := by
    apply List.any_eq_false.mpr
    intro row rowMem
    simpa using (List.mem_filter.mp rowMem).2
  simp only [sampledBefore] at types deliveries
  simp only [pruneStatements, execAll, deletePacketTypes, deleteBrokerDeliveries, deleteSamples,
    sampledBefore, Option.bind_some, types, deliveries, Bool.or_self, Bool.false_eq_true, if_false,
    deleteReplies_eq, pruned]

end StoreTables

section Pruned

variable {tables : StoreTables} {cutoffMs : ℚ} {window : Window}

theorem samplesIn_pruned (later : cutoffMs ≤ window.start) :
    (tables.pruned cutoffMs).samplesIn window = tables.samplesIn window := by
  simp only [StoreTables.samplesIn, StoreTables.pruned, List.filter_filter]
  apply List.filter_congr
  intro sample _
  by_cases inWindow : window.contains sample.sampleAt = true
  · have bounds := Window.contains_iff.mp inWindow
    simp [inWindow, le_trans later bounds.1]
  · simp [inWindow]

/-- The ids are unique, so what is deleted of a sample is not of another. -/
theorem sampledBefore_of_kept (keys : KeyConstraints tables) {sample : SampleRow}
    (sampleMem : sample ∈ tables.samples) (kept : cutoffMs ≤ sample.sampleAt) :
    tables.sampledBefore cutoffMs sample.id = false := by
  apply List.any_eq_false.mpr
  intro other otherMem
  simp only [Bool.and_eq_true, decide_eq_true_eq, not_and, not_lt]
  intro same
  have equal := List.inj_on_of_nodup_map keys.sampleIds otherMem sampleMem same
  rw [equal]
  exact kept

/-- Deleting rows by the sample they refer to takes all the rows of a sample, or none. -/
theorem filter_referring {Row : Type} (sampleId : Row → Nat) (deleted : Nat → Bool)
    (rows : List Row) (id : Nat) :
    ((rows.filter fun row => !deleted (sampleId row)).filter fun row => sampleId row = id) =
      if deleted id then [] else rows.filter fun row => sampleId row = id := by
  rw [List.filter_filter]
  split
  · rename_i gone
    apply List.filter_eq_nil_iff.mpr
    intro row _
    by_cases own : sampleId row = id
    · simp [own, gone]
    · simp [own]
  · rename_i kept
    apply List.filter_congr
    intro row _
    by_cases own : sampleId row = id
    · simp [own, kept]
    · simp [own]

theorem joinSamples_filter {Row : Type} {sampleId : Row → Nat} {deleted : Nat → Bool}
    {samples : List SampleRow} {rows : List Row}
    (kept : ∀ sample ∈ samples, deleted sample.id = false) :
    joinSamples sampleId samples (rows.filter fun row => !deleted (sampleId row)) =
      joinSamples sampleId samples rows := by
  simp only [joinSamples, List.flatMap]
  congr 1
  apply List.map_congr_left
  intro sample sampleMem
  rw [filter_referring, if_neg]
  simp [kept sample sampleMem]

theorem kept_samplesIn (keys : KeyConstraints tables) (later : cutoffMs ≤ window.start) :
    ∀ sample ∈ tables.samplesIn window, tables.sampledBefore cutoffMs sample.id = false := by
  intro sample sampleMem
  rcases List.mem_filter.mp sampleMem with ⟨listed, inWindow⟩
  apply sampledBefore_of_kept keys listed
  exact le_trans later (Window.contains_iff.mp inWindow).1

theorem packetTypesIn_pruned (keys : KeyConstraints tables) (later : cutoffMs ≤ window.start) :
    (tables.pruned cutoffMs).packetTypesIn window = tables.packetTypesIn window := by
  rw [StoreTables.packetTypesIn, samplesIn_pruned later]
  exact joinSamples_filter (kept_samplesIn keys later)

/-- A reply that was resolved in the window was not resolved before the cutoff. -/
theorem not_prunable_of_resolvedIn (later : cutoffMs ≤ window.start) {row : ReplyRow QueuedReply}
    (inWindow : row.resolvedIn window = true) : BotReplies.prunable ⌈cutoffMs⌉ row = false := by
  simp only [ReplyRow.resolvedIn, Option.any_eq_true] at inWindow
  rcases inWindow with ⟨resolvedAt, resolved, contained⟩
  have bounds := Window.contains_iff.mp contained
  simp [BotReplies.prunable, resolved, Int.lt_ceil, le_trans later bounds.1]

theorem filter_pruned (later : cutoffMs ≤ window.start) (chosen : ReplyRow QueuedReply → Bool) :
    ((tables.pruned cutoffMs).botReplies.filter fun row =>
        chosen row && row.resolvedIn window) =
      tables.botReplies.filter fun row => chosen row && row.resolvedIn window := by
  simp only [StoreTables.pruned, BotReplies.pruneOlderThan, List.filter_filter]
  apply List.filter_congr
  intro row _
  by_cases inWindow : row.resolvedIn window = true
  · simp [not_prunable_of_resolvedIn later inWindow]
  · simp [inWindow]

theorem sameResults_pruned (keys : KeyConstraints tables) (later : cutoffMs ≤ window.start) :
    SameResults tables (tables.pruned cutoffMs) window := by
  have samples : (tables.pruned cutoffMs).samplesIn window = tables.samplesIn window :=
    samplesIn_pruned later
  have types := packetTypesIn_pruned keys later
  have sent : (tables.pruned cutoffMs).sentIn window = tables.sentIn window :=
    filter_pruned later _
  have resolved : (tables.pruned cutoffMs).resolvedRepliesIn window =
      tables.resolvedRepliesIn window := filter_pruned later _
  exact
    { packetHistory := by
        intro maxBuckets sampleIntervalMs
        simp only [StoreTables.queryPacketHistory, samples, types]
      packetTypeTotals := by
        simp only [StoreTables.queryPacketTypeTotals, types]
      packetTotals := by
        simp only [StoreTables.queryPacketTotals, samples]
      brokerDeliveryTotals := by
        have joined : joinSamples BrokerDeliveryRow.sampleId (tables.samplesIn window)
            (tables.pruned cutoffMs).brokerDeliveries =
              joinSamples BrokerDeliveryRow.sampleId (tables.samplesIn window)
                tables.brokerDeliveries := joinSamples_filter (kept_samplesIn keys later)
        simp only [StoreTables.queryBrokerDeliveryTotals, samples, joined]
      botCommandCounts := by
        intro botName
        simp only [StoreTables.queryBotCommandCounts, sent]
      botCommandCountsByBot := by
        simp only [StoreTables.queryBotCommandCountsByBot, sent]
      replyOutcomeTotals := by
        simp only [StoreTables.queryReplyOutcomeTotals, resolved]
      botReplyOutcomeTotals := by
        simp only [StoreTables.queryBotReplyOutcomeTotals, resolved] }

theorem mem_samples_pruned {sample : SampleRow} :
    sample ∈ (tables.pruned cutoffMs).samples ↔
      sample ∈ tables.samples ∧ cutoffMs ≤ sample.sampleAt := by
  simp [StoreTables.pruned]

theorem packetTypesOf_pruned (sample : SampleRow) :
    (tables.pruned cutoffMs).packetTypesOf sample =
      if tables.sampledBefore cutoffMs sample.id then [] else tables.packetTypesOf sample :=
  filter_referring PacketTypeRow.sampleId _ tables.packetTypes sample.id

theorem brokerDeliveriesOf_pruned (sample : SampleRow) :
    (tables.pruned cutoffMs).brokerDeliveriesOf sample =
      if tables.sampledBefore cutoffMs sample.id then [] else tables.brokerDeliveriesOf sample :=
  filter_referring BrokerDeliveryRow.sampleId _ tables.brokerDeliveries sample.id

theorem forgetsPast_pruned (keys : KeyConstraints tables) :
    ForgetsPast cutoffMs tables (tables.pruned cutoffMs) where
  results := fun window later => sameResults_pruned keys later
  pending := BotReplies.pending_pruneOlderThan _ _
  nodes := rfl
  floodAdvertState := rfl
  unreferred := by
    intro sample sampleMem deleted
    have early : tables.sampledBefore cutoffMs sample.id = true := by
      apply List.any_eq_true.mpr
      refine ⟨sample, sampleMem, ?_⟩
      simp only [mem_samples_pruned, not_and, not_le] at deleted
      simpa using deleted sampleMem
    rw [packetTypesOf_pruned, brokerDeliveriesOf_pruned, if_pos early, if_pos early]
    exact ⟨rfl, rfl⟩
  kept := by
    intro sample sampleMem later
    have kept := sampledBefore_of_kept keys sampleMem later
    rw [packetTypesOf_pruned, brokerDeliveriesOf_pruned, kept]
    refine ⟨mem_samples_pruned.mpr ⟨sampleMem, later⟩, ?_, ?_⟩
    · simp
    · simp

end Pruned

/-- `pruneOlderThan` returns unless one of its six statements is made to throw. When it returns, it
has only forgotten what lies before the cutoff, and when it throws, it has done nothing. -/
theorem pruning_only_forgets_past {store : MetricsStore} (reachable : storeSystem.Reachable store)
    (faults : Nat → Fault) (cutoffMs : ℚ) :
    ((store.pruneOlderThan faults cutoffMs).2 = false ↔
        ∀ position ≤ 5, faults position = .returns) ∧
      ((store.pruneOlderThan faults cutoffMs).2 = false →
        ForgetsPast cutoffMs store.content (store.pruneOlderThan faults cutoffMs).1.content) ∧
      ((store.pruneOlderThan faults cutoffMs).2 = true →
        (store.pruneOlderThan faults cutoffMs).1 = store) := by
  rcases keys_of_reachable reachable with ⟨tables, rfl, keys⟩
  have executes := tables.execAll_pruneStatements cutoffMs
  have calls : Session.Undisturbed faults 0 ((pruneStatements cutoffMs).length + 1) ↔
      ∀ position ≤ 5, faults position = .returns := by
    simp [Session.Undisturbed, pruneStatements]
  rcases Session.transact_idle faults (pruneStatements cutoffMs) tables with
    ⟨undisturbed, after, executed, finished⟩ | ⟨disturbed, finished⟩
  · have same : after = tables.pruned cutoffMs := Option.some.inj (executed.symm.trans executes)
    subst after
    simp only [MetricsStore.pruneOlderThan, finished]
    refine ⟨iff_of_true trivial (calls.mp undisturbed), ?_, ?_⟩
    · intro _
      exact forgetsPast_pruned keys
    · simp
  · simp only [MetricsStore.pruneOlderThan, finished]
    refine ⟨?_, ?_, ?_⟩
    · rcases disturbed with disturbed | refused
      · apply iff_of_false
        · simp
        · intro undisturbed
          exact disturbed (calls.mpr undisturbed)
      · rw [executes] at refused
        cases refused
    · simp
    · simp

/-- A new store. -/
def newTables : StoreTables :=
  { samples := [], packetTypes := [], brokerDeliveries := [], botReplies := [], nodes := []
    floodAdvertState := .new }

theorem keyConstraints_newTables : KeyConstraints newTables where
  sampleIds := List.nodup_nil
  packetTypeKeys := List.nodup_nil
  brokerDeliveryKeys := List.nodup_nil
  packetTypesRefer := by simp [newTables]
  brokerDeliveriesRefer := by simp [newTables]
  replyIds := List.nodup_nil
  publicKeys := List.nodup_nil

/-- Two samples, one on each side of the cutoff, and a reply which still waits. -/
def twoSamples : List StoreEvent :=
  ([2000, 3000].map fun sampleAt =>
    .recordPacketSample (fun _ => .returns)
      { sampleAt, intervalMs := 1000, packetsReceived := 5, packetsDecoded := 4
        radioConnected := true, brokersConnected := 1, brokersTotal := 1, botsReady := 1
        botsTotal := 1, replyQueueSize := 0
        packetsByType := [(['a', 'c', 'k'], 4), (['p', 'a', 't', 'h'], 0)]
        brokerDeliveries := [(['m', 'q', 't', 't'], [(['s', 'e', 'n', 't'], 4)])] }) ++
    [.write .returns (.enqueueReplyItem
      { botName := ['b', 'o', 't'], channel := ['c'], trigger := ['t'], sender := ['s']
        hopCount := 0, path := [], hash := [], handlerState := ⟨.exact, none⟩ } 1000 9000)]

theorem pruning_only_forgets_past_of_two :
    let store := (storeSystem.run EventSystem.anyStep (.idle newTables) twoSamples).get
      (by decide)
    ((store.pruneOlderThan (fun _ => .returns) 3000).2 = false ↔
        ∀ position ≤ 5, (fun _ => Fault.returns) position = .returns) ∧
      ((store.pruneOlderThan (fun _ => .returns) 3000).2 = false →
        ForgetsPast 3000 store.content
          (store.pruneOlderThan (fun _ => .returns) 3000).1.content) ∧
      ((store.pruneOlderThan (fun _ => .returns) 3000).2 = true →
        (store.pruneOlderThan (fun _ => .returns) 3000).1 = store) := by
  apply pruning_only_forgets_past
  apply EventSystem.reachableWhen_get
  exact ⟨newTables, keyConstraints_newTables, rfl⟩

end MeshcoreObserver
