import MeshcoreObserver.Metrics.PacketAccounting

/-!
# Retention

What is kept of the samples and of the resolved replies. The sampler prunes at the
first tick of a process and at the first one that is a day behind the last pruning, so
that after a tick nothing is older than the retention and a day. Whatever becomes of
the process, nothing younger than the retention is forgotten.
-/

namespace MeshcoreObserver

open Counting Sqlite Transition

namespace StoreTables

variable {tables : StoreTables} {time earlier : Int}

/-- Neither a sample nor a resolved reply is older. -/
structure NotOlder (tables : StoreTables) (time : Int) : Prop where
  samples : ∀ sample ∈ tables.samples, time ≤ sample.sampleAt
  replies : ∀ row ∈ tables.botReplies, row.status ≠ .pending →
    ∀ resolvedAt ∈ row.resolvedAt, time ≤ resolvedAt

theorem NotOlder.mono (notOlder : tables.NotOlder time) (le : earlier ≤ time) :
    tables.NotOlder earlier where
  samples sample mem := Int.le_trans le (notOlder.samples sample mem)
  replies row mem resolved resolvedAt at_ :=
    Int.le_trans le (notOlder.replies row mem resolved resolvedAt at_)

theorem notOlder_pruned (tables : StoreTables) (time : Int) :
    (tables.pruned time).NotOlder time where
  samples sample mem := by
    have kept := (mem_samples_pruned.mp mem).2
    exact_mod_cast kept
  replies row mem resolved resolvedAt resolvedMem := by
    have kept := (List.mem_filter.mp mem).2
    have some : row.resolvedAt = some resolvedAt := resolvedMem
    simp only [BotReplies.prunable, some, Option.any_some, Int.ceil_intCast] at kept
    simpa [resolved] using kept

theorem NotOlder.recorded (notOlder : tables.NotOlder time) {sample : StoredSample}
    (later : time ≤ sample.sampleAt) : (tables.recorded sample).NotOlder time where
  samples row mem := by
    rcases List.mem_append.mp mem with old | new
    · exact notOlder.samples row old
    · rw [List.mem_singleton.mp new]
      exact later
  replies := notOlder.replies

end StoreTables

/-- The write resolves no reply at a time before this one. -/
def StoreWrite.NotBefore (time : Int) : StoreWrite → Prop
  | .takeExpiredReplyItems now => time ≤ now
  | .resolveReplyItem _ _ resolvedAt _ => time ≤ resolvedAt
  | _ => True

instance (time : Int) (write : StoreWrite) : Decidable (write.NotBefore time) := by
  cases write <;> unfold StoreWrite.NotBefore <;> infer_instance

theorem StoreWrite.NotBefore.mono {write : StoreWrite} {time earlier : Int}
    (notBefore : write.NotBefore time) (le : earlier ≤ time) : write.NotBefore earlier := by
  cases write with
  | takeExpiredReplyItems now => exact Int.le_trans le notBefore
  | resolveReplyItem id status resolvedAt queuedMs => exact Int.le_trans le notBefore
  | _ => trivial

theorem StoreTables.NotOlder.write {tables : StoreTables} {time : Int}
    (notOlder : tables.NotOlder time) {write : StoreWrite} (later : write.NotBefore time) :
    (tables.write write).NotOlder time := by
  have samples := notOlder.samples
  rw [← (write_samples tables write).1] at samples
  refine ⟨samples, ?_⟩
  cases write with
  | upsertNode hearing => exact notOlder.replies
  | requestFloodAdvert requestedAt => exact notOlder.replies
  | startFloodAdvertAttempt attemptStartedAt => exact notOlder.replies
  | resolveFloodAdvertAttempt resolvedAt intervalMs sent => exact notOlder.replies
  | recoverFloodAdvertAttempt intervalMs uncertainAttemptIntervalMs => exact notOlder.replies
  | enqueueReplyItem item enqueuedAt expiresAt =>
      intro row mem resolved resolvedAt resolvedMem
      rcases List.mem_append.mp mem with old | new
      · exact notOlder.replies row old resolved resolvedAt resolvedMem
      · rw [List.mem_singleton.mp new] at resolved
        exact absurd rfl resolved
  | takeExpiredReplyItems now =>
      intro row mem resolved resolvedAt resolvedMem
      rcases BotReplies.mem_expire mem with old | ⟨former, _, _, _, rfl⟩
      · exact notOlder.replies row old.1 resolved resolvedAt resolvedMem
      · cases resolvedMem
        exact later
  | resolveReplyItem id status resolvedAt queuedMs =>
      intro row mem resolved at_ resolvedMem
      rcases BotReplies.mem_resolveReplyItem mem with old | ⟨former, _, _, rfl⟩
      · exact notOlder.replies row old.1 resolved at_ resolvedMem
      · cases resolvedMem
        exact later

namespace CaptureWorld

variable {world before after : CaptureWorld} {fromBytes : List UInt8 → Option Packet}

def cutoffMs (world : CaptureWorld) (now : Int) : Int :=
  now - world.metrics.sampler.retentionDays * oneDayMs

/-- The store when the tick has recorded its sample. -/
def recorded (world : CaptureWorld) (gauges : Gauges) (sampleAt : Int)
    (recordFaults : Nat → Fault) : MetricsStore :=
  (world.store.recordPacketSample recordFaults (world.nextSample gauges sampleAt).record).1

theorem store_tick (world : CaptureWorld) (gauges : Gauges) (sampleAt now : Int)
    (recordFaults pruneFaults : Nat → Fault) :
    (world.tick gauges sampleAt now recordFaults pruneFaults).store =
      if world.prunes now then
        ((world.recorded gauges sampleAt recordFaults).pruneOlderThan pruneFaults
          (world.cutoffMs now : Int)).1
      else world.recorded gauges sampleAt recordFaults := by
  simp only [CaptureWorld.tick, recorded, cutoffMs]
  split
  · rfl
  · rfl

/-- The time of the last pruning moves on where the tick prunes, whether this throws or not. -/
theorem sampler_tick (world : CaptureWorld) (gauges : Gauges) (sampleAt now : Int)
    (recordFaults pruneFaults : Nat → Fault) :
    let after := world.tick gauges sampleAt now recordFaults pruneFaults
    after.metrics.sampler.retentionDays = world.metrics.sampler.retentionDays ∧
      after.metrics.sampler.lastPrunedAt =
        if world.prunes now then some now else world.metrics.sampler.lastPrunedAt := by
  intro after
  have sampled : ∀ persists, (world.metrics.recordSample (world.metrics.health.snapshot gauges)
      sampleAt persists).sampler = world.metrics.sampler := by
    intro persists
    cases persists with
    | true => rfl
    | false => rfl
  have pruned : ∀ persists prunes, (((world.metrics.recordSample
      (world.metrics.health.snapshot gauges) sampleAt persists).maybePrune now prunes).sampler) =
        { world.metrics.sampler with
          lastPrunedAt := if world.prunes now then some now
            else world.metrics.sampler.lastPrunedAt } := by
    intro persists prunes
    rw [MetricsWorld.maybePrune, sampled, CaptureWorld.prunes]
    split
    · rename_i disabled
      have enabled : ¬0 < world.metrics.sampler.retentionDays := by omega
      simp [enabled, sampled]
    · rename_i enabled
      have enabled : 0 < world.metrics.sampler.retentionDays := by omega
      split
      · rename_i recent
        simp [recent, sampled]
      · rename_i due
        simp [due, enabled]
  simp only [after, CaptureWorld.tick, MetricsWorld.tick, pruned]
  exact ⟨trivial, trivial⟩

/-- What becomes of the tables: a sample is recorded or lost, and then they are pruned or not. -/
theorem tables_tick {tables : StoreTables} (idle : world.store = .idle tables)
    (invariant : CaptureInvariant world) (gauges : Gauges) (sampleAt now : Int)
    (recordFaults pruneFaults : Nat → Fault) :
    ∃ middle, world.recorded gauges sampleAt recordFaults = .idle middle ∧
      KeyConstraints middle ∧
      (middle = tables ∨
        middle = tables.recorded (recordPacketSample (world.nextSample gauges sampleAt))) ∧
      ((world.tick gauges sampleAt now recordFaults pruneFaults).store = .idle middle ∨
        world.prunes now = true ∧
          (world.tick gauges sampleAt now recordFaults pruneFaults).store =
            .idle (middle.pruned (world.cutoffMs now : Int))) := by
  rcases invariant.records gauges sampleAt recordFaults with ⟨middle, recordedIdle, keys, _⟩
  have same : world.recorded gauges sampleAt recordFaults = .idle middle := recordedIdle
  refine ⟨middle, same, keys, ?_, ?_⟩
  · rcases invariant.stored with ⟨own, ownIdle, ownKeys, _⟩
    cases idle.symm.trans ownIdle
    have follows := invariant.sampled.follows gauges
    rcases recordPacketSample_cases ownKeys world.metrics.sampler.lastSnapshot follows.mqttNodup
        sampleAt world.metrics.sampler.sampleIntervalMs recordFaults with recorded | failed
    · right
      rw [CaptureWorld.recorded, idle, nextSample, recorded] at same
      cases same
      rfl
    · left
      rw [CaptureWorld.recorded, idle, nextSample, failed] at same
      cases same
      rfl
  · rw [store_tick, same]
    cases due : world.prunes now with
    | false => exact .inl rfl
    | true =>
        rcases pruneOlderThan_cases middle (world.cutoffMs now : Int) pruneFaults with
          pruned | failed
        · right
          exact ⟨rfl, congrArg Prod.fst pruned⟩
        · left
          exact congrArg Prod.fst failed

/-- The clock does not go back behind the last pruning, and no pruning throws. -/
def Orderly (world : CaptureWorld) : CaptureEvent → Prop
  | .tick gauges sampleAt now recordFaults pruneFaults =>
      (∀ prunedAt ∈ world.metrics.sampler.lastPrunedAt, prunedAt ≤ sampleAt) ∧
        ((world.recorded gauges sampleAt recordFaults).pruneOlderThan pruneFaults
          (world.cutoffMs now : Int)).2 = false
  | .write _ write => ∀ prunedAt ∈ world.metrics.sampler.lastPrunedAt, write.NotBefore prunedAt
  | _ => True

instance (world : CaptureWorld) (event : CaptureEvent) : Decidable (world.Orderly event) := by
  cases event <;> unfold Orderly <;> infer_instance

/-- Nothing is older than what the last pruning has left. -/
structure Retains (world : CaptureWorld) : Prop where
  capture : CaptureInvariant world
  pruned : ∀ prunedAt ∈ world.metrics.sampler.lastPrunedAt,
    0 < world.metrics.sampler.retentionDays ∧
      world.store.content.NotOlder (world.cutoffMs prunedAt)

theorem cutoffMs_le {prunedAt : Int} (days : 0 < world.metrics.sampler.retentionDays) :
    world.cutoffMs prunedAt ≤ prunedAt := by
  simp only [cutoffMs, oneDayMs]
  omega

theorem Retains.write (retains : world.Retains) (fault : Fault) {write : StoreWrite}
    (orderly : ∀ prunedAt ∈ world.metrics.sampler.lastPrunedAt, write.NotBefore prunedAt) :
    Retains { world with store := (world.store.write fault write).1 } := by
  refine ⟨retains.capture.write fault write, ?_⟩
  intro prunedAt pruned
  rcases retains.pruned prunedAt pruned with ⟨days, notOlder⟩
  refine ⟨days, ?_⟩
  rcases retains.capture.stored with ⟨tables, idle, _, _⟩
  rw [idle] at notOlder ⊢
  have later : write.NotBefore (world.cutoffMs prunedAt) :=
    (orderly prunedAt pruned).mono (cutoffMs_le days)
  cases fault with
  | returns => exact notOlder.write later
  | throws => exact notOlder
  | rollsBack => exact notOlder

theorem Retains.tick (retains : world.Retains) (gauges : Gauges) {sampleAt now : Int}
    {recordFaults pruneFaults : Nat → Fault}
    (orderly : world.Orderly (.tick gauges sampleAt now recordFaults pruneFaults)) :
    (world.tick gauges sampleAt now recordFaults pruneFaults).Retains := by
  refine ⟨retains.capture.tick gauges sampleAt now recordFaults pruneFaults, ?_⟩
  rcases sampler_tick world gauges sampleAt now recordFaults pruneFaults with ⟨days, lastPrunedAt⟩
  rcases retains.capture.stored with ⟨tables, idle, _, _⟩
  rcases tables_tick idle retains.capture gauges sampleAt now recordFaults pruneFaults with
    ⟨middle, recorded, _, sampled, _⟩
  intro prunedAt pruned
  have cutoff : (world.tick gauges sampleAt now recordFaults pruneFaults).cutoffMs prunedAt =
      world.cutoffMs prunedAt := by
    rw [cutoffMs, cutoffMs, days]
  rw [lastPrunedAt] at pruned
  rw [days, cutoff, store_tick, recorded]
  cases due : world.prunes now with
  | true =>
      rw [due, if_pos rfl] at pruned
      cases pruned
      rw [CaptureWorld.prunes, Bool.and_eq_true, decide_eq_true_eq] at due
      refine ⟨due.1, ?_⟩
      rcases pruneOlderThan_cases middle (world.cutoffMs now : Int) pruneFaults with
        returned | threw
      · rw [if_pos rfl, returned]
        exact StoreTables.notOlder_pruned middle (world.cutoffMs now)
      · have returns := orderly.2
        rw [recorded, threw] at returns
        cases returns
  | false =>
      rw [due, if_neg Bool.false_ne_true] at pruned
      rcases retains.pruned prunedAt pruned with ⟨enabled, notOlder⟩
      refine ⟨enabled, ?_⟩
      rw [if_neg Bool.false_ne_true]
      rw [idle] at notOlder
      rcases sampled with rfl | rfl
      · exact notOlder
      · have later : world.cutoffMs prunedAt ≤ sampleAt :=
          Int.le_trans (cutoffMs_le enabled) (orderly.1 prunedAt pruned)
        exact notOlder.recorded later

theorem Retains.step (retains : world.Retains) {event : CaptureEvent}
    (orderly : world.Orderly event) (stepped : world.step fromBytes event = some after) :
    after.Retains := by
  have capture := retains.capture.step stepped
  cases event with
  | deviceInfo observer =>
      cases stepped
      exact ⟨capture, retains.pruned⟩
  | radioPacket push =>
      cases stepped
      refine ⟨capture, ?_⟩
      simp only [CaptureWorld.radioPacket]
      cases PacketPipeline.handleRawPacket fromBytes world.observer push with
      | none => exact retains.pruned
      | some packet => exact retains.pruned
  | publishResults results =>
      cases stepped
      exact ⟨capture, retains.pruned⟩
  | write fault write =>
      cases stepped
      exact retains.write fault orderly
  | tick gauges sampleAt now recordFaults pruneFaults =>
      cases stepped
      exact retains.tick gauges orderly
  | restarts brokers sampleIntervalMs retentionDays =>
      simp only [CaptureWorld.step, Option.ite_none_right_eq_some, Option.some.injEq] at stepped
      rcases stepped with ⟨unique, rfl⟩
      refine ⟨capture, ?_⟩
      intro prunedAt unpruned
      cases unpruned

theorem captureInvariant_new : CaptureInvariant new := by
  apply captureInvariant_starting keyConstraints_newTables
  · simp [BalancedTables, newTables]
  · exact List.nodup_nil

theorem captureInvariant_of_reachable (reachable : (captureSystem fromBytes).Reachable world) :
    CaptureInvariant world := by
  refine reachable.invariant ?_ ?_
  · rintro state rfl
    exact captureInvariant_new
  · intro before event after capture _ stepped
    exact capture.step stepped

theorem retains_of_reachable
    (reachable : (captureSystem fromBytes).ReachableWhen Orderly world) : world.Retains := by
  refine reachable.invariant ?_ ?_
  · rintro state rfl
    refine ⟨captureInvariant_new, ?_⟩
    intro prunedAt unpruned
    cases unpruned
  · intro before event after retains orderly stepped
    exact retains.step orderly stepped

/--
After a tick, nothing is as old as the retention and a day: no sample, no row of one, and
no resolved reply.
-/
theorem nothing_older (reachable : (captureSystem fromBytes).ReachableWhen Orderly world)
    {gauges : Gauges} {sampleAt now : Int} {recordFaults pruneFaults : Nat → Fault}
    (orderly : world.Orderly (.tick gauges sampleAt now recordFaults pruneFaults))
    (enabled : 0 < world.metrics.sampler.retentionDays) :
    let tables := (world.tick gauges sampleAt now recordFaults pruneFaults).store.content
    let oldest := now - (world.metrics.sampler.retentionDays + 1) * oneDayMs
    (∀ sample ∈ tables.samples, oldest < sample.sampleAt) ∧
      (∀ row ∈ tables.packetTypes, ∃ sample ∈ tables.samples, sample.id = row.sampleId) ∧
      (∀ row ∈ tables.brokerDeliveries, ∃ sample ∈ tables.samples, sample.id = row.sampleId) ∧
      ∀ row ∈ tables.botReplies, row.status ≠ .pending →
        ∀ resolvedAt ∈ row.resolvedAt, oldest < resolvedAt := by
  intro tables oldest
  have retains := (retains_of_reachable reachable).tick gauges orderly
  rcases sampler_tick world gauges sampleAt now recordFaults pruneFaults with ⟨days, lastPrunedAt⟩
  have recent : ∃ prunedAt, (world.tick gauges sampleAt now recordFaults
      pruneFaults).metrics.sampler.lastPrunedAt = some prunedAt ∧ now - prunedAt < oneDayMs := by
    rw [lastPrunedAt]
    cases due : world.prunes now with
    | true => exact ⟨now, rfl, by simp [oneDayMs]⟩
    | false =>
        simp only [CaptureWorld.prunes, enabled, decide_true, Bool.true_and,
          Bool.not_eq_false'] at due
        cases last : world.metrics.sampler.lastPrunedAt with
        | none => simp [last] at due
        | some prunedAt => exact ⟨prunedAt, rfl, by simpa [last] using due⟩
  rcases recent with ⟨prunedAt, pruned, young⟩
  rcases retains.pruned prunedAt pruned with ⟨_, notOlder⟩
  have later : oldest < (world.tick gauges sampleAt now recordFaults
      pruneFaults).cutoffMs prunedAt := by
    rw [cutoffMs, days]
    simp only [oldest, oneDayMs] at young ⊢
    omega
  rcases retains.capture.stored with ⟨stored, idle, keys, _⟩
  have same : tables = stored := by
    simp only [tables, idle]
    rfl
  rw [idle] at notOlder
  rw [same]
  refine ⟨?_, ?_, ?_, ?_⟩
  · intro sample mem
    exact Int.lt_of_lt_of_le later (notOlder.samples sample mem)
  · intro row mem
    exact List.mem_map.mp (keys.packetTypesRefer row mem)
  · intro row mem
    exact List.mem_map.mp (keys.brokerDeliveriesRefer row mem)
  · intro row mem resolved resolvedAt resolvedMem
    exact Int.lt_of_lt_of_le later (notOlder.replies row mem resolved resolvedAt resolvedMem)

/-- No tick is later, and no sampler keeps fewer days. -/
def Within (days limit : Int) (world : CaptureWorld) : CaptureEvent → Prop
  | .tick _ _ now _ _ =>
      now ≤ limit ∧
        (0 < world.metrics.sampler.retentionDays → days ≤ world.metrics.sampler.retentionDays)
  | _ => True

instance (days limit : Int) (world : CaptureWorld) (event : CaptureEvent) :
    Decidable (world.Within days limit event) := by
  cases event <;> unfold Within <;> infer_instance

/-- The sample is stored, with these rows. -/
def Keeps (tables : StoreTables) (sample : SampleRow) (types : List PacketTypeRow)
    (deliveries : List BrokerDeliveryRow) : Prop :=
  sample ∈ tables.samples ∧ tables.packetTypesOf sample = types ∧
    tables.brokerDeliveriesOf sample = deliveries

section Keeps

variable {tables : StoreTables} {sample : SampleRow} {types : List PacketTypeRow}
  {deliveries : List BrokerDeliveryRow}

/-- The rows of a new sample are not those of one that is stored. -/
theorem Keeps.recorded (keeps : Keeps tables sample types deliveries) (new : StoredSample) :
    Keeps (tables.recorded new) sample types deliveries := by
  rcases keeps with ⟨mem, rfl, rfl⟩
  have apart : tables.nextSampleId ≠ sample.id :=
    Ne.symm (Nat.ne_of_lt (lt_largest_succ SampleRow.id mem))
  have types : (new.packetTypeRows tables.nextSampleId).filter
      (fun row => row.sampleId = sample.id) = [] := by
    apply List.filter_eq_nil_iff.mpr
    intro row rowMem
    simpa [sampleId_packetTypeRows new _ row rowMem] using apart
  have deliveries : (new.brokerDeliveryRows tables.nextSampleId).filter
      (fun row => row.sampleId = sample.id) = [] := by
    apply List.filter_eq_nil_iff.mpr
    intro row rowMem
    simpa [sampleId_brokerDeliveryRows new _ row rowMem] using apart
  refine ⟨List.mem_append_left _ mem, ?_, ?_⟩
  · simp [StoreTables.packetTypesOf, StoreTables.recorded, List.filter_append, types]
  · simp [StoreTables.brokerDeliveriesOf, StoreTables.recorded, List.filter_append, deliveries]

theorem Keeps.pruned (keeps : Keeps tables sample types deliveries)
    (keys : KeyConstraints tables) {cutoffMs : ℚ} (young : cutoffMs ≤ sample.sampleAt) :
    Keeps (tables.pruned cutoffMs) sample types deliveries := by
  rcases keeps with ⟨mem, rfl, rfl⟩
  exact (forgetsPast_pruned keys).kept sample mem young

theorem Keeps.write (keeps : Keeps tables sample types deliveries) (write : StoreWrite) :
    Keeps (tables.write write) sample types deliveries := by
  cases write with
  | _ => exact keeps

end Keeps

theorem keeps_step {days limit : Int} {sample : SampleRow} {types : List PacketTypeRow}
    {deliveries : List BrokerDeliveryRow} (young : limit - days * oneDayMs ≤ sample.sampleAt)
    (capture : CaptureInvariant world) (keeps : Keeps world.store.content sample types deliveries)
    {event : CaptureEvent} (within : world.Within days limit event)
    (stepped : world.step fromBytes event = some after) :
    Keeps after.store.content sample types deliveries := by
  rcases capture.stored with ⟨tables, idle, _, _⟩
  rw [idle] at keeps
  cases event with
  | deviceInfo observer =>
      cases stepped
      rw [idle]
      exact keeps
  | radioPacket push =>
      cases stepped
      rw [CaptureWorld.radioPacket, idle]
      exact keeps
  | publishResults results =>
      cases stepped
      rw [idle]
      exact keeps
  | write fault write =>
      cases stepped
      rw [idle]
      cases fault with
      | returns => exact keeps.write write
      | throws => exact keeps
      | rollsBack => exact keeps
  | tick gauges sampleAt now recordFaults pruneFaults =>
      cases stepped
      rcases tables_tick idle capture gauges sampleAt now recordFaults pruneFaults with
        ⟨middle, _, keys, sampled, pruned⟩
      have recorded : Keeps middle sample types deliveries := by
        rcases sampled with rfl | rfl
        · exact keeps
        · exact keeps.recorded _
      rcases pruned with kept | ⟨due, pruned⟩
      · rw [kept]
        exact recorded
      · rw [CaptureWorld.prunes, Bool.and_eq_true, decide_eq_true_eq] at due
        have longer := within.2 due.1
        have cutoff : world.cutoffMs now ≤ sample.sampleAt := by
          have early := within.1
          simp only [cutoffMs, oneDayMs] at young ⊢
          omega
        rw [pruned]
        exact recorded.pruned keys (by exact_mod_cast cutoff)
  | restarts brokers sampleIntervalMs retentionDays =>
      simp only [CaptureWorld.step, Option.ite_none_right_eq_some, Option.some.injEq] at stepped
      rcases stepped with ⟨_, rfl⟩
      rw [idle]
      exact keeps

theorem keeps_run {days limit : Int} {sample : SampleRow} {types : List PacketTypeRow}
    {deliveries : List BrokerDeliveryRow} (young : limit - days * oneDayMs ≤ sample.sampleAt)
    (lead : (captureSystem fromBytes).Leads (Within days limit) before after)
    (capture : CaptureInvariant before)
    (keeps : Keeps before.store.content sample types deliveries) :
    Keeps after.store.content sample types deliveries := by
  have kept : ∀ first event second, CaptureInvariant first ∧
        Keeps first.store.content sample types deliveries →
      first.Within days limit event → (captureSystem fromBytes).step first event = some second →
        CaptureInvariant second ∧ Keeps second.store.content sample types deliveries := by
    rintro first event second ⟨captures, kept⟩ within stepped
    exact ⟨captures.step stepped, keeps_step young captures kept within stepped⟩
  exact (lead.invariant kept ⟨capture, keeps⟩).2

/--
A stored sample stays, with its rows, as long as no tick is later than the retention
behind it: whatever is written, lost, pruned or restarted.
-/
theorem nothing_younger {days limit : Int}
    (reachable : (captureSystem fromBytes).Reachable before)
    (lead : (captureSystem fromBytes).Leads (Within days limit) before after)
    {sample : SampleRow} (stored : sample ∈ before.store.content.samples)
    (young : limit - days * oneDayMs ≤ sample.sampleAt) :
    sample ∈ after.store.content.samples ∧
      after.store.content.packetTypesOf sample = before.store.content.packetTypesOf sample ∧
      after.store.content.brokerDeliveriesOf sample =
        before.store.content.brokerDeliveriesOf sample :=
  keeps_run young lead (captureInvariant_of_reachable reachable) ⟨stored, rfl, rfl⟩

/-- A day of ticks, a packet in the first of them, and then a new process. -/
def fewTicks : List CaptureEvent :=
  let gauges : Gauges :=
    { radioConnected := true, connectedBrokers := [], botsReady := [], replyQueueSize := 0 }
  let tick (time : Int) : CaptureEvent :=
    .tick gauges time time (fun _ => .returns) (fun _ => .returns)
  [.restarts [] 60000 1, .deviceInfo (some ⟨['a'], ['b']⟩),
    .radioPacket ⟨some 5, some (-90), [0x11, 0, 1]⟩, tick 60000, tick 40000000,
    .restarts [] 60000 1, tick 80000000]

theorem isSome_fewTicks :
    ((captureSystem floodPacket).run Orderly new fewTicks).isSome := by
  decide +kernel

theorem nothing_older_of_fewTicks :
    let gauges : Gauges :=
      { radioConnected := true, connectedBrokers := [], botsReady := [], replyQueueSize := 0 }
    ∃ world : CaptureWorld, world.store.content.samples.length = 3 ∧
      ∀ sample ∈ (world.tick gauges 200000000 200000000 (fun _ => .returns)
        (fun _ => .returns)).store.content.samples, 200000000 - 2 * oneDayMs < sample.sampleAt := by
  intro gauges
  have reachable := EventSystem.reachableWhen_get rfl isSome_fewTicks
  exact ⟨_, by decide +kernel, (nothing_older reachable (by decide +kernel) (by decide +kernel)).1⟩

theorem isSome_firstTick :
    ((captureSystem floodPacket).run EventSystem.anyStep new (fewTicks.take 4)).isSome := by
  decide +kernel

def afterFirstTick : CaptureWorld :=
  ((captureSystem floodPacket).run EventSystem.anyStep new (fewTicks.take 4)).get isSome_firstTick

theorem isSome_laterTicks :
    ((captureSystem floodPacket).run (Within 1 80000000) afterFirstTick
      (fewTicks.drop 4)).isSome := by
  decide +kernel

theorem nothing_younger_of_fewTicks :
    ∃ after : CaptureWorld, after.store.content.samples.length = 3 ∧
      ∃ sample ∈ afterFirstTick.store.content.samples, sample ∈ after.store.content.samples ∧
        after.store.content.packetTypesOf sample =
          afterFirstTick.store.content.packetTypesOf sample := by
  have reachable : (captureSystem floodPacket).Reachable afterFirstTick :=
    EventSystem.reachableWhen_get rfl isSome_firstTick
  have lead := EventSystem.leads_get isSome_laterTicks
  have stored : afterFirstTick.store.content.samples ≠ [] := by decide +kernel
  have young : ∀ sample ∈ afterFirstTick.store.content.samples,
      80000000 - 1 * oneDayMs ≤ sample.sampleAt := by decide +kernel
  rcases List.exists_mem_of_ne_nil _ stored with ⟨sample, mem⟩
  have kept := nothing_younger reachable lead mem (young sample mem)
  exact ⟨_, by decide +kernel, sample, mem, kept.1, kept.2.1⟩

end CaptureWorld

end MeshcoreObserver
