import MeshcoreObserver.Bots.ReplyInvariant
import Mathlib.Data.List.Perm.Subperm

/-!
# Replies go out in the order they came in

With one time to live for every process, the pending rows of the table are in
the order of their numbers, of their `enqueued_at` and of their `expires_at`
alike. A tick then takes its expired rows from the front of the pending ones and
its next reply from the front of what is left, so that neither the dispatches
nor the expiries ever go back to an earlier reply.
-/

namespace MeshcoreObserver

open Transition

universe u

variable {Item : Type u}

/-- The time to live a fresh process is started with. -/
def ReplyEvent.restartTtlMs : ReplyEvent Item → Option Int
  | .restart ttlMs _ _ => some ttlMs
  | _ => none

namespace ReplyWorld

/-- Every process has the time to live of the one before it. -/
def constantTtl (world : ReplyWorld Item) (event : ReplyEvent Item) : Prop :=
  event.restartTtlMs.all (· = world.queue.ttlMs) = true

instance (world : ReplyWorld Item) (event : ReplyEvent Item) :
    Decidable (constantTtl world event) :=
  inferInstanceAs (Decidable (_ = true))

/-- The pending rows stand in the order of their enqueueing, and everything that left the queue
stood before them. -/
structure InOrder (world : ReplyWorld Item) : Prop where
  waiting : world.rows.pending.Pairwise fun first second =>
    first.item.number < second.item.number ∧ first.enqueuedAt ≤ second.enqueuedAt
  lifetimes : ∀ row ∈ world.rows.pending,
    row.expiresAt = row.enqueuedAt + world.queue.ttlMs ∧ row.enqueuedAt ≤ world.clock
  first : ∀ transmission ∈ world.transmissions, ∀ row ∈ world.rows.pending,
    transmission.row.item.number ≤ row.item.number
  dispatches : world.dispatched.Pairwise (· < ·)
  dispatched : ∀ number ∈ world.dispatched, ∀ row ∈ world.rows.pending,
    row.item.number ∉ world.dispatched → number < row.item.number
  reports : (world.expiredReports.map fun row => row.item.number).Pairwise (· < ·)
  reported : ∀ report ∈ world.expiredReports, ∀ row ∈ world.rows.pending,
    report.item.number < row.item.number
  accepted : ∀ report ∈ world.expiredReports, report.item.number < world.accepted

theorem inOrder_new (ttlMs quietMs now : Int) :
    (new ttlMs quietMs now : ReplyWorld Item).InOrder where
  waiting := List.Pairwise.nil
  lifetimes := by simp [new, BotReplies.pending]
  first := by simp [new]
  dispatches := List.Pairwise.nil
  dispatched := by simp [new, dispatched]
  reports := List.Pairwise.nil
  reported := by simp [new]
  accepted := by simp [new]

namespace InOrder

variable {before after : ReplyWorld Item}

/-- A step that only takes rows out of the pending ones keeps the order. -/
theorem shrink (ordered : before.InOrder)
    (pending : after.rows.pending.Sublist before.rows.pending)
    (ttlMs : after.queue.ttlMs = before.queue.ttlMs) (clock : before.clock ≤ after.clock)
    (inFlight : ∀ transmission ∈ after.transmissions,
      ∃ old ∈ before.transmissions, transmission.row = old.row)
    (dispatches : after.dispatches = before.dispatches)
    (reports : after.expiredReports = before.expiredReports)
    (accepted : after.accepted = before.accepted) : after.InOrder := by
  have same : after.dispatched = before.dispatched := congrArg (List.map Prod.fst) dispatches
  constructor
  · exact ordered.waiting.sublist pending
  · intro row rowMem
    rcases ordered.lifetimes row (pending.subset rowMem) with ⟨expiresAt, enqueuedAt⟩
    exact ⟨ttlMs ▸ expiresAt, Int.le_trans enqueuedAt clock⟩
  · intro transmission transmissionMem row rowMem
    rcases inFlight transmission transmissionMem with ⟨old, oldMem, sameRow⟩
    rw [sameRow]
    exact ordered.first old oldMem row (pending.subset rowMem)
  · rw [same]
    exact ordered.dispatches
  · rw [same]
    intro number numberMem row rowMem
    exact ordered.dispatched number numberMem row (pending.subset rowMem)
  · rw [reports]
    exact ordered.reports
  · rw [reports]
    intro report reportMem row rowMem
    exact ordered.reported report reportMem row (pending.subset rowMem)
  · rw [reports, accepted]
    exact ordered.accepted

/-- A step that leaves the table, the sends and the reports alone keeps the order. -/
theorem keep (ordered : before.InOrder) (rows : after.rows = before.rows)
    (ttlMs : after.queue.ttlMs = before.queue.ttlMs) (clock : before.clock ≤ after.clock)
    (transmissions : after.transmissions = before.transmissions)
    (dispatches : after.dispatches = before.dispatches)
    (reports : after.expiredReports = before.expiredReports)
    (accepted : after.accepted = before.accepted) : after.InOrder := by
  refine ordered.shrink ?_ ttlMs clock ?_ dispatches reports accepted
  · rw [rows]
  · intro transmission transmissionMem
    exact ⟨transmission, transmissions ▸ transmissionMem, rfl⟩

theorem startTimer (ordered : before.InOrder) : before.startTimer.InOrder := by
  simp only [ReplyWorld.startTimer]
  split
  · exact ordered
  · exact ordered.keep rfl rfl (Int.le_refl _) rfl rfl rfl rfl

theorem clearTimer (ordered : before.InOrder) : before.clearTimer.InOrder :=
  ordered.keep rfl rfl (Int.le_refl _) rfl rfl rfl rfl

theorem accept (ordered : before.InOrder) (lawful : before.Lawful) (item : Item) {now : Int}
    (later : before.clock ≤ now) :
    InOrder { before with
      rows := before.rows.enqueueReplyItem ⟨before.accepted, item⟩ now (now + before.queue.ttlMs)
      clock := now
      accepted := before.accepted + 1 } := by
  have numbered : ∀ row ∈ before.rows.pending, row.item.number < before.accepted := by
    intro row rowMem
    exact lawful.table.numbered row
      (List.mem_append_left _ (BotReplies.mem_pending.mp rowMem).1)
  constructor
  · simp only [BotReplies.pending_enqueueReplyItem, List.pairwise_append,
      List.pairwise_singleton, List.mem_singleton, true_and]
    refine ⟨ordered.waiting, ?_⟩
    rintro row rowMem _ rfl
    exact ⟨numbered row rowMem, Int.le_trans (ordered.lifetimes row rowMem).2 later⟩
  · simp only [BotReplies.pending_enqueueReplyItem, List.mem_append, List.mem_singleton]
    rintro row (old | rfl)
    · rcases ordered.lifetimes row old with ⟨expiresAt, enqueuedAt⟩
      exact ⟨expiresAt, Int.le_trans enqueuedAt later⟩
    · exact ⟨rfl, Int.le_refl now⟩
  · simp only [BotReplies.pending_enqueueReplyItem, List.mem_append, List.mem_singleton]
    rintro transmission transmissionMem row (old | rfl)
    · exact ordered.first transmission transmissionMem row old
    · rcases lawful.recorded.inFlight transmission transmissionMem with ⟨rowMem, _⟩
      exact Nat.le_of_lt (lawful.table.numbered _ (List.mem_append_left _ rowMem))
  · exact ordered.dispatches
  · simp only [BotReplies.pending_enqueueReplyItem, List.mem_append, List.mem_singleton]
    rintro number numberMem row (old | rfl) fresh
    · exact ordered.dispatched number numberMem row old fresh
    · exact lawful.recorded.dispatchedAccepted number numberMem
  · exact ordered.reports
  · simp only [BotReplies.pending_enqueueReplyItem, List.mem_append, List.mem_singleton]
    rintro report reportMem row (old | rfl)
    · exact ordered.reported report reportMem row old
    · exact ordered.accepted report reportMem
  · intro report reportMem
    exact Nat.lt_succ_of_lt (ordered.accepted report reportMem)

theorem enqueue (ordered : before.InOrder) (lawful : before.Lawful) (item : Item) {now : Int}
    (later : before.clock ≤ now) : (before.enqueue item now).InOrder := by
  simp only [ReplyWorld.enqueue]
  split
  · exact ordered
  · exact (ordered.accept lawful item later).startTimer

theorem selectExpired_eq (ordered : before.InOrder) (now : Int) :
    before.rows.selectExpired now = before.rows.pending.filter fun row => row.expiresAt ≤ now := by
  apply List.Pairwise.insertionSort_eq
  exact (ordered.waiting.imp And.right).sublist List.filter_sublist

theorem peek_eq (ordered : before.InOrder) :
    before.rows.peekOldestPendingReplyItem = before.rows.pending.head? := by
  have sorted : before.rows.pending.Pairwise fun first second =>
      first.enqueuedAt ≤ second.enqueuedAt := ordered.waiting.imp And.right
  exact congrArg List.head? sorted.insertionSort_eq

theorem earlier_or_later (ordered : before.InOrder) {first second : ReplyRow (Numbered Item)}
    (firstMem : first ∈ before.rows.pending) (secondMem : second ∈ before.rows.pending) :
    first = second ∨
      (first.item.number < second.item.number ∧ first.enqueuedAt ≤ second.enqueuedAt) ∨
      (second.item.number < first.item.number ∧ second.enqueuedAt ≤ first.enqueuedAt) := by
  refine List.Pairwise.forall_of_forall_of_flip
    (R := fun first second => first = second ∨
      (first.item.number < second.item.number ∧ first.enqueuedAt ≤ second.enqueuedAt) ∨
      (second.item.number < first.item.number ∧ second.enqueuedAt ≤ first.enqueuedAt))
    (fun row _ => Or.inl rfl) ?_ ?_ firstMem secondMem
  · exact ordered.waiting.imp fun earlier => Or.inr (Or.inl earlier)
  · exact ordered.waiting.imp fun earlier => Or.inr (Or.inr earlier)

theorem expireStale (ordered : before.InOrder) (lawful : before.Lawful)
    (unsent : before.transmissions = []) {now : Int} (later : before.clock ≤ now) :
    (before.expireStale now).InOrder := by
  have reports : (before.expireStale now).expiredReports =
      before.expiredReports ++ before.rows.pending.filter fun row => row.expiresAt ≤ now := by
    simp only [ReplyWorld.expireStale, ordered.selectExpired_eq]
  have pending : (before.expireStale now).rows.pending =
      before.rows.pending.filter fun row => now < row.expiresAt :=
    BotReplies.pending_expire before.rows now
  constructor
  · rw [pending]
    exact ordered.waiting.sublist List.filter_sublist
  · rw [pending]
    intro row rowMem
    rcases ordered.lifetimes row (List.mem_of_mem_filter rowMem) with ⟨expiresAt, enqueuedAt⟩
    exact ⟨expiresAt, Int.le_trans enqueuedAt later⟩
  · intro transmission transmissionMem
    simp [ReplyWorld.expireStale, unsent] at transmissionMem
  · exact ordered.dispatches
  · rw [pending]
    intro number numberMem row rowMem
    exact ordered.dispatched number numberMem row (List.mem_of_mem_filter rowMem)
  · rw [reports, List.map_append, List.pairwise_append]
    refine ⟨ordered.reports, ?_, ?_⟩
    · apply List.pairwise_map.mpr
      exact (ordered.waiting.imp And.left).sublist List.filter_sublist
    · simp only [List.mem_map, List.mem_filter]
      rintro _ ⟨report, reportMem, rfl⟩ _ ⟨row, ⟨rowMem, _⟩, rfl⟩
      exact ordered.reported report reportMem row rowMem
  · rw [reports, pending]
    intro report reportMem row rowMem
    rcases List.mem_filter.mp rowMem with ⟨rowMem, fresh⟩
    rcases List.mem_append.mp reportMem with old | new
    · exact ordered.reported report old row rowMem
    · rcases List.mem_filter.mp new with ⟨reportMem, due⟩
      simp only [decide_eq_true_eq] at fresh due
      have rowLife := (ordered.lifetimes row rowMem).1
      have reportLife := (ordered.lifetimes report reportMem).1
      rcases ordered.earlier_or_later reportMem rowMem with rfl | earlier | later
      · omega
      · exact earlier.1
      · omega
  · rw [reports]
    intro report reportMem
    rcases List.mem_append.mp reportMem with old | new
    · exact ordered.accepted report old
    · have pendingMem := BotReplies.mem_pending.mp (List.mem_of_mem_filter new)
      exact lawful.table.numbered report (List.mem_append_left _ pendingMem.1)

theorem reserve (ordered : before.InOrder) (unsent : before.transmissions = [])
    {next : ReplyRow (Numbered Item)} (peeked : before.rows.peekOldestPendingReplyItem = some next)
    (air : AirtimeCoordinator) {now notedAt : Int} (later : before.clock ≤ notedAt) :
    InOrder { before with
      air
      clock := notedAt
      queue := { before.queue with sending := true }
      transmissions := before.transmissions ++ [⟨next, now, .reserved⟩] } := by
  have aged : InOrder { before with clock := notedAt } :=
    ordered.keep rfl rfl later rfl rfl rfl rfl
  refine { aged with first := ?_ }
  simp only [unsent, List.nil_append, List.mem_singleton]
  rintro _ rfl row rowMem
  rw [ordered.peek_eq] at peeked
  rcases List.head?_eq_some_iff.mp peeked with ⟨rest, pending⟩
  have waiting := ordered.waiting
  rw [pending, List.pairwise_cons] at waiting
  rw [pending] at rowMem
  rcases List.mem_cons.mp rowMem with rfl | behind
  · exact Nat.le_refl _
  · exact Nat.le_of_lt (waiting.1 row behind).1

theorem tick (ordered : before.InOrder) (lawful : before.Lawful) {now checkedAt notedAt : Int}
    (later : before.clock ≤ now) (checked : now ≤ checkedAt) (noted : checkedAt ≤ notedAt) :
    (before.tick now checkedAt notedAt).InOrder := by
  simp only [ReplyWorld.tick]
  split
  · exact ordered
  · rename_i sending
    have unsent := lawful.scheduled.unsent (by simpa using sending)
    have expired := ordered.expireStale lawful unsent later
    simp only [ReplyWorld.requestAir]
    split
    · exact expired.clearTimer
    · split
      · exact expired
      · rename_i next peeked
        split
        · exact expired.keep rfl rfl checked rfl rfl rfl rfl
        · exact expired.reserve unsent peeked _ (Int.le_trans checked noted)

theorem dispatchStarts (ordered : before.InOrder) (lawful : before.Lawful)
    {row : ReplyRow (Numbered Item)} {tickedAt : Int}
    (only : before.transmissions = [⟨row, tickedAt, .reserved⟩]) :
    InOrder { before with
      transmissions := [⟨row, tickedAt, .dispatched⟩]
      dispatches := before.dispatches ++ [(row.item.number, tickedAt)] } := by
  have first := ordered.first
  simp only [only, List.mem_singleton, forall_eq] at first
  rcases lawful.recorded.inFlight _ (only ▸ List.mem_singleton_self _) with
    ⟨rowMem, waiting, _, undispatched⟩
  have undispatched : row.item.number ∉ before.dispatched := undispatched
  have rowPending : row ∈ before.rows.pending := BotReplies.mem_pending.mpr ⟨rowMem, waiting⟩
  have dispatched_eq : (before.dispatches ++ [(row.item.number, tickedAt)]).map Prod.fst =
      before.dispatched ++ [row.item.number] := by
    simp [ReplyWorld.dispatched]
  refine { ordered with first := ?_, dispatches := ?_, dispatched := ?_ }
  · simp only [List.mem_singleton, forall_eq]
    exact first
  · rw [ReplyWorld.dispatched, dispatched_eq, List.pairwise_append]
    refine ⟨ordered.dispatches, List.pairwise_singleton _ _, ?_⟩
    intro number numberMem _ other
    rw [List.mem_singleton.mp other]
    exact ordered.dispatched number numberMem row rowPending undispatched
  · rw [ReplyWorld.dispatched, dispatched_eq]
    intro number numberMem other otherMem fresh
    simp only [List.mem_append, List.mem_singleton, not_or] at numberMem fresh
    rcases numberMem with old | rfl
    · exact ordered.dispatched number old other otherMem fresh.1
    · have := first other otherMem
      omega

theorem resume (ordered : before.InOrder) {transmission : Transmission Item} (outcome : Outcome)
    {now : Int} (later : before.clock ≤ now) :
    (before.resume transmission outcome now).InOrder := by
  have terminal : outcome.replyStatus ≠ .pending := by
    cases outcome
    · simp [Outcome.replyStatus]
    · simp [Outcome.replyStatus]
  have resolved : InOrder { before with
      rows := before.rows.resolveReplyItem transmission.row.id outcome.replyStatus now
        (now - transmission.row.enqueuedAt)
      queue := { before.queue with sending := false }
      transmissions := before.transmissions.filter fun other =>
        other.row.item.number ≠ transmission.row.item.number
      clock := now } := by
    refine ordered.shrink ?_ rfl later ?_ rfl rfl rfl
    · rw [BotReplies.pending_resolveReplyItem _ _ _ _ terminal]
      exact List.filter_sublist
    · intro other otherMem
      exact ⟨other, List.mem_of_mem_filter otherMem, rfl⟩
  simp only [ReplyWorld.resume]
  split
  · exact resolved.clearTimer
  · exact resolved

end InOrder

theorem InOrder.step {before after : ReplyWorld Item} {event : ReplyEvent Item}
    (ordered : before.InOrder) (lawful : before.Lawful) (met : constantTtl before event)
    (stepped : before.step event = some after) : after.InOrder := by
  cases lawful.scheduled.replyStep stepped with
  | start =>
      simp only [start]
      split
      · exact ordered
      · split
        · exact ordered.startTimer
        · exact ordered
  | enqueue later => exact ordered.enqueue lawful _ later
  | tick _ later checked noted => exact ordered.tick lawful later checked noted
  | dispatchStarts only => exact ordered.dispatchStarts lawful only
  | dispatchSettles only =>
      refine ordered.shrink (List.Sublist.refl _) rfl (Int.le_refl _) ?_ rfl rfl rfl
      simp [only]
  | tickResumes only later => exact ordered.resume _ later
  | pruneOlderThan =>
      refine ordered.shrink ?_ rfl (Int.le_refl _)
        (fun transmission transmissionMem => ⟨transmission, transmissionMem, rfl⟩) rfl rfl rfl
      rw [BotReplies.pending_pruneOlderThan]
  | stop =>
      simp only [stop]
      split
      · exact ordered
      · apply InOrder.clearTimer
        exact ordered.keep rfl rfl (Int.le_refl _) rfl rfl rfl rfl
  | restart _ _ later =>
      simp only [constantTtl, ReplyEvent.restartTtlMs, Option.all_some, decide_eq_true_eq] at met
      exact ordered.keep rfl met later rfl rfl rfl rfl
  | packetHeard later => exact ordered.keep rfl rfl later rfl rfl rfl rfl
  | stopResolves => exact ordered.keep rfl rfl (Int.le_refl _) rfl rfl rfl rfl
  | otherGranted _ _ later => exact ordered.keep rfl rfl later rfl rfl rfl rfl
  | otherReleased => exact ordered.keep rfl rfl (Int.le_refl _) rfl rfl rfl rfl

theorem inOrder_of_reachable {world : ReplyWorld Item}
    (reachable : (replySystem Item).ReachableWhen constantTtl world) :
    world.Lawful ∧ world.InOrder := by
  apply reachable.invariant
  · rintro _ ⟨ttlMs, quietMs, now, rfl⟩
    exact ⟨lawful_new ttlMs quietMs now, inOrder_new ttlMs quietMs now⟩
  · intro before event after holds met stepped
    exact ⟨holds.1.step stepped, holds.2.step holds.1 met stepped⟩

/-- Numbers that only rise and were all given out are a part of the sequence of all numbers. -/
theorem sublist_range {numbers : List Nat} {accepted : Nat} (rising : numbers.Pairwise (· < ·))
    (given : ∀ number ∈ numbers, number < accepted) :
    numbers.Sublist (List.range accepted) := by
  apply List.sublist_of_subperm_of_pairwise (r := (· < ·))
  · apply List.Nodup.subperm
    · exact rising.imp Nat.ne_of_lt
    · intro number numberMem
      exact List.mem_range.mpr (given number numberMem)
  · exact rising
  · exact List.pairwise_lt_range

/-- In every run with one time to live, a dispatch starts for the reply that was enqueued first
among the pending ones, so that the dispatched replies, and likewise the expired ones, come in the
order in which all replies were accepted. -/
theorem replies_first_in_first_out {world : ReplyWorld Item}
    (reachable : (replySystem Item).ReachableWhen constantTtl world) :
    (∀ number after, world.step (.dispatchStarts number) = some after →
      ∀ row ∈ world.rows, row.status = .pending → number ≤ row.item.number) ∧
      world.dispatched.Sublist (List.range world.accepted) ∧
      (world.expiredReports.map fun row => row.item.number).Sublist
        (List.range world.accepted) := by
  rcases inOrder_of_reachable reachable with ⟨lawful, ordered⟩
  refine ⟨?_, ?_, ?_⟩
  · intro number after stepped row rowMem waiting
    cases lawful.scheduled.replyStep stepped with
    | dispatchStarts only =>
        exact ordered.first _ (only ▸ List.mem_singleton_self _) row
          (BotReplies.mem_pending.mpr ⟨rowMem, waiting⟩)
  · exact sublist_range ordered.dispatches lawful.recorded.dispatchedAccepted
  · apply sublist_range ordered.reports
    simp only [List.mem_map, forall_exists_index, and_imp]
    rintro _ report reportMem rfl
    exact ordered.accepted report reportMem

theorem replies_first_in_first_out_of_three :
    let world := ((replySystem Nat).run constantTtl (.new 60 10 0)
      [.start, .enqueue 7 5, .enqueue 8 5, .tick 0 15 15 15, .dispatchStarts 0, .enqueue 9 18,
        .dispatchSettles 0 .rejected, .tickResumes 0 20, .stop, .stopResolves, .restart 60 10 64,
        .start, .tick 1 75 75 75, .dispatchStarts 2]).get rfl
    world.dispatched.Sublist (List.range world.accepted) ∧
      (world.expiredReports.map fun row => row.item.number).Sublist
        (List.range world.accepted) := by
  refine (replies_first_in_first_out ?_).2
  refine EventSystem.reachableWhen_get ?_ _
  exact ⟨60, 10, 0, rfl⟩

end ReplyWorld

end MeshcoreObserver
