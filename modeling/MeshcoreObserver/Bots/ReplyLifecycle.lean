import MeshcoreObserver.Bots.ReplyInvariant

/-!
# The lifecycle of a reply

Every accepted reply owns one row. The row starts pending and is resolved at
most once, and its final status is decided by what the run did with the reply:
sent and failed are the two ways a dispatch ends, and expired is the fate of a
reply no tick ever dispatched before it fell due.

Between the settlement of a dispatch and the resumption of its tick the row is
still pending. A reply in that position is called awaited.
-/

namespace MeshcoreObserver

open Transition

universe u

variable {Item : Type u}

namespace ReplyWorld

def Awaited (world : ReplyWorld Item) (number : Nat) : Prop :=
  ∃ transmission ∈ world.transmissions, transmission.row.item.number = number

def countStatus (world : ReplyWorld Item) (status : ReplyStatus) : Nat :=
  world.rows.countP fun row => row.status = status

/-- The exactly-once lifecycle, in one state. -/
structure ExactlyOnce (world : ReplyWorld Item) : Prop where
  noOverlap : world.transmissions.length ≤ 1
  dispatchedOnce : world.dispatched.Nodup
  dispatchedInTime : ∀ dispatch ∈ world.dispatches, ∀ row ∈ world.everyRow,
    row.item.number = dispatch.1 → dispatch.2 < row.expiresAt
  sent : ∀ row ∈ world.everyRow, row.status = .sent ↔
    (row.item.number, .resolved) ∈ world.outcomes ∧ ¬world.Awaited row.item.number
  failed : ∀ row ∈ world.everyRow, row.status = .failed ↔
    (row.item.number, .rejected) ∈ world.outcomes ∧ ¬world.Awaited row.item.number
  expired : ∀ row ∈ world.everyRow, row.status = .expired ↔
    row.item.number ∉ world.dispatched ∧ world.Overdue row
  accounted : world.accepted = world.countStatus .pending + world.countStatus .sent +
    world.countStatus .failed + world.countStatus .expired + world.pruned.length

structure Progress (before after : ReplyWorld Item) : Prop where
  becomes : ∀ row ∈ before.everyRow, ∃ later ∈ after.everyRow, row.Becomes later
  fresh : ∀ row ∈ after.everyRow, before.accepted ≤ row.item.number → row.status = .pending

theorem Lawful.not_awaited {world : ReplyWorld Item} (lawful : world.Lawful)
    {row : ReplyRow (Numbered Item)} (rowMem : row ∈ world.everyRow)
    (resolved : row.status ≠ .pending) : ¬world.Awaited row.item.number := by
  rintro ⟨transmission, transmissionMem, same⟩
  rcases lawful.recorded.inFlight transmission transmissionMem with ⟨flying, waiting, _⟩
  have same := lawful.table.row_eq (List.mem_append_left _ flying) rowMem same
  exact resolved (same ▸ waiting)

theorem Lawful.status_eq {world : ReplyWorld Item} (lawful : world.Lawful)
    {row : ReplyRow (Numbered Item)} (rowMem : row ∈ world.everyRow) {outcome : Outcome}
    (answered : (row.item.number, outcome) ∈ world.outcomes)
    (resumed : ¬world.Awaited row.item.number) : row.status = outcome.replyStatus := by
  have recorded := lawful.recorded
  have law := recorded.rowLaw row rowMem
  have dispatched := recorded.answered _ (List.mem_map_of_mem answered)
  have unique : ∀ {other}, (row.item.number, other) ∈ world.outcomes → other = outcome := by
    intro other otherAnswered
    have same := List.inj_on_of_nodup_map recorded.answeredOnce otherAnswered answered rfl
    exact congrArg Prod.snd same
  cases status : row.status with
  | pending => exact absurd (law.awaited status dispatched) resumed
  | sent =>
      rw [← unique (law.sent status)]
      rfl
  | failed =>
      rw [← unique (law.failed status)]
      rfl
  | expired => exact absurd dispatched (law.undispatched status)
  | cancelled => exact absurd status law.uncancelled

theorem Lawful.expired_iff {world : ReplyWorld Item} (lawful : world.Lawful)
    {row : ReplyRow (Numbered Item)} (rowMem : row ∈ world.everyRow) :
    row.status = .expired ↔ row.item.number ∉ world.dispatched ∧ world.Overdue row := by
  have recorded := lawful.recorded
  have law := recorded.rowLaw row rowMem
  constructor
  · intro expired
    exact ⟨law.undispatched expired, law.overdue expired⟩
  · rintro ⟨undispatched, overdue⟩
    have unanswered : ∀ outcome, (row.item.number, outcome) ∉ world.outcomes := by
      intro outcome answered
      exact undispatched (recorded.answered _ (List.mem_map_of_mem answered))
    cases status : row.status with
    | pending => exact absurd overdue (law.undue status)
    | sent => exact absurd (law.sent status) (unanswered _)
    | failed => exact absurd (law.failed status) (unanswered _)
    | expired => rfl
    | cancelled => exact absurd status law.uncancelled

theorem length_eq_countP (rows : BotReplies (Numbered Item))
    (uncancelled : ∀ row ∈ rows, row.status ≠ .cancelled) :
    rows.length = (rows.countP fun row => row.status = .pending) +
      (rows.countP fun row => row.status = .sent) +
      (rows.countP fun row => row.status = .failed) +
      rows.countP fun row => row.status = .expired := by
  induction rows with
  | nil => rfl
  | cons row rows ih =>
      have ih := ih fun other otherMem => uncancelled other (List.mem_cons_of_mem row otherMem)
      have uncancelled := uncancelled row List.mem_cons_self
      cases status : row.status with
      | cancelled => exact absurd status uncancelled
      | _ =>
          simp only [List.length_cons, List.countP_cons, status, ih, decide_true, decide_false,
            reduceCtorEq, if_true, if_false, Bool.false_eq_true]
          omega

theorem Lawful.exactlyOnce {world : ReplyWorld Item} (lawful : world.Lawful) :
    world.ExactlyOnce where
  noOverlap := lawful.scheduled.single
  dispatchedOnce := lawful.recorded.dispatchedOnce
  dispatchedInTime := lawful.recorded.dispatchedInTime
  sent := by
    intro row rowMem
    constructor
    · intro sent
      refine ⟨(lawful.recorded.rowLaw row rowMem).sent sent, lawful.not_awaited rowMem ?_⟩
      simp [sent]
    · rintro ⟨answered, resumed⟩
      exact lawful.status_eq rowMem answered resumed
  failed := by
    intro row rowMem
    constructor
    · intro failed
      refine ⟨(lawful.recorded.rowLaw row rowMem).failed failed, lawful.not_awaited rowMem ?_⟩
      simp [failed]
    · rintro ⟨answered, resumed⟩
      exact lawful.status_eq rowMem answered resumed
  expired := fun _ rowMem => lawful.expired_iff rowMem
  accounted := by
    have counted := length_eq_countP world.rows fun row rowMem =>
      (lawful.recorded.rowLaw row (List.mem_append_left _ rowMem)).uncancelled
    have accounted := lawful.table.accounted
    simp only [everyRow, List.length_append] at accounted
    simp only [countStatus]
    omega

theorem Progress.of_rows {before after : ReplyWorld Item} (lawful : before.Lawful)
    (rows : after.rows = before.rows) (pruned : after.pruned = before.pruned) :
    before.Progress after := by
  have same : after.everyRow = before.everyRow := by simp only [everyRow, rows, pruned]
  refine ⟨?_, ?_⟩
  · intro row rowMem
    exact ⟨row, same ▸ rowMem, .same⟩
  · intro row rowMem fresh
    exact absurd (lawful.table.numbered row (same ▸ rowMem)) (Nat.not_lt.mpr fresh)

theorem startTimer_rows (world : ReplyWorld Item) : world.startTimer.rows = world.rows := by
  simp only [ReplyWorld.startTimer]
  split <;> rfl

theorem startTimer_pruned (world : ReplyWorld Item) : world.startTimer.pruned = world.pruned := by
  simp only [ReplyWorld.startTimer]
  split <;> rfl

theorem Lawful.start_progress {world : ReplyWorld Item} (lawful : world.Lawful) :
    world.Progress world.start := by
  apply Progress.of_rows lawful
  · simp only [ReplyWorld.start]
    split
    · rfl
    · split
      · exact world.startTimer_rows
      · rfl
  · simp only [ReplyWorld.start]
    split
    · rfl
    · split
      · exact world.startTimer_pruned
      · rfl

theorem Lawful.enqueue_progress {world : ReplyWorld Item} (lawful : world.Lawful) (item : Item)
    (now : Int) : world.Progress (world.enqueue item now) := by
  simp only [ReplyWorld.enqueue]
  split
  · exact Progress.of_rows lawful rfl rfl
  · refine ⟨?_, ?_⟩
    · intro row rowMem
      refine ⟨row, ?_, .same⟩
      simp only [everyRow, startTimer_rows, startTimer_pruned, BotReplies.enqueueReplyItem,
        List.mem_append] at rowMem ⊢
      exact rowMem.imp_left Or.inl
    · intro row rowMem fresh
      simp only [everyRow, startTimer_rows, startTimer_pruned, BotReplies.enqueueReplyItem,
        List.mem_append, List.mem_singleton] at rowMem
      rcases rowMem with (old | rfl) | old
      · have := lawful.table.numbered row (List.mem_append_left _ old)
        omega
      · rfl
      · have := lawful.table.numbered row (List.mem_append_right _ old)
        omega

theorem requestAir_rows (world : ReplyWorld Item) (now checkedAt notedAt : Int) :
    (world.requestAir now checkedAt notedAt).rows = world.rows := by
  rcases world.requestAir_eq now checkedAt notedAt with ⟨_, same⟩ | ⟨_, same⟩ | ⟨_, _, _, same⟩
  all_goals exact (congrArg ReplyWorld.rows same).trans rfl

theorem requestAir_pruned (world : ReplyWorld Item) (now checkedAt notedAt : Int) :
    (world.requestAir now checkedAt notedAt).pruned = world.pruned := by
  rcases world.requestAir_eq now checkedAt notedAt with ⟨_, same⟩ | ⟨_, same⟩ | ⟨_, _, _, same⟩
  all_goals exact (congrArg ReplyWorld.pruned same).trans rfl

theorem Lawful.tick_progress {world : ReplyWorld Item} (lawful : world.Lawful)
    (now checkedAt notedAt : Int) : world.Progress (world.tick now checkedAt notedAt) := by
  simp only [ReplyWorld.tick]
  split
  · exact Progress.of_rows lawful rfl rfl
  · have same : ((world.expireStale now).requestAir now checkedAt notedAt).everyRow =
        world.rows.expire now ++ world.pruned := by
      simp only [everyRow, requestAir_rows, requestAir_pruned, ReplyWorld.expireStale]
    refine ⟨?_, ?_⟩
    · intro row rowMem
      rw [same]
      rcases List.mem_append.mp rowMem with kept | old
      · refine ⟨_, List.mem_append_left _ (List.mem_map_of_mem kept), ?_⟩
        split
        · rename_i due
          exact .resolved due.1 (Or.inr (Or.inr rfl))
        · exact .same
      · exact ⟨row, List.mem_append_right _ old, .same⟩
    · intro row rowMem fresh
      rw [same] at rowMem
      rcases mem_everyRow_expireStale rowMem lawful.recorded.prunedResolved with
        ⟨old, _⟩ | ⟨old, oldMem, _, _, rfl⟩
      · exact absurd (lawful.table.numbered row old) (Nat.not_lt.mpr fresh)
      · have := lawful.table.numbered old (List.mem_append_left _ oldMem)
        exact absurd this (Nat.not_lt.mpr fresh)

theorem Lawful.resume_progress {world : ReplyWorld Item} (lawful : world.Lawful)
    {row : ReplyRow (Numbered Item)} {tickedAt : Int} {outcome : Outcome}
    (only : world.transmissions = [⟨row, tickedAt, .settled outcome⟩]) (now : Int) :
    world.Progress (world.resume ⟨row, tickedAt, .settled outcome⟩ outcome now) := by
  rcases lawful.recorded.inFlight _ (only ▸ List.mem_singleton_self _) with ⟨rowMem, waiting, _⟩
  simp only at rowMem waiting
  have terminal : outcome.replyStatus = .sent ∨ outcome.replyStatus = .failed ∨
      outcome.replyStatus = .expired := by
    cases outcome with
    | resolved => exact Or.inl rfl
    | rejected => exact Or.inr (Or.inl rfl)
  have same : (world.resume ⟨row, tickedAt, .settled outcome⟩ outcome now).everyRow =
      world.rows.resolveReplyItem row.id outcome.replyStatus now (now - row.enqueuedAt) ++
        world.pruned := by
    simp only [resume]
    split <;> rfl
  refine ⟨?_, ?_⟩
  · intro other otherMem
    rw [same]
    rcases List.mem_append.mp otherMem with kept | old
    · refine ⟨_, List.mem_append_left _ (List.mem_map_of_mem kept), ?_⟩
      split
      · rename_i hit
        have identical := List.inj_on_of_nodup_map lawful.table.ids kept rowMem hit
        subst other
        exact .resolved waiting terminal
      · exact .same
    · exact ⟨other, List.mem_append_right _ old, .same⟩
  · intro other otherMem fresh
    rw [same] at otherMem
    have accepted : other.item.number < world.accepted := by
      rcases List.mem_append.mp otherMem with kept | old
      · rcases BotReplies.mem_resolveReplyItem kept with ⟨old, _⟩ | ⟨old, oldMem, _, rfl⟩
        · exact lawful.table.numbered other (List.mem_append_left _ old)
        · exact lawful.table.numbered old (List.mem_append_left _ oldMem)
      · exact lawful.table.numbered other (List.mem_append_right _ old)
    exact absurd accepted (Nat.not_lt.mpr fresh)

theorem Lawful.prune_progress {world : ReplyWorld Item} (lawful : world.Lawful) (cutoffMs : Int) :
    world.Progress { world with
      rows := world.rows.pruneOlderThan cutoffMs
      pruned := world.pruned ++ world.rows.filter (BotReplies.prunable cutoffMs) } := by
  have same := world.prune_perm cutoffMs
  refine ⟨?_, ?_⟩
  · intro row rowMem
    exact ⟨row, same.mem_iff.mpr rowMem, .same⟩
  · intro row rowMem fresh
    have accepted := lawful.table.numbered row (same.mem_iff.mp rowMem)
    exact absurd accepted (Nat.not_lt.mpr fresh)

theorem Lawful.progress {world after : ReplyWorld Item} {event : ReplyEvent Item}
    (lawful : world.Lawful) (stepped : world.step event = some after) :
    world.Progress after := by
  cases lawful.scheduled.replyStep stepped with
  | start => exact lawful.start_progress
  | enqueue => exact lawful.enqueue_progress _ _
  | tick => exact lawful.tick_progress _ _ _
  | tickResumes only => exact lawful.resume_progress only _
  | pruneOlderThan => exact lawful.prune_progress _
  | stop =>
      simp only [ReplyWorld.stop]
      split <;> exact Progress.of_rows lawful rfl rfl
  | packetHeard => exact Progress.of_rows lawful rfl rfl
  | dispatchStarts => exact Progress.of_rows lawful rfl rfl
  | dispatchSettles => exact Progress.of_rows lawful rfl rfl
  | stopResolves => exact Progress.of_rows lawful rfl rfl
  | restart => exact Progress.of_rows lawful rfl rfl
  | otherGranted => exact Progress.of_rows lawful rfl rfl
  | otherReleased => exact Progress.of_rows lawful rfl rfl

theorem Lawful.leads_becomes {world after : ReplyWorld Item} (lawful : world.Lawful)
    (lead : (replySystem Item).Leads EventSystem.anyStep world after) :
    after.Lawful ∧ ∀ row ∈ world.everyRow, ∃ later ∈ after.everyRow, row.Becomes later := by
  induction lead with
  | refl => exact ⟨lawful, fun row rowMem => ⟨row, rowMem, .same⟩⟩
  | tail _ moved ih =>
      rcases moved with ⟨event, _, stepped⟩
      rcases ih with ⟨middleLawful, becomes⟩
      refine ⟨middleLawful.step stepped, ?_⟩
      intro row rowMem
      rcases becomes row rowMem with ⟨middle, middleMem, before⟩
      rcases (middleLawful.progress stepped).becomes middle middleMem with
        ⟨later, laterMem, afterwards⟩
      exact ⟨later, laterMem, before.trans afterwards⟩

/-- In every state of every run the lifecycle is exactly-once, and from every such state on: the
rows an event accepts are pending, and along every further run, through restarts and pruning, a
row stays as it is or is resolved once. -/
theorem replies_exactly_once {world : ReplyWorld Item}
    (reachable : (replySystem Item).Reachable world) :
    world.ExactlyOnce ∧
      (∀ event after, world.step event = some after → ∀ row ∈ after.everyRow,
        world.accepted ≤ row.item.number → row.status = .pending) ∧
      ∀ after, (replySystem Item).Leads EventSystem.anyStep world after →
        ∀ row ∈ world.everyRow, ∃ later ∈ after.everyRow, row.Becomes later := by
  have lawful := lawful_of_reachable reachable
  refine ⟨lawful.exactlyOnce, ?_, ?_⟩
  · intro event after stepped
    exact (lawful.progress stepped).fresh
  · intro after lead
    exact (lawful.leads_becomes lead).2

theorem replies_exactly_once_of_two :
    ExactlyOnce (((replySystem Nat).run EventSystem.anyStep (.new 60 10 0)
      [.start, .enqueue 7 5, .enqueue 8 6, .tick 0 12 12 12, .dispatchStarts 0, .tick 0 70 70 70,
        .dispatchSettles 0 .resolved, .tickResumes 0 70, .tick 0 71 71 71,
        .pruneOlderThan 71]).get rfl) := by
  refine (replies_exactly_once ?_).1
  refine EventSystem.reachableWhen_get ?_ _
  exact ⟨60, 10, 0, rfl⟩

end ReplyWorld

end MeshcoreObserver
