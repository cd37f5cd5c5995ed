import MeshcoreObserver.Bots.ReplyInvariant

/-!
# The reply queue over a failing store

Every call of the store may throw. A tick makes three of them before it may
send, outside its `try` block, and one in its `finally` block, which runs when
the air is refused as well as after a send has settled: each of these rejects
the promise of the tick. The call between them, of `resolveReplyItem`, is
caught. Wherever a tick ends, it has not left `#sending` set, and its timer is
armed unless the queue is stopped or nothing is pending.

An `enqueue` or a `start` whose store call throws changes nothing; it is no
event here.
-/

namespace MeshcoreObserver

open Transition

universe u

variable {Item : Type u}

/-- The calls that throw in a tick that sends nothing. `takeExpiredReplyItems` may throw before or
after its rows have expired; `recountPending` is the call of the `finally` block. -/
structure TickFaults where
  takeExpired : Bool
  afterExpiry : Bool
  countPending : Bool
  peekOldest : Bool
  recountPending : Bool
  deriving DecidableEq, Repr

/-- The calls that throw once the send of a tick has settled. -/
structure ResumeFaults where
  resolve : Bool
  countPending : Bool
  deriving DecidableEq, Repr

/-- How a tick ends: whether its promise is rejected, and what it leaves. -/
structure TickEnd where
  rejected : Bool
  sending : Bool
  pending : Bool
  stopped : Bool
  armed : Bool
  deriving DecidableEq, Repr

namespace ReplyWorld

/-- The end of a tick in the world it leaves. -/
def endOf (world : ReplyWorld Item) (rejected : Bool) : TickEnd :=
  { rejected
    sending := world.queue.sending
    pending := 0 < world.rows.countPendingReplyItems
    stopped := world.queue.stopped
    armed := world.queue.timer.isSome }

/-- Whether `tryRunWhenQuiet` is called and returns `null`. The `return` behind it stands inside the
`try` block. -/
def refusesAir (world : ReplyWorld Item) (checkedAt notedAt : Int) : Bool :=
  world.rows.countPendingReplyItems ≠ 0 && world.rows.peekOldestPendingReplyItem.isSome &&
    (world.air.tryRunWhenQuiet checkedAt notedAt).isNone

/-- `#tick()` up to its first `await` when no send is in flight, with its end unless it awaits. The
`finally` block of a refused tick finds the same pending replies, and so keeps the timer. -/
def faultyTick (world : ReplyWorld Item) (now checkedAt notedAt : Int) (faults : TickFaults) :
    ReplyWorld Item × Option TickEnd :=
  let swept := world.expireStale now
  if faults.takeExpired then
    let thrown := if faults.afterExpiry then swept else { world with clock := now }
    (thrown, some (thrown.endOf true))
  else if faults.countPending then (swept, some (swept.endOf true))
  else if faults.peekOldest && 0 < swept.rows.countPendingReplyItems then
    (swept, some (swept.endOf true))
  else
    let asked := swept.requestAir now checkedAt notedAt
    if swept.refusesAir checkedAt notedAt then (asked, some (asked.endOf faults.recountPending))
    else (asked, if asked.queue.sending then none else some (asked.endOf false))

/-- `#resolve`, which catches its error, and the first line of the `finally` block. -/
def settleSend (world : ReplyWorld Item) (transmission : Transmission Item) (outcome : Outcome)
    (now : Int) (resolveThrows : Bool) : ReplyWorld Item :=
  { world with
    rows :=
      if resolveThrows then world.rows
      else
        world.rows.resolveReplyItem transmission.row.id outcome.replyStatus now
          (now - transmission.row.enqueuedAt)
    queue := { world.queue with sending := false }
    transmissions := world.transmissions.filter fun other =>
      other.row.item.number ≠ transmission.row.item.number
    clock := now }

/-- The rest of `#tick()` once its dispatch has settled, with its end. -/
def faultyResume (world : ReplyWorld Item) (transmission : Transmission Item)
    (outcome : Outcome) (now : Int) (faults : ResumeFaults) : ReplyWorld Item × TickEnd :=
  let resolved := world.settleSend transmission outcome now faults.resolve
  if faults.countPending then (resolved, resolved.endOf true)
  else
    let left :=
      if resolved.rows.countPendingReplyItems = 0 ∧ resolved.queue.timer ≠ none then
        resolved.clearTimer
      else resolved
    (left, left.endOf false)

def noTickFaults : TickFaults :=
  { takeExpired := false, afterExpiry := false, countPending := false, peekOldest := false
    recountPending := false }

theorem faultyTick_of_noFaults (world : ReplyWorld Item) (now checkedAt notedAt : Int)
    (idle : world.queue.sending = false) :
    (world.faultyTick now checkedAt notedAt noTickFaults).1 = world.tick now checkedAt notedAt := by
  simp only [faultyTick, noTickFaults, Bool.false_eq_true, if_false, Bool.false_and, tick, idle]
  split
  · rfl
  · rfl

theorem faultyResume_of_noFaults (world : ReplyWorld Item) (transmission : Transmission Item)
    (outcome : Outcome) (now : Int) :
    (world.faultyResume transmission outcome now ⟨false, false⟩).1 =
      world.resume transmission outcome now := by
  simp only [faultyResume, settleSend, Bool.false_eq_true, if_false, resume]

/-- The flag and the timer agree with what is under way, and a tick that awaits its send has left
its timer armed. -/
structure Polling (world : ReplyWorld Item) : Prop where
  scheduled : world.Scheduled
  armed : world.transmissions ≠ [] → world.queue.stopped = true ∨ world.queue.timer ≠ none

theorem Polling.frame {before after : ReplyWorld Item} (polling : before.Polling)
    (queue : after.queue = before.queue) (intervals : after.intervals = before.intervals)
    (length : after.transmissions.length = before.transmissions.length)
    (stopsWaiting : after.stopsWaiting = before.stopsWaiting) : after.Polling := by
  have empty : after.transmissions = [] ↔ before.transmissions = [] := by
    rw [← List.length_eq_zero_iff, length, List.length_eq_zero_iff]
  have scheduled := polling.scheduled
  refine ⟨⟨?_, ?_, ?_, ?_, ?_⟩, ?_⟩
  · rw [length]
    exact scheduled.single
  · rw [queue, ne_eq, empty]
    exact scheduled.sending
  · rw [intervals, queue]
    exact scheduled.timers
  · rw [queue]
    exact scheduled.stopped
  · rw [queue, stopsWaiting, empty]
    exact scheduled.finished
  · rw [queue, ne_eq, empty]
    exact polling.armed

theorem Polling.startTimer {world : ReplyWorld Item} (polling : world.Polling)
    (running : world.queue.stopped = false) :
    world.startTimer.Polling ∧ world.startTimer.queue.timer ≠ none := by
  have armed : world.startTimer.queue.timer ≠ none := by
    rw [ReplyWorld.startTimer]
    split
    · rename_i timer present
      rw [present]
      exact Option.some_ne_none timer
    · exact Option.some_ne_none _
  exact ⟨⟨polling.scheduled.startTimer running, fun _ => .inr armed⟩, armed⟩

theorem Polling.clearTimer {world : ReplyWorld Item} (polling : world.Polling)
    (unsent : world.transmissions = []) : world.clearTimer.Polling where
  scheduled := polling.scheduled.clearTimer
  armed := by
    rw [clearTimer_eq polling.scheduled.timers]
    exact fun sent => absurd unsent sent

/-- Every event but a tick, whose store calls return. -/
theorem Polling.step {world after : ReplyWorld Item} {event : ReplyEvent Item}
    (polling : world.Polling)
    (ticks : ∀ timer now checkedAt notedAt, event ≠ .tick timer now checkedAt notedAt)
    (resumes : ∀ number now, event ≠ .tickResumes number now)
    (stepped : world.step event = some after) : after.Polling := by
  have scheduled := polling.scheduled
  cases scheduled.replyStep stepped with
  | start =>
      rw [ReplyWorld.start]
      split
      · exact polling
      · rename_i fresh
        split
        · refine (polling.startTimer ?_).1
          exact Bool.not_eq_true _ ▸ fun stopped => fresh (.inl stopped)
        · exact polling
  | @enqueue item now later =>
      rw [ReplyWorld.enqueue]
      split
      · exact polling
      · rename_i running
        have accepted : Polling { world with
            rows := world.rows.enqueueReplyItem ⟨world.accepted, item⟩ now (now + world.queue.ttlMs)
            clock := now
            accepted := world.accepted + 1 } :=
          polling.frame rfl rfl rfl rfl
        refine (accepted.startTimer ?_).1
        exact Bool.not_eq_true _ ▸ running
  | tick => exact absurd rfl (ticks _ _ _ _)
  | tickResumes => exact absurd rfl (resumes _ _)
  | stop =>
      rw [ReplyWorld.stop]
      split
      · exact polling
      · rw [clearTimer_eq]
        · exact ⟨scheduled.stops, fun _ => .inl rfl⟩
        · exact scheduled.timers
  | stopResolves _ idle =>
      exact ⟨{ scheduled with finished := fun _ _ => scheduled.unsent idle }, polling.armed⟩
  | restart stopped finished =>
      have unsent := scheduled.finished stopped finished
      exact ⟨scheduled.restart stopped finished _ _ _, fun sent => absurd unsent sent⟩
  | dispatchStarts only => exact polling.frame rfl rfl (by simp [only]) rfl
  | dispatchSettles only => exact polling.frame rfl rfl (by simp [only]) rfl
  | packetHeard => exact polling.frame rfl rfl rfl rfl
  | pruneOlderThan => exact polling.frame rfl rfl rfl rfl
  | otherGranted => exact polling.frame rfl rfl rfl rfl
  | otherReleased => exact polling.frame rfl rfl rfl rfl

/-- `#sending` is not left set, and the timer is armed unless the queue is stopped or nothing is
pending. -/
structure Tidy (tickEnd : TickEnd) : Prop where
  sending : tickEnd.sending = false
  armed : tickEnd.pending = true → tickEnd.stopped = true ∨ tickEnd.armed = true

/-- Whether a tick meets a fault before its `try` block. -/
def meetsFault (world : ReplyWorld Item) (now : Int) (faults : TickFaults) : Bool :=
  faults.takeExpired || faults.countPending ||
    (faults.peekOldest && 0 < (world.expireStale now).rows.countPendingReplyItems)

/-- Whether a tick is refused the air and meets a fault in its `finally` block. -/
def meetsRecount (world : ReplyWorld Item) (now checkedAt notedAt : Int) (faults : TickFaults) :
    Bool :=
  faults.recountPending && (world.expireStale now).refusesAir checkedAt notedAt

theorem tidy_endOf {world : ReplyWorld Item} (idle : world.queue.sending = false)
    (armed : 0 < world.rows.countPendingReplyItems →
      world.queue.stopped = true ∨ world.queue.timer ≠ none) (rejected : Bool) :
    Tidy (world.endOf rejected) where
  sending := idle
  armed := by
    intro pending
    rcases armed (of_decide_eq_true pending) with stopped | present
    · exact .inl stopped
    · exact .inr (Option.isSome_iff_ne_none.mpr present)

theorem faultyTick_of_fault {world : ReplyWorld Item} {now : Int} {faults : TickFaults}
    (meets : world.meetsFault now faults = true) (checkedAt notedAt : Int) :
    ∃ thrown, (thrown = world.expireStale now ∨ thrown = { world with clock := now }) ∧
      world.faultyTick now checkedAt notedAt faults = (thrown, some (thrown.endOf true)) := by
  simp only [ReplyWorld.faultyTick]
  split
  · split
    · exact ⟨_, .inl rfl, rfl⟩
    · exact ⟨_, .inr rfl, rfl⟩
  · rename_i taken
    split
    · exact ⟨_, .inl rfl, rfl⟩
    · rename_i counted
      rw [Bool.not_eq_true] at taken counted
      simp only [meetsFault, taken, counted, Bool.or_self, Bool.false_or] at meets
      rw [if_pos meets]
      exact ⟨_, .inl rfl, rfl⟩

theorem requestAir_of_refused {world : ReplyWorld Item} {checkedAt notedAt : Int}
    (refused : world.refusesAir checkedAt notedAt = true) (now : Int) :
    world.requestAir now checkedAt notedAt = { world with clock := checkedAt } := by
  simp only [refusesAir, ne_eq, Bool.and_eq_true, decide_eq_true_eq, Option.isSome_iff_exists,
    Option.isNone_iff_eq_none] at refused
  rcases refused with ⟨⟨pending, next, peeked⟩, denied⟩
  simp only [requestAir, if_neg pending, peeked, denied]

theorem idle_of_refused {world : ReplyWorld Item} (idle : world.queue.sending = false)
    {checkedAt notedAt : Int} (refused : world.refusesAir checkedAt notedAt = true) (now : Int) :
    (world.requestAir now checkedAt notedAt).queue.sending = false := by
  rw [requestAir_of_refused refused]
  exact idle

theorem faultyTick_of_calm {world : ReplyWorld Item} (idle : world.queue.sending = false)
    {now : Int} {faults : TickFaults} (calm : world.meetsFault now faults = false)
    (checkedAt notedAt : Int) :
    world.faultyTick now checkedAt notedAt faults =
      ((world.expireStale now).requestAir now checkedAt notedAt,
        if ((world.expireStale now).requestAir now checkedAt notedAt).queue.sending then none
        else
          some (((world.expireStale now).requestAir now checkedAt notedAt).endOf
            (world.meetsRecount now checkedAt notedAt faults))) := by
  simp only [meetsFault, Bool.or_eq_false_iff] at calm
  rcases calm with ⟨⟨taken, counted⟩, peeked⟩
  simp only [ReplyWorld.faultyTick, taken, counted, peeked, Bool.false_eq_true, if_false,
    meetsRecount]
  cases refused : (world.expireStale now).refusesAir checkedAt notedAt with
  | true =>
      have swept : (world.expireStale now).queue.sending = false := idle
      simp only [idle_of_refused swept refused, if_true, Bool.false_eq_true, if_false, Bool.and_true]
  | false => simp only [Bool.false_eq_true, if_false, Bool.and_false]

theorem Polling.tick_of_fault {world : ReplyWorld Item} (polling : world.Polling)
    (idle : world.queue.sending = false) (armed : world.queue.timer ≠ none) {now : Int}
    {faults : TickFaults} (meets : world.meetsFault now faults = true)
    (checkedAt notedAt : Int) :
    (world.faultyTick now checkedAt notedAt faults).1.Polling ∧
      ∃ tickEnd, (world.faultyTick now checkedAt notedAt faults).2 = some tickEnd ∧
        Tidy tickEnd ∧ tickEnd.rejected = true := by
  rcases faultyTick_of_fault meets checkedAt notedAt with ⟨thrown, cause, same⟩
  rw [same]
  have kept : thrown.Polling ∧ thrown.queue = world.queue := by
    rcases cause with rfl | rfl
    · exact ⟨polling.frame rfl rfl rfl rfl, rfl⟩
    · exact ⟨polling.frame rfl rfl rfl rfl, rfl⟩
  refine ⟨kept.1, _, rfl, tidy_endOf ?_ (fun _ => .inr ?_) true, rfl⟩
  · rw [kept.2]
    exact idle
  · rw [kept.2]
    exact armed

theorem Polling.tick_of_calm {world : ReplyWorld Item} (polling : world.Polling)
    (idle : world.queue.sending = false) (running : world.queue.stopped = false)
    (armed : world.queue.timer ≠ none) {now : Int} {faults : TickFaults}
    (calm : world.meetsFault now faults = false) (checkedAt notedAt : Int) :
    (world.faultyTick now checkedAt notedAt faults).1.Polling ∧
      ∀ tickEnd, (world.faultyTick now checkedAt notedAt faults).2 = some tickEnd →
        Tidy tickEnd := by
  rw [faultyTick_of_calm idle calm]
  generalize world.meetsRecount now checkedAt notedAt faults = rejected
  have swept : (world.expireStale now).Polling := polling.frame rfl rfl rfl rfl
  have unsent : (world.expireStale now).transmissions = [] := polling.scheduled.unsent idle
  rcases requestAir_eq (world.expireStale now) now checkedAt notedAt with
    ⟨empty, cleared⟩ | ⟨clock, asked⟩ | ⟨air, clock, next, sends⟩
  · rw [cleared]
    have left : (world.expireStale now).clearTimer.queue.sending = false := idle
    refine ⟨swept.clearTimer unsent, fun tickEnd ended => ?_⟩
    rw [left] at ended
    cases ended
    refine tidy_endOf left (fun pending => ?_) rejected
    have none : (world.expireStale now).clearTimer.rows.countPendingReplyItems = 0 := empty
    omega
  · rw [asked]
    have left : ({ world.expireStale now with clock } : ReplyWorld Item).queue.sending = false :=
      idle
    refine ⟨swept.frame rfl rfl rfl rfl, fun tickEnd ended => ?_⟩
    rw [left] at ended
    cases ended
    exact tidy_endOf left (fun _ => .inr armed) rejected
  · rw [sends]
    refine ⟨?_, fun tickEnd ended => by cases ended⟩
    exact ⟨{ swept.scheduled.sends running unsent _ with }, fun _ => .inr armed⟩

theorem faultyTick_rejected_iff {world : ReplyWorld Item} (idle : world.queue.sending = false)
    {now : Int} {faults : TickFaults} (calm : world.meetsFault now faults = false)
    (checkedAt notedAt : Int) :
    (∀ tickEnd, (world.faultyTick now checkedAt notedAt faults).2 = some tickEnd →
        tickEnd.rejected = false) ↔
      world.meetsRecount now checkedAt notedAt faults = false := by
  rw [faultyTick_of_calm idle calm]
  constructor
  · intro returns
    cases recount : world.meetsRecount now checkedAt notedAt faults with
    | false => rfl
    | true =>
        have refused : (world.expireStale now).refusesAir checkedAt notedAt = true := by
          rw [meetsRecount, Bool.and_eq_true] at recount
          exact recount.2
        have swept : (world.expireStale now).queue.sending = false := idle
        simp only [idle_of_refused swept refused, Bool.false_eq_true, if_false, Option.some.injEq,
          forall_eq', recount, endOf, Bool.true_eq_false] at returns
  · intro quiet tickEnd ended
    rw [Option.ite_none_left_eq_some, Option.some.injEq] at ended
    rw [← ended.2, quiet, endOf]

theorem Polling.settleSend {world : ReplyWorld Item} (polling : world.Polling)
    {transmission : Transmission Item} (only : world.transmissions = [transmission])
    (outcome : Outcome) (now : Int) (resolveThrows : Bool) :
    (world.settleSend transmission outcome now resolveThrows).Polling ∧
      (world.settleSend transmission outcome now resolveThrows).transmissions = [] := by
  simp only [ReplyWorld.settleSend, only, ne_eq, not_true_eq_false, decide_false,
    Bool.false_eq_true, not_false_eq_true, List.filter_cons_of_neg, List.filter_nil, and_true]
  exact ⟨{ polling.scheduled.settles with }, fun sent => absurd rfl sent⟩

theorem Polling.faultyResume {world : ReplyWorld Item} (polling : world.Polling)
    {transmission : Transmission Item} (only : world.transmissions = [transmission])
    (outcome : Outcome) (now : Int) (faults : ResumeFaults) :
    (world.faultyResume transmission outcome now faults).1.Polling ∧
      Tidy (world.faultyResume transmission outcome now faults).2 ∧
        (world.faultyResume transmission outcome now faults).2.rejected = faults.countPending := by
  have awaited : world.transmissions ≠ [] := by
    rw [only]
    exact List.cons_ne_nil _ _
  rcases polling.settleSend only outcome now faults.resolve with ⟨resolved, unsent⟩
  have tidy : ∀ rejected,
      Tidy ((world.settleSend transmission outcome now faults.resolve).endOf rejected) := by
    intro rejected
    refine tidy_endOf ?_ (fun _ => ?_) rejected
    · rfl
    · exact polling.armed awaited
  cases counts : faults.countPending with
  | true =>
      simp only [ReplyWorld.faultyResume, counts, if_true]
      exact ⟨resolved, tidy true, rfl⟩
  | false =>
      simp only [ReplyWorld.faultyResume, counts, Bool.false_eq_true, if_false]
      split
      · rename_i empty
        refine ⟨resolved.clearTimer unsent, tidy_endOf rfl (fun pending => ?_) false, rfl⟩
        have none := empty.1
        simp only [ReplyWorld.clearTimer] at pending
        omega
      · exact ⟨resolved, tidy false, rfl⟩

end ReplyWorld

end MeshcoreObserver
