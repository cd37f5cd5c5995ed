import MeshcoreObserver.Bots.ReplyQueue
import Mathlib.Data.List.Perm.Basic

/-!
# The lifecycle of a reply

Three groups of facts hold in every state of a reply queue. `Table` says that
accepted replies and rows, kept or pruned, are the same thing. `Scheduled` says
that `#sending` is the existence of a granted tick, that there is at most one,
and that a stopped queue has no timer. `Recorded` relates the status of each row
to what the run did with it. Together they give the exactly-once lifecycle,
across overlapping interval ticks, a stop during a send, and restarts.
-/

namespace MeshcoreObserver

open Transition

universe u

variable {Item : Type u}

namespace ReplyWorld

/-- Every row ever accepted: those still in the table and those pruned from it. -/
def everyRow (world : ReplyWorld Item) : BotReplies (Numbered Item) :=
  world.rows ++ world.pruned

def dispatched (world : ReplyWorld Item) : List Nat :=
  world.dispatches.map Prod.fst

/-- A tick that found no send in flight ran while the row existed, at or after its
`expiresAt`. -/
def Overdue (world : ReplyWorld Item) (row : ReplyRow (Numbered Item)) : Prop :=
  ∃ idle ∈ world.idleTicks, row.item.number < idle.1 ∧ row.expiresAt ≤ idle.2

structure Table (world : ReplyWorld Item) : Prop where
  numbered : ∀ row ∈ world.everyRow, row.item.number < world.accepted
  distinct : (world.everyRow.map fun row => row.item.number).Nodup
  accounted : world.everyRow.length = world.accepted
  ids : (world.rows.map ReplyRow.id).Nodup

/-- The flag, the timer and the `stop()` promises agree with what is under way. -/
structure Scheduled (world : ReplyWorld Item) : Prop where
  single : world.transmissions.length ≤ 1
  sending : world.queue.sending = true ↔ world.transmissions ≠ []
  timers : world.intervals = world.queue.timer.toList
  stopped : world.queue.stopped = true → world.queue.timer = none
  finished : world.queue.stopped = true → world.stopsWaiting = 0 → world.transmissions = []

/-- What the phase of a granted tick says about its reply. -/
def PhaseLaw (world : ReplyWorld Item) (transmission : Transmission Item) : Prop :=
  match transmission.phase with
  | .reserved => transmission.row.item.number ∉ world.dispatched
  | .dispatched =>
      transmission.row.item.number ∈ world.dispatched ∧
        transmission.row.item.number ∉ world.outcomes.map Prod.fst
  | .settled outcome => (transmission.row.item.number, outcome) ∈ world.outcomes

/-- What the status of a row says about its reply. -/
structure RowLaw (world : ReplyWorld Item) (row : ReplyRow (Numbered Item)) : Prop where
  awaited : row.status = .pending → row.item.number ∈ world.dispatched →
    ∃ transmission ∈ world.transmissions, transmission.row.item.number = row.item.number
  undue : row.status = .pending → ¬world.Overdue row
  sent : row.status = .sent → (row.item.number, .resolved) ∈ world.outcomes
  failed : row.status = .failed → (row.item.number, .rejected) ∈ world.outcomes
  undispatched : row.status = .expired → row.item.number ∉ world.dispatched
  overdue : row.status = .expired → world.Overdue row
  uncancelled : row.status ≠ .cancelled

structure Recorded (world : ReplyWorld Item) : Prop where
  inFlight : ∀ transmission ∈ world.transmissions,
    transmission.row ∈ world.rows ∧ transmission.row.status = .pending ∧
      transmission.tickedAt < transmission.row.expiresAt ∧ world.PhaseLaw transmission
  rowLaw : ∀ row ∈ world.everyRow, world.RowLaw row
  prunedResolved : ∀ row ∈ world.pruned, row.status ≠ .pending
  dispatchedOnce : world.dispatched.Nodup
  dispatchedAccepted : ∀ number ∈ world.dispatched, number < world.accepted
  dispatchedInTime : ∀ dispatch ∈ world.dispatches, ∀ row ∈ world.everyRow,
    row.item.number = dispatch.1 → dispatch.2 < row.expiresAt
  answeredOnce : (world.outcomes.map Prod.fst).Nodup
  answered : ∀ number ∈ world.outcomes.map Prod.fst, number ∈ world.dispatched
  idleAccepted : ∀ idle ∈ world.idleTicks, idle.1 ≤ world.accepted

structure Lawful (world : ReplyWorld Item) : Prop where
  table : world.Table
  scheduled : world.Scheduled
  recorded : world.Recorded

theorem lawful_new (ttlMs quietMs now : Int) :
    (new ttlMs quietMs now : ReplyWorld Item).Lawful where
  table :=
    { numbered := by simp [new, everyRow]
      distinct := by simp [new, everyRow]
      accounted := by simp [new, everyRow]
      ids := by simp [new] }
  scheduled :=
    { single := by simp [new]
      sending := by simp [new, ReplyQueue.new]
      timers := by simp [new, ReplyQueue.new]
      stopped := by simp [new, ReplyQueue.new]
      finished := by simp [new] }
  recorded :=
    { inFlight := by simp [new]
      rowLaw := by simp [new, everyRow]
      prunedResolved := by simp [new]
      dispatchedOnce := by simp [new, dispatched]
      dispatchedAccepted := by simp [new, dispatched]
      dispatchedInTime := by simp [new]
      answeredOnce := by simp [new]
      answered := by simp [new]
      idleAccepted := by simp [new] }

theorem Table.row_eq {world : ReplyWorld Item} (table : world.Table)
    {first second : ReplyRow (Numbered Item)} (firstMem : first ∈ world.everyRow)
    (secondMem : second ∈ world.everyRow) (same : first.item.number = second.item.number) :
    first = second :=
  List.inj_on_of_nodup_map table.distinct firstMem secondMem same

theorem Scheduled.transmissions_eq {world : ReplyWorld Item} (scheduled : world.Scheduled)
    {transmission : Transmission Item} (transmissionMem : transmission ∈ world.transmissions) :
    world.transmissions = [transmission] := by
  have single := scheduled.single
  match transmissions : world.transmissions with
  | [] => simp [transmissions] at transmissionMem
  | [only] =>
      simp only [transmissions, List.mem_singleton] at transmissionMem
      rw [transmissionMem]
  | _ :: _ :: _ =>
      simp only [transmissions, List.length_cons] at single
      omega

theorem Recorded.frame {before after : ReplyWorld Item} (recorded : before.Recorded)
    (rows : after.rows = before.rows) (transmissions : after.transmissions = before.transmissions)
    (accepted : after.accepted = before.accepted) (pruned : after.pruned = before.pruned)
    (dispatches : after.dispatches = before.dispatches)
    (outcomes : after.outcomes = before.outcomes) (idleTicks : after.idleTicks = before.idleTicks) :
    after.Recorded := by
  rcases after with ⟨⟩
  simp only at rows transmissions accepted pruned dispatches outcomes idleTicks
  subst rows transmissions accepted pruned dispatches outcomes idleTicks
  exact
    { recorded with
      rowLaw := fun row rowMem => { recorded.rowLaw row rowMem with } }

theorem startTimer_eq {world : ReplyWorld Item}
    (timers : world.intervals = world.queue.timer.toList) :
    ∃ timer nextTimer, world.startTimer = { world with
      queue := { world.queue with timer }
      intervals := timer.toList
      nextTimer } := by
  rcases world with
    ⟨rows, ⟨ttlMs, armed, sending, stopped⟩, air, otherSending, intervals, nextTimer⟩
  simp only at timers
  subst intervals
  cases armed with
  | some timer => exact ⟨some timer, nextTimer, rfl⟩
  | none => exact ⟨some nextTimer, nextTimer + 1, rfl⟩

theorem clearTimer_eq {world : ReplyWorld Item}
    (timers : world.intervals = world.queue.timer.toList) :
    world.clearTimer = { world with
      queue := { world.queue with timer := none }
      intervals := [] } := by
  cases armed : world.queue.timer <;> simp [clearTimer, timers, armed]

namespace Scheduled

variable {world : ReplyWorld Item}

theorem unsent (scheduled : world.Scheduled) (idle : world.queue.sending = false) :
    world.transmissions = [] := by
  by_contra busy
  rw [scheduled.sending.mpr busy] at idle
  cases idle

theorem startTimer (scheduled : world.Scheduled) (running : world.queue.stopped = false) :
    world.startTimer.Scheduled := by
  rcases startTimer_eq scheduled.timers with ⟨timer, nextTimer, started⟩
  rw [started]
  refine { scheduled with timers := rfl, stopped := ?_ }
  intro stopped
  rw [running] at stopped
  cases stopped

theorem clearTimer (scheduled : world.Scheduled) : world.clearTimer.Scheduled := by
  rw [clearTimer_eq scheduled.timers]
  exact { scheduled with timers := rfl, stopped := fun _ => rfl }

theorem sends (scheduled : world.Scheduled) (running : world.queue.stopped = false)
    (unsent : world.transmissions = []) (transmission : Transmission Item) :
    Scheduled { world with
      queue := { world.queue with sending := true }
      transmissions := world.transmissions ++ [transmission] } where
  single := by simp [unsent]
  sending := by simp
  timers := scheduled.timers
  stopped := scheduled.stopped
  finished := fun stopped => by simp [running] at stopped

theorem advances (scheduled : world.Scheduled) {transmission : Transmission Item}
    (only : world.transmissions = [transmission]) (next : Transmission Item) :
    Scheduled { world with transmissions := [next] } where
  single := Nat.le_refl 1
  sending := by simpa [only] using scheduled.sending
  timers := scheduled.timers
  stopped := scheduled.stopped
  finished := by
    intro stopped settled
    simpa [only] using scheduled.finished stopped settled

theorem settles (scheduled : world.Scheduled) :
    Scheduled { world with
      queue := { world.queue with sending := false }
      transmissions := [] } where
  single := Nat.zero_le 1
  sending := by simp
  timers := scheduled.timers
  stopped := scheduled.stopped
  finished := fun _ _ => rfl

theorem stops (scheduled : world.Scheduled) :
    Scheduled { world with
      queue := { world.queue with stopped := true, timer := none }
      intervals := []
      stopsWaiting := world.stopsWaiting + 1 } where
  single := scheduled.single
  sending := scheduled.sending
  timers := rfl
  stopped := fun _ => rfl
  finished := fun _ settled => absurd settled (Nat.succ_ne_zero _)

theorem restart (scheduled : world.Scheduled) (stopped : world.queue.stopped = true)
    (finished : world.stopsWaiting = 0) (ttlMs quietMs now : Int) :
    (world.restart ttlMs quietMs now).Scheduled := by
  have unsent := scheduled.finished stopped finished
  have timers := scheduled.timers
  rw [scheduled.stopped stopped] at timers
  exact
    { single := scheduled.single
      sending := by simp [ReplyWorld.restart, ReplyQueue.new, unsent]
      timers := timers
      stopped := nofun
      finished := nofun }

end Scheduled

/-- What becomes of a world whose sends are scheduled, event by event. -/
inductive ReplyStep (before : ReplyWorld Item) : ReplyEvent Item → ReplyWorld Item → Prop where
  | start : ReplyStep before .start before.start
  | enqueue {item : Item} {now : Int} (later : before.clock ≤ now) :
      ReplyStep before (.enqueue item now) (before.enqueue item now)
  | packetHeard {now : Int} (later : before.clock ≤ now) :
      ReplyStep before (.packetHeard now)
        { before with air := before.air.noteActivity now, clock := now }
  | tick {timer : Nat} {now checkedAt notedAt : Int} (armed : timer ∈ before.intervals)
      (later : before.clock ≤ now) (checked : now ≤ checkedAt) (noted : checkedAt ≤ notedAt) :
      ReplyStep before (.tick timer now checkedAt notedAt) (before.tick now checkedAt notedAt)
  | dispatchStarts {row : ReplyRow (Numbered Item)} {tickedAt : Int}
      (only : before.transmissions = [⟨row, tickedAt, .reserved⟩]) :
      ReplyStep before (.dispatchStarts row.item.number)
        { before with
          transmissions := [⟨row, tickedAt, .dispatched⟩]
          dispatches := before.dispatches ++ [(row.item.number, tickedAt)] }
  | dispatchSettles {row : ReplyRow (Numbered Item)} {tickedAt : Int} {outcome : Outcome}
      (only : before.transmissions = [⟨row, tickedAt, .dispatched⟩]) :
      ReplyStep before (.dispatchSettles row.item.number outcome)
        { before with
          transmissions := [⟨row, tickedAt, .settled outcome⟩]
          air := before.air.release
          outcomes := before.outcomes ++ [(row.item.number, outcome)] }
  | tickResumes {row : ReplyRow (Numbered Item)} {tickedAt now : Int} {outcome : Outcome}
      (only : before.transmissions = [⟨row, tickedAt, .settled outcome⟩])
      (later : before.clock ≤ now) :
      ReplyStep before (.tickResumes row.item.number now)
        (before.resume ⟨row, tickedAt, .settled outcome⟩ outcome now)
  | pruneOlderThan {cutoffMs : Int} :
      ReplyStep before (.pruneOlderThan cutoffMs)
        { before with
          rows := before.rows.pruneOlderThan cutoffMs
          pruned := before.pruned ++ before.rows.filter (BotReplies.prunable cutoffMs) }
  | stop : ReplyStep before .stop before.stop
  | stopResolves (waiting : 0 < before.stopsWaiting) (idle : before.queue.sending = false) :
      ReplyStep before .stopResolves { before with stopsWaiting := before.stopsWaiting - 1 }
  | restart {ttlMs quietMs now : Int} (stopped : before.queue.stopped = true)
      (finished : before.stopsWaiting = 0) (later : before.clock ≤ now) :
      ReplyStep before (.restart ttlMs quietMs now) (before.restart ttlMs quietMs now)
  | otherGranted {checkedAt notedAt clock : Int} (air : AirtimeCoordinator) (otherSending : Bool)
      (later : before.clock ≤ clock) :
      ReplyStep before (.otherGranted checkedAt notedAt) { before with air, otherSending, clock }
  | otherReleased :
      ReplyStep before .otherReleased
        { before with air := before.air.release, otherSending := false }

theorem Scheduled.advance_eq {world after : ReplyWorld Item} (scheduled : world.Scheduled)
    {number : Nat} {source target : TransmissionPhase}
    (advanced : world.advance number source target = some after) :
    ∃ row tickedAt, world.transmissions = [⟨row, tickedAt, source⟩] ∧ row.item.number = number ∧
      after = { world with transmissions := [⟨row, tickedAt, target⟩] } := by
  simp only [advance] at advanced
  split at advanced
  · rename_i present
    rcases List.any_eq_true.mp present with ⟨⟨row, tickedAt, phase⟩, transmissionMem, matched⟩
    simp only [Bool.decide_and, Bool.and_eq_true, decide_eq_true_eq] at matched
    rcases matched with ⟨rfl, rfl⟩
    have only := scheduled.transmissions_eq transmissionMem
    refine ⟨row, tickedAt, only, rfl, ?_⟩
    simpa [only] using advanced.symm
  · cases advanced

theorem Scheduled.of_find {world : ReplyWorld Item} (scheduled : world.Scheduled) {number : Nat}
    {transmission : Transmission Item}
    (found : (world.transmissions.find? fun transmission =>
      transmission.row.item.number = number) = some transmission) :
    world.transmissions = [transmission] :=
  scheduled.transmissions_eq (List.mem_of_find?_eq_some found)

theorem Scheduled.replyStep {world after : ReplyWorld Item} {event : ReplyEvent Item}
    (scheduled : world.Scheduled) (stepped : world.step event = some after) :
    world.ReplyStep event after := by
  cases event with
  | start =>
      simp only [ReplyWorld.step, Option.some.injEq] at stepped
      subst after
      exact .start
  | enqueue item now =>
      simp only [ReplyWorld.step, Option.ite_none_right_eq_some, Option.some.injEq] at stepped
      rcases stepped with ⟨later, rfl⟩
      exact .enqueue later
  | packetHeard now =>
      simp only [ReplyWorld.step, Option.ite_none_right_eq_some, Option.some.injEq] at stepped
      rcases stepped with ⟨later, rfl⟩
      exact .packetHeard later
  | tick timer now checkedAt notedAt =>
      simp only [ReplyWorld.step, Option.ite_none_right_eq_some, Option.some.injEq] at stepped
      rcases stepped with ⟨⟨armed, later, checked, noted⟩, rfl⟩
      exact .tick armed later checked noted
  | dispatchStarts number =>
      simp only [ReplyWorld.step, Option.map_eq_some_iff] at stepped
      rcases stepped with ⟨advanced, advance, rfl⟩
      rcases scheduled.advance_eq advance with ⟨row, tickedAt, only, rfl, rfl⟩
      have dispatches : (world.transmissions.filter fun transmission =>
          transmission.row.item.number = row.item.number).map
            (fun transmission => (row.item.number, transmission.tickedAt)) =
          [(row.item.number, tickedAt)] := by simp [only]
      rw [dispatches]
      exact .dispatchStarts only
  | dispatchSettles number outcome =>
      simp only [ReplyWorld.step, Option.map_eq_some_iff] at stepped
      rcases stepped with ⟨advanced, advance, rfl⟩
      rcases scheduled.advance_eq advance with ⟨row, tickedAt, only, rfl, rfl⟩
      exact .dispatchSettles only
  | tickResumes number now =>
      simp only [ReplyWorld.step] at stepped
      split at stepped
      · rename_i row tickedAt outcome found
        have named : row.item.number = number := by simpa using List.find?_some found
        simp only [Option.ite_none_right_eq_some, Option.some.injEq] at stepped
        rcases stepped with ⟨later, rfl⟩
        subst number
        exact .tickResumes (scheduled.of_find found) later
      · cases stepped
  | pruneOlderThan cutoffMs =>
      simp only [ReplyWorld.step, Option.some.injEq] at stepped
      subst after
      exact .pruneOlderThan
  | stop =>
      simp only [ReplyWorld.step, Option.some.injEq] at stepped
      subst after
      exact .stop
  | stopResolves =>
      simp only [ReplyWorld.step, Option.ite_none_right_eq_some, Option.some.injEq] at stepped
      rcases stepped with ⟨⟨waiting, idle⟩, rfl⟩
      exact .stopResolves waiting idle
  | restart ttlMs quietMs now =>
      simp only [ReplyWorld.step, Option.ite_none_right_eq_some, Option.some.injEq] at stepped
      rcases stepped with ⟨⟨stopped, finished, later⟩, rfl⟩
      exact .restart stopped finished later
  | otherGranted checkedAt notedAt =>
      simp only [ReplyWorld.step, Option.ite_none_right_eq_some] at stepped
      rcases stepped with ⟨⟨checked, noted⟩, stepped⟩
      split at stepped
      · simp only [Option.some.injEq] at stepped
        subst after
        exact .otherGranted world.air world.otherSending checked
      · rename_i air _
        simp only [Option.some.injEq] at stepped
        subst after
        exact .otherGranted air true (Int.le_trans checked noted)
  | otherReleased =>
      simp only [ReplyWorld.step, Option.ite_none_right_eq_some, Option.some.injEq] at stepped
      rcases stepped with ⟨_, rfl⟩
      exact .otherReleased

theorem Lawful.startTimer {world : ReplyWorld Item} (lawful : world.Lawful)
    (running : world.queue.stopped = false) : world.startTimer.Lawful := by
  have scheduled := lawful.scheduled.startTimer running
  rcases startTimer_eq lawful.scheduled.timers with ⟨timer, nextTimer, started⟩
  rw [started] at scheduled ⊢
  exact
    { table := { lawful.table with }
      scheduled
      recorded := lawful.recorded.frame rfl rfl rfl rfl rfl rfl rfl }

theorem Lawful.clearTimer {world : ReplyWorld Item} (lawful : world.Lawful) :
    world.clearTimer.Lawful := by
  have scheduled := lawful.scheduled.clearTimer
  rw [clearTimer_eq lawful.scheduled.timers] at scheduled ⊢
  exact
    { table := { lawful.table with }
      scheduled
      recorded := lawful.recorded.frame rfl rfl rfl rfl rfl rfl rfl }

theorem Lawful.start {world : ReplyWorld Item} (lawful : world.Lawful) : world.start.Lawful := by
  simp only [ReplyWorld.start]
  split
  · exact lawful
  · rename_i fresh
    split
    · apply lawful.startTimer
      by_contra stopped
      exact fresh (Or.inl (by simpa using stopped))
    · exact lawful

theorem Lawful.accept {world : ReplyWorld Item} (lawful : world.Lawful) (item : Item)
    (now expiresAt : Int) :
    Lawful { world with
      rows := world.rows.enqueueReplyItem ⟨world.accepted, item⟩ now expiresAt
      clock := now
      accepted := world.accepted + 1 } := by
  have table := lawful.table
  have recorded := lawful.recorded
  have undispatched : world.accepted ∉ world.dispatched := by
    intro dispatched
    exact Nat.lt_irrefl _ (recorded.dispatchedAccepted _ dispatched)
  let row : ReplyRow (Numbered Item) :=
    { id := world.rows.nextId, item := ⟨world.accepted, item⟩, enqueuedAt := now, expiresAt,
      status := .pending, resolvedAt := none, queuedMs := none }
  have everyRow_perm :
      List.Perm ((world.rows ++ [row]) ++ world.pruned) (row :: world.everyRow) := by
    simp only [everyRow, List.append_assoc, List.singleton_append]
    exact List.perm_middle
  have mem_everyRow : ∀ {other}, other ∈ (world.rows ++ [row]) ++ world.pruned →
      other = row ∨ other ∈ world.everyRow := by
    intro other otherMem
    exact List.mem_cons.mp (everyRow_perm.mem_iff.mp otherMem)
  exact
    { table :=
        { numbered := by
            intro other otherMem
            rcases mem_everyRow otherMem with rfl | old
            · exact Nat.lt_succ_self _
            · exact Nat.lt_succ_of_lt (table.numbered other old)
          distinct := by
            refine (everyRow_perm.map _).nodup_iff.mpr (List.nodup_cons.mpr ⟨?_, table.distinct⟩)
            intro taken
            rcases List.mem_map.mp taken with ⟨other, otherMem, same⟩
            exact Nat.ne_of_lt (table.numbered other otherMem) same
          accounted := by
            rw [show everyRow _ = (world.rows ++ [row]) ++ world.pruned from rfl,
              everyRow_perm.length_eq, List.length_cons, table.accounted]
          ids := by
            apply nodup_map_concat ReplyRow.id table.ids
            intro other otherMem
            exact Nat.ne_of_lt (BotReplies.lt_nextId otherMem) }
      scheduled := { lawful.scheduled with }
      recorded :=
        { recorded with
          inFlight := by
            intro transmission transmissionMem
            rcases recorded.inFlight transmission transmissionMem with ⟨rowMem, rest⟩
            exact ⟨List.mem_append_left _ rowMem, rest⟩
          rowLaw := by
            intro other otherMem
            rcases mem_everyRow otherMem with rfl | old
            · refine
                { awaited := fun _ dispatched => absurd dispatched undispatched
                  undue := ?_
                  sent := nofun
                  failed := nofun
                  undispatched := nofun
                  overdue := nofun
                  uncancelled := nofun }
              rintro _ ⟨idle, idleMem, existed, _⟩
              exact Nat.not_lt.mpr (recorded.idleAccepted idle idleMem) existed
            · exact { recorded.rowLaw other old with }
          dispatchedAccepted := by
            intro number dispatched
            exact Nat.lt_succ_of_lt (recorded.dispatchedAccepted number dispatched)
          dispatchedInTime := by
            intro dispatch dispatchMem other otherMem same
            rcases mem_everyRow otherMem with rfl | old
            · have dispatched : dispatch.1 ∈ world.dispatched := List.mem_map_of_mem dispatchMem
              rw [← same] at dispatched
              exact absurd dispatched undispatched
            · exact recorded.dispatchedInTime dispatch dispatchMem other old same
          idleAccepted := by
            intro idle idleMem
            exact Nat.le_succ_of_le (recorded.idleAccepted idle idleMem) } }

theorem Lawful.enqueue {world : ReplyWorld Item} (lawful : world.Lawful) (item : Item)
    (now : Int) : (world.enqueue item now).Lawful := by
  simp only [ReplyWorld.enqueue]
  split
  · exact lawful
  · rename_i running
    exact (lawful.accept item now _).startTimer (by simpa using running)

theorem RowLaw.expireStale {world : ReplyWorld Item} {row : ReplyRow (Numbered Item)}
    (law : world.RowLaw row) {now : Int} (fresh : row.status = .pending → now < row.expiresAt) :
    RowLaw (world.expireStale now) row :=
  { law with
    undue := by
      rintro waiting ⟨idle, idleMem, existed, late⟩
      rcases List.mem_append.mp idleMem with old | new
      · exact law.undue waiting ⟨idle, old, existed, late⟩
      · rw [List.mem_singleton] at new
        subst new
        exact Int.not_le.mpr (fresh waiting) late
    overdue := by
      intro expired
      rcases law.overdue expired with ⟨idle, idleMem, late⟩
      exact ⟨idle, List.mem_append_left _ idleMem, late⟩ }

theorem mem_everyRow_expireStale {world : ReplyWorld Item} {now : Int}
    {row : ReplyRow (Numbered Item)} (rowMem : row ∈ (world.expireStale now).everyRow)
    (prunedResolved : ∀ row ∈ world.pruned, row.status ≠ .pending) :
    (row ∈ world.everyRow ∧ (row.status = .pending → now < row.expiresAt)) ∨
      ∃ old ∈ world.rows, old.status = .pending ∧ old.expiresAt ≤ now ∧
        row = old.resolve .expired now (now - old.enqueuedAt) := by
  rcases List.mem_append.mp rowMem with kept | pruned
  · rcases BotReplies.mem_expire kept with ⟨old, fresh⟩ | due
    · exact Or.inl ⟨List.mem_append_left _ old, fresh⟩
    · exact Or.inr due
  · refine Or.inl ⟨List.mem_append_right _ pruned, ?_⟩
    intro waiting
    exact absurd waiting (prunedResolved row pruned)

theorem Lawful.expireStale {world : ReplyWorld Item} (lawful : world.Lawful) (now : Int)
    (idle : world.queue.sending = false) : (world.expireStale now).Lawful := by
  have table := lawful.table
  have recorded := lawful.recorded
  have unsent := lawful.scheduled.unsent idle
  have numbers : ((world.expireStale now).everyRow.map fun row => row.item.number) =
      world.everyRow.map fun row => row.item.number := by
    simp only [everyRow, List.map_append]
    exact congrArg (· ++ _) (BotReplies.map_expire _ (fun _ _ _ _ => rfl) world.rows now)
  have mem_everyRow := fun {row} (rowMem : row ∈ (world.expireStale now).everyRow) =>
    mem_everyRow_expireStale rowMem recorded.prunedResolved
  exact
    { table :=
        { numbered := by
            intro row rowMem
            rcases mem_everyRow rowMem with ⟨old, _⟩ | ⟨old, oldMem, _, _, rfl⟩
            · exact table.numbered row old
            · exact table.numbered old (List.mem_append_left _ oldMem)
          distinct := numbers ▸ table.distinct
          accounted := by
            have lengths := congrArg List.length numbers
            simp only [List.length_map] at lengths
            exact lengths.trans table.accounted
          ids := by
            have ids := BotReplies.map_expire ReplyRow.id (fun _ _ _ _ => rfl) world.rows now
            exact ids ▸ table.ids }
      scheduled := { lawful.scheduled with }
      recorded :=
        { recorded with
          inFlight := by
            intro transmission transmissionMem
            simp [ReplyWorld.expireStale, unsent] at transmissionMem
          rowLaw := by
            intro row rowMem
            rcases mem_everyRow rowMem with ⟨old, fresh⟩ | ⟨old, oldMem, waiting, late, rfl⟩
            · exact (recorded.rowLaw row old).expireStale fresh
            · have old_mem := List.mem_append_left world.pruned oldMem
              have law := recorded.rowLaw old old_mem
              exact
                { awaited := nofun
                  undue := nofun
                  sent := nofun
                  failed := nofun
                  undispatched := by
                    intro _ dispatched
                    simpa [unsent] using law.awaited waiting dispatched
                  overdue := fun _ => ⟨(world.accepted, now),
                    List.mem_append_right _ (List.mem_singleton_self _),
                    table.numbered old old_mem, late⟩
                  uncancelled := nofun }
          dispatchedInTime := by
            intro dispatch dispatchMem row rowMem same
            rcases mem_everyRow rowMem with ⟨old, _⟩ | ⟨old, oldMem, _, _, rfl⟩
            · exact recorded.dispatchedInTime dispatch dispatchMem row old same
            · exact recorded.dispatchedInTime dispatch dispatchMem old
                (List.mem_append_left _ oldMem) same
          idleAccepted := by
            intro entry entryMem
            rcases List.mem_append.mp entryMem with old | new
            · exact recorded.idleAccepted entry old
            · rw [List.mem_singleton] at new
              subst new
              exact Nat.le_refl _ } }

theorem Lawful.reserve {world : ReplyWorld Item} (lawful : world.Lawful)
    (running : world.queue.stopped = false) (idle : world.queue.sending = false)
    {next : ReplyRow (Numbered Item)} (nextMem : next ∈ world.rows)
    (waiting : next.status = .pending) {now : Int} (fresh : now < next.expiresAt)
    (air : AirtimeCoordinator) (clock : Int) :
    Lawful { world with
      air
      clock
      queue := { world.queue with sending := true }
      transmissions := world.transmissions ++ [⟨next, now, .reserved⟩] } := by
  have recorded := lawful.recorded
  have unsent := lawful.scheduled.unsent idle
  have undispatched : ∀ row ∈ world.everyRow, row.status = .pending →
      row.item.number ∉ world.dispatched := by
    intro row rowMem rowWaiting dispatched
    simpa [unsent] using (recorded.rowLaw row rowMem).awaited rowWaiting dispatched
  exact
    { table := { lawful.table with }
      scheduled := { lawful.scheduled.sends running unsent ⟨next, now, .reserved⟩ with }
      recorded :=
        { recorded with
          inFlight := by
            intro transmission transmissionMem
            simp only [unsent, List.nil_append, List.mem_singleton] at transmissionMem
            subst transmission
            exact ⟨nextMem, waiting, fresh,
              undispatched next (List.mem_append_left _ nextMem) waiting⟩
          rowLaw := by
            intro row rowMem
            exact
              { recorded.rowLaw row rowMem with
                awaited := fun rowWaiting dispatched =>
                  absurd dispatched (undispatched row rowMem rowWaiting) } } }

theorem requestAir_eq (world : ReplyWorld Item) (now checkedAt notedAt : Int) :
    (world.rows.countPendingReplyItems = 0 ∧
        world.requestAir now checkedAt notedAt = world.clearTimer) ∨
      (∃ clock, world.requestAir now checkedAt notedAt = { world with clock }) ∨
      ∃ air clock next, world.requestAir now checkedAt notedAt =
        { world with
          air
          clock
          queue := { world.queue with sending := true }
          transmissions := world.transmissions ++ [⟨next, now, .reserved⟩] } := by
  rw [requestAir]
  split
  · rename_i empty
    exact .inl ⟨empty, rfl⟩
  · split
    · exact .inr (.inl ⟨world.clock, rfl⟩)
    · split
      · exact .inr (.inl ⟨checkedAt, rfl⟩)
      · exact .inr (.inr ⟨_, notedAt, _, rfl⟩)

theorem Lawful.tick {world : ReplyWorld Item} (lawful : world.Lawful)
    (running : world.queue.stopped = false) (now checkedAt notedAt : Int) :
    (world.tick now checkedAt notedAt).Lawful := by
  simp only [ReplyWorld.tick]
  split
  · exact lawful
  · rename_i sending
    have idle : world.queue.sending = false := by simpa using sending
    have expired := lawful.expireStale now idle
    simp only [requestAir]
    split
    · exact expired.clearTimer
    · split
      · exact expired
      · rename_i next peeked
        rcases BotReplies.peekOldestPendingReplyItem_mem peeked with ⟨nextMem, waiting⟩
        split
        · exact
            { table := { expired.table with }
              scheduled := { expired.scheduled with }
              recorded := expired.recorded.frame rfl rfl rfl rfl rfl rfl rfl }
        · apply expired.reserve running idle nextMem waiting
          rcases BotReplies.mem_expire nextMem with ⟨_, fresh⟩ | ⟨old, _, _, _, rfl⟩
          · exact fresh waiting
          · simp [ReplyRow.resolve] at waiting

theorem Lawful.dispatchStarts {world : ReplyWorld Item} (lawful : world.Lawful)
    {row : ReplyRow (Numbered Item)} {tickedAt : Int}
    (only : world.transmissions = [⟨row, tickedAt, .reserved⟩]) :
    Lawful { world with
      transmissions := [⟨row, tickedAt, .dispatched⟩]
      dispatches := world.dispatches ++ [(row.item.number, tickedAt)] } := by
  have recorded := lawful.recorded
  rcases recorded.inFlight _ (only ▸ List.mem_singleton_self _) with
    ⟨rowMem, waiting, fresh, undispatched⟩
  simp only at rowMem waiting fresh
  have undispatched : row.item.number ∉ world.dispatched := undispatched
  have everMem : row ∈ world.everyRow := List.mem_append_left _ rowMem
  have dispatched_eq : (world.dispatches ++ [(row.item.number, tickedAt)]).map Prod.fst =
      world.dispatched ++ [row.item.number] := by simp [dispatched]
  have mem_dispatched : ∀ {number}, number ∈
      (world.dispatches ++ [(row.item.number, tickedAt)]).map Prod.fst ↔
        number ∈ world.dispatched ∨ number = row.item.number := by
    intro number
    rw [dispatched_eq, List.mem_append, List.mem_singleton]
  exact
    { table := { lawful.table with }
      scheduled := { lawful.scheduled.advances only _ with }
      recorded :=
        { recorded with
          inFlight := by
            intro transmission transmissionMem
            rw [List.mem_singleton] at transmissionMem
            subst transmission
            refine ⟨rowMem, waiting, fresh, mem_dispatched.mpr (Or.inr rfl), ?_⟩
            intro answered
            exact undispatched (recorded.answered _ answered)
          rowLaw := by
            intro other otherMem
            have law := recorded.rowLaw other otherMem
            exact
              { law with
                awaited := by
                  intro otherWaiting dispatched
                  refine ⟨_, List.mem_singleton_self _, ?_⟩
                  rcases mem_dispatched.mp dispatched with old | new
                  · simpa [only] using law.awaited otherWaiting old
                  · exact new.symm
                undispatched := by
                  intro expired dispatched
                  rcases mem_dispatched.mp dispatched with old | new
                  · exact law.undispatched expired old
                  · have same := lawful.table.row_eq otherMem everMem new
                    subst other
                    simp [waiting] at expired }
          dispatchedOnce := by
            change List.Nodup ((world.dispatches ++ [(row.item.number, tickedAt)]).map Prod.fst)
            apply nodup_map_concat Prod.fst recorded.dispatchedOnce
            intro dispatch dispatchMem same
            exact undispatched (List.mem_map.mpr ⟨dispatch, dispatchMem, same⟩)
          dispatchedAccepted := by
            intro number dispatched
            rcases mem_dispatched.mp dispatched with old | rfl
            · exact recorded.dispatchedAccepted number old
            · exact lawful.table.numbered row everMem
          dispatchedInTime := by
            intro dispatch dispatchMem other otherMem same
            rcases List.mem_append.mp dispatchMem with old | new
            · exact recorded.dispatchedInTime dispatch old other otherMem same
            · rw [List.mem_singleton] at new
              subst dispatch
              have same := lawful.table.row_eq otherMem everMem same
              subst other
              exact fresh
          answered := by
            intro number answered
            exact mem_dispatched.mpr (Or.inl (recorded.answered number answered)) } }

theorem Lawful.dispatchSettles {world : ReplyWorld Item} (lawful : world.Lawful)
    {row : ReplyRow (Numbered Item)} {tickedAt : Int}
    (only : world.transmissions = [⟨row, tickedAt, .dispatched⟩]) (outcome : Outcome) :
    Lawful { world with
      transmissions := [⟨row, tickedAt, .settled outcome⟩]
      air := world.air.release
      outcomes := world.outcomes ++ [(row.item.number, outcome)] } := by
  have recorded := lawful.recorded
  rcases recorded.inFlight _ (only ▸ List.mem_singleton_self _) with
    ⟨rowMem, waiting, fresh, dispatched, unanswered⟩
  simp only at rowMem waiting fresh dispatched unanswered
  have answered_eq : (world.outcomes ++ [(row.item.number, outcome)]).map Prod.fst =
      world.outcomes.map Prod.fst ++ [row.item.number] := by simp
  exact
    { table := { lawful.table with }
      scheduled := { lawful.scheduled.advances only _ with }
      recorded :=
        { recorded with
          inFlight := by
            intro transmission transmissionMem
            rw [List.mem_singleton] at transmissionMem
            subst transmission
            exact ⟨rowMem, waiting, fresh, List.mem_append_right _ (List.mem_singleton_self _)⟩
          rowLaw := by
            intro other otherMem
            have law := recorded.rowLaw other otherMem
            exact
              { law with
                awaited := by
                  intro otherWaiting otherDispatched
                  refine ⟨_, List.mem_singleton_self _, ?_⟩
                  simpa [only] using law.awaited otherWaiting otherDispatched
                sent := fun sent => List.mem_append_left _ (law.sent sent)
                failed := fun failed => List.mem_append_left _ (law.failed failed) }
          answeredOnce := by
            apply nodup_map_concat Prod.fst recorded.answeredOnce
            intro answer answerMem same
            exact unanswered (List.mem_map.mpr ⟨answer, answerMem, same⟩)
          answered := by
            intro number answered
            rw [answered_eq, List.mem_append, List.mem_singleton] at answered
            rcases answered with old | rfl
            · exact recorded.answered number old
            · exact dispatched } }

theorem RowLaw.answered {world : ReplyWorld Item} {row : ReplyRow (Numbered Item)}
    {outcome : Outcome} (answered : (row.item.number, outcome) ∈ world.outcomes)
    (now queuedMs : Int) : world.RowLaw (row.resolve outcome.replyStatus now queuedMs) := by
  cases outcome with
  | resolved =>
      exact
        { awaited := nofun, undue := nofun, sent := fun _ => answered, failed := nofun
          undispatched := nofun, overdue := nofun, uncancelled := nofun }
  | rejected =>
      exact
        { awaited := nofun, undue := nofun, sent := nofun, failed := fun _ => answered
          undispatched := nofun, overdue := nofun, uncancelled := nofun }

theorem Lawful.resolve {world : ReplyWorld Item} (lawful : world.Lawful)
    {row : ReplyRow (Numbered Item)} {tickedAt : Int} {outcome : Outcome}
    (only : world.transmissions = [⟨row, tickedAt, .settled outcome⟩]) (now queuedMs : Int) :
    Lawful { world with
      rows := world.rows.resolveReplyItem row.id outcome.replyStatus now queuedMs
      queue := { world.queue with sending := false }
      transmissions := []
      clock := now } := by
  have table := lawful.table
  have recorded := lawful.recorded
  rcases recorded.inFlight _ (only ▸ List.mem_singleton_self _) with
    ⟨rowMem, waiting, fresh, answered⟩
  simp only at rowMem waiting fresh
  have answered : (row.item.number, outcome) ∈ world.outcomes := answered
  let rows := world.rows.resolveReplyItem row.id outcome.replyStatus now queuedMs
  have mem_everyRow : ∀ {other}, other ∈ rows ++ world.pruned →
      (other ∈ world.everyRow ∧ (other.status = .pending → other.item.number ≠ row.item.number)) ∨
        other = row.resolve outcome.replyStatus now queuedMs := by
    intro other otherMem
    rcases List.mem_append.mp otherMem with kept | pruned
    · rcases BotReplies.mem_resolveReplyItem kept with ⟨old, different⟩ | ⟨old, oldMem, same, rfl⟩
      · refine Or.inl ⟨List.mem_append_left _ old, ?_⟩
        intro _ same
        have same := table.row_eq (List.mem_append_left _ old) (List.mem_append_left _ rowMem) same
        exact different (same ▸ rfl)
      · have same := List.inj_on_of_nodup_map table.ids oldMem rowMem same
        exact Or.inr (same ▸ rfl)
    · refine Or.inl ⟨List.mem_append_right _ pruned, ?_⟩
      intro otherWaiting
      exact absurd otherWaiting (recorded.prunedResolved other pruned)
  have numbers : ((rows ++ world.pruned).map fun row => row.item.number) =
      world.everyRow.map fun row => row.item.number := by
    simp only [everyRow, List.map_append]
    exact congrArg (· ++ _) (BotReplies.map_resolveReplyItem _ (fun _ _ _ _ => rfl) world.rows
      row.id outcome.replyStatus now queuedMs)
  exact
    { table :=
        { numbered := by
            intro other otherMem
            rcases mem_everyRow otherMem with ⟨old, _⟩ | rfl
            · exact table.numbered other old
            · exact table.numbered row (List.mem_append_left _ rowMem)
          distinct := numbers ▸ table.distinct
          accounted := by
            have lengths := congrArg List.length numbers
            simp only [List.length_map] at lengths
            exact lengths.trans table.accounted
          ids := by
            have ids := BotReplies.map_resolveReplyItem ReplyRow.id (fun _ _ _ _ => rfl)
              world.rows row.id outcome.replyStatus now queuedMs
            exact ids ▸ table.ids }
      scheduled := { lawful.scheduled.settles with }
      recorded :=
        { recorded with
          inFlight := by simp
          rowLaw := by
            intro other otherMem
            rcases mem_everyRow otherMem with ⟨old, different⟩ | rfl
            · have law := recorded.rowLaw other old
              exact
                { law with
                  awaited := by
                    intro otherWaiting dispatched
                    rcases law.awaited otherWaiting dispatched with
                      ⟨transmission, transmissionMem, same⟩
                    rw [only, List.mem_singleton] at transmissionMem
                    subst transmission
                    exact absurd same.symm (different otherWaiting) }
            · apply RowLaw.answered
              exact answered
          dispatchedInTime := by
            intro dispatch dispatchMem other otherMem same
            rcases mem_everyRow otherMem with ⟨old, _⟩ | rfl
            · exact recorded.dispatchedInTime dispatch dispatchMem other old same
            · exact recorded.dispatchedInTime dispatch dispatchMem row
                (List.mem_append_left _ rowMem) same } }

theorem Lawful.tickResumes {world : ReplyWorld Item} (lawful : world.Lawful)
    {row : ReplyRow (Numbered Item)} {tickedAt : Int} {outcome : Outcome}
    (only : world.transmissions = [⟨row, tickedAt, .settled outcome⟩]) (now : Int) :
    (world.resume ⟨row, tickedAt, .settled outcome⟩ outcome now).Lawful := by
  have resolved := lawful.resolve only now (now - row.enqueuedAt)
  simp only [resume, only, List.filter_cons_of_neg, ne_eq, not_true_eq_false, decide_false,
    Bool.false_eq_true, not_false_eq_true, List.filter_nil]
  split
  · exact resolved.clearTimer
  · exact resolved

theorem prune_perm (world : ReplyWorld Item) (cutoffMs : Int) :
    List.Perm (world.rows.pruneOlderThan cutoffMs ++
      (world.pruned ++ world.rows.filter (BotReplies.prunable cutoffMs))) world.everyRow := by
  have split := List.filter_append_perm (BotReplies.prunable cutoffMs) world.rows
  rw [← List.append_assoc]
  apply List.perm_append_comm.trans
  rw [← List.append_assoc]
  exact split.append_right world.pruned

theorem Lawful.prune {world : ReplyWorld Item} (lawful : world.Lawful) (cutoffMs : Int) :
    Lawful { world with
      rows := world.rows.pruneOlderThan cutoffMs
      pruned := world.pruned ++ world.rows.filter (BotReplies.prunable cutoffMs) } := by
  have table := lawful.table
  have recorded := lawful.recorded
  have same := world.prune_perm cutoffMs
  exact
    { table :=
        { numbered := fun row rowMem => table.numbered row (same.mem_iff.mp rowMem)
          distinct := (same.map _).nodup_iff.mpr table.distinct
          accounted := same.length_eq.trans table.accounted
          ids := (List.filter_sublist.map ReplyRow.id).nodup table.ids }
      scheduled := { lawful.scheduled with }
      recorded :=
        { recorded with
          inFlight := by
            intro transmission transmissionMem
            rcases recorded.inFlight transmission transmissionMem with ⟨rowMem, waiting, rest⟩
            refine ⟨List.mem_filter.mpr ⟨rowMem, ?_⟩, waiting, rest⟩
            simp [BotReplies.prunable, waiting]
          rowLaw := fun row rowMem => { recorded.rowLaw row (same.mem_iff.mp rowMem) with }
          prunedResolved := by
            intro row rowMem
            rcases List.mem_append.mp rowMem with old | new
            · exact recorded.prunedResolved row old
            · intro waiting
              simp [BotReplies.prunable, waiting] at new
          dispatchedInTime := fun dispatch dispatchMem row rowMem =>
            recorded.dispatchedInTime dispatch dispatchMem row (same.mem_iff.mp rowMem) } }

theorem Lawful.stop {world : ReplyWorld Item} (lawful : world.Lawful) : world.stop.Lawful := by
  simp only [ReplyWorld.stop]
  split
  · exact lawful
  · rw [clearTimer_eq]
    · exact
        { table := { lawful.table with }
          scheduled := lawful.scheduled.stops
          recorded := lawful.recorded.frame rfl rfl rfl rfl rfl rfl rfl }
    · exact lawful.scheduled.timers

theorem Lawful.stopResolves {world : ReplyWorld Item} (lawful : world.Lawful)
    (idle : world.queue.sending = false) :
    Lawful { world with stopsWaiting := world.stopsWaiting - 1 } where
  table := { lawful.table with }
  scheduled := { lawful.scheduled with finished := fun _ _ => lawful.scheduled.unsent idle }
  recorded := lawful.recorded.frame rfl rfl rfl rfl rfl rfl rfl

theorem Lawful.restart {world : ReplyWorld Item} (lawful : world.Lawful)
    (stopped : world.queue.stopped = true) (finished : world.stopsWaiting = 0)
    (ttlMs quietMs now : Int) : (world.restart ttlMs quietMs now).Lawful where
  table := { lawful.table with }
  scheduled := lawful.scheduled.restart stopped finished ttlMs quietMs now
  recorded := lawful.recorded.frame rfl rfl rfl rfl rfl rfl rfl

theorem Lawful.air {world : ReplyWorld Item} (lawful : world.Lawful) (air : AirtimeCoordinator)
    (otherSending : Bool) (clock : Int) : Lawful { world with air, otherSending, clock } where
  table := { lawful.table with }
  scheduled := { lawful.scheduled with }
  recorded := lawful.recorded.frame rfl rfl rfl rfl rfl rfl rfl

theorem Lawful.step {world after : ReplyWorld Item} {event : ReplyEvent Item}
    (lawful : world.Lawful) (stepped : world.step event = some after) : after.Lawful := by
  cases lawful.scheduled.replyStep stepped with
  | start => exact lawful.start
  | enqueue => exact lawful.enqueue _ _
  | packetHeard => exact lawful.air _ _ _
  | tick armed =>
      apply lawful.tick
      by_contra stopped
      have stopped : world.queue.stopped = true := by simpa using stopped
      rw [lawful.scheduled.timers, lawful.scheduled.stopped stopped] at armed
      simp at armed
  | dispatchStarts only => exact lawful.dispatchStarts only
  | dispatchSettles only => exact lawful.dispatchSettles only _
  | tickResumes only => exact lawful.tickResumes only _
  | pruneOlderThan => exact lawful.prune _
  | stop => exact lawful.stop
  | stopResolves _ idle => exact lawful.stopResolves idle
  | restart stopped finished => exact lawful.restart stopped finished _ _ _
  | otherGranted => exact lawful.air _ _ _
  | otherReleased => exact lawful.air _ _ _

theorem lawful_of_reachable {world : ReplyWorld Item}
    (reachable : (replySystem Item).Reachable world) : world.Lawful :=
  reachable.invariant
    (fun _ ⟨ttlMs, quietMs, now, starts⟩ => starts ▸ lawful_new ttlMs quietMs now)
    (fun _ _ _ lawful _ stepped => lawful.step stepped)

end ReplyWorld

end MeshcoreObserver
