import MeshcoreObserver.Metrics.BotReplies
import MeshcoreObserver.Radio.AirtimeCoordinator

/-!
# The reply queue

`ReplyQueue` over the `bot_replies` table, the shared coordinator and the event
loop. A poll timer is an armed interval of the event loop; `#timer` names it.
A granted tick stays in `transmissions` while it awaits its dispatch: reserved
until the microtask that calls `dispatch`, dispatched until that promise
settles, settled until the tick resumes. Timers may fire, packets may arrive and
replies may be enqueued between any two of these.

A restart is clean: a fresh `ReplyQueue` and a fresh coordinator over the same
table, once every `stop()` of the old queue has resolved.

Accepted replies are numbered in order, because the `id` of a pruned row can be
used again. The numbers and the fields below `clock` record the run; no method
reads them.
-/

namespace MeshcoreObserver

open Transition

universe u

structure Numbered (Item : Type u) where
  number : Nat
  item : Item
  deriving DecidableEq, Repr

structure ReplyQueue where
  ttlMs : Int
  timer : Option Nat
  sending : Bool
  stopped : Bool
  deriving DecidableEq, Repr

/-- Where a tick that has been granted the air stands. -/
inductive TransmissionPhase where
  | reserved
  | dispatched
  | settled (outcome : Outcome)
  deriving DecidableEq, Repr

/-- A granted tick: the row it peeked, the time it read, and where it stands. -/
structure Transmission (Item : Type u) where
  row : ReplyRow (Numbered Item)
  tickedAt : Int
  phase : TransmissionPhase
  deriving DecidableEq, Repr

/-- One reply queue, its store, its coordinator and its part of the event loop. -/
structure ReplyWorld (Item : Type u) where
  rows : BotReplies (Numbered Item)
  queue : ReplyQueue
  air : AirtimeCoordinator
  otherSending : Bool
  intervals : List Nat
  nextTimer : Nat
  transmissions : List (Transmission Item)
  stopsWaiting : Nat
  clock : Int
  accepted : Nat
  pruned : BotReplies (Numbered Item)
  dispatches : List (Nat × Int)
  outcomes : List (Nat × Outcome)
  idleTicks : List (Nat × Int)
  expiredReports : BotReplies (Numbered Item)
  deriving DecidableEq, Repr

inductive ReplyEvent (Item : Type u) where
  | start
  | enqueue (item : Item) (now : Int)
  | packetHeard (now : Int)
  | tick (timer : Nat) (now checkedAt notedAt : Int)
  | dispatchStarts (number : Nat)
  | dispatchSettles (number : Nat) (outcome : Outcome)
  | tickResumes (number : Nat) (now : Int)
  | pruneOlderThan (cutoffMs : Int)
  | stop
  | stopResolves
  | restart (ttlMs quietMs now : Int)
  | otherGranted (checkedAt notedAt : Int)
  | otherReleased
  deriving DecidableEq, Repr

def Outcome.replyStatus : Outcome → ReplyStatus
  | .resolved => .sent
  | .rejected => .failed

namespace ReplyQueue

def new (ttlMs : Int) : ReplyQueue :=
  { ttlMs, timer := none, sending := false, stopped := false }

end ReplyQueue

namespace ReplyWorld

variable {Item : Type u}

def new (ttlMs quietMs now : Int) : ReplyWorld Item :=
  { rows := [], queue := .new ttlMs, air := .new quietMs now, otherSending := false
    intervals := [], nextTimer := 0, transmissions := [], stopsWaiting := 0, clock := now
    accepted := 0, pruned := [], dispatches := [], outcomes := [], idleTicks := []
    expiredReports := [] }

def startTimer (world : ReplyWorld Item) : ReplyWorld Item :=
  match world.queue.timer with
  | some _ => world
  | none =>
      { world with
        queue := { world.queue with timer := some world.nextTimer }
        intervals := world.intervals ++ [world.nextTimer]
        nextTimer := world.nextTimer + 1 }

def clearTimer (world : ReplyWorld Item) : ReplyWorld Item :=
  { world with
    queue := { world.queue with timer := none }
    intervals := world.intervals.filter fun timer => world.queue.timer ≠ some timer }

def start (world : ReplyWorld Item) : ReplyWorld Item :=
  if world.queue.stopped = true ∨ world.queue.timer ≠ none then world
  else if 0 < world.rows.countPendingReplyItems then world.startTimer
  else world

def enqueue (world : ReplyWorld Item) (item : Item) (now : Int) : ReplyWorld Item :=
  if world.queue.stopped then world
  else
    startTimer { world with
      rows := world.rows.enqueueReplyItem ⟨world.accepted, item⟩ now (now + world.queue.ttlMs)
      clock := now
      accepted := world.accepted + 1 }

/-- The first half of `#tick()` when no send is in flight: everything stale expires. -/
def expireStale (world : ReplyWorld Item) (now : Int) : ReplyWorld Item :=
  { world with
    rows := world.rows.expire now
    clock := now
    idleTicks := world.idleTicks ++ [(world.accepted, now)]
    expiredReports := world.expiredReports ++ world.rows.selectExpired now }

/-- The second half of `#tick()` up to its first `await`: the oldest pending reply asks for
the air. -/
def requestAir (world : ReplyWorld Item) (now checkedAt notedAt : Int) : ReplyWorld Item :=
  if world.rows.countPendingReplyItems = 0 then world.clearTimer
  else
    match world.rows.peekOldestPendingReplyItem with
    | none => world
    | some next =>
        match world.air.tryRunWhenQuiet checkedAt notedAt with
        | none => { world with clock := checkedAt }
        | some air =>
            { world with
              air
              clock := notedAt
              queue := { world.queue with sending := true }
              transmissions := world.transmissions ++ [⟨next, now, .reserved⟩] }

/-- The synchronous part of `#tick()`. -/
def tick (world : ReplyWorld Item) (now checkedAt notedAt : Int) : ReplyWorld Item :=
  if world.queue.sending then world
  else (world.expireStale now).requestAir now checkedAt notedAt

def advance (world : ReplyWorld Item) (number : Nat) (before after : TransmissionPhase) :
    Option (ReplyWorld Item) :=
  if world.transmissions.any fun transmission =>
      transmission.row.item.number = number ∧ transmission.phase = before then
    some { world with
      transmissions := world.transmissions.map fun transmission =>
        if transmission.row.item.number = number then { transmission with phase := after }
        else transmission }
  else none

/-- The rest of `#tick()` once its dispatch has settled: `#resolve`, then the `finally` block. -/
def resume (world : ReplyWorld Item) (transmission : Transmission Item) (outcome : Outcome)
    (now : Int) : ReplyWorld Item :=
  let resolved : ReplyWorld Item :=
    { world with
      rows := world.rows.resolveReplyItem transmission.row.id outcome.replyStatus now
        (now - transmission.row.enqueuedAt)
      queue := { world.queue with sending := false }
      transmissions := world.transmissions.filter fun other =>
        other.row.item.number ≠ transmission.row.item.number
      clock := now }
  if resolved.rows.countPendingReplyItems = 0 ∧ resolved.queue.timer ≠ none then
    resolved.clearTimer
  else resolved

/-- The synchronous part of `stop()`. A second call returns at once. -/
def stop (world : ReplyWorld Item) : ReplyWorld Item :=
  if world.queue.stopped then world
  else
    clearTimer { world with
      queue := { world.queue with stopped := true }
      stopsWaiting := world.stopsWaiting + 1 }

/-- A fresh queue and coordinator over the same table. -/
def restart (world : ReplyWorld Item) (ttlMs quietMs now : Int) : ReplyWorld Item :=
  { world with
    queue := .new ttlMs
    air := .new quietMs now
    otherSending := false
    clock := now }

def step (world : ReplyWorld Item) : ReplyEvent Item → Option (ReplyWorld Item)
  | .start => some world.start
  | .enqueue item now => if world.clock ≤ now then some (world.enqueue item now) else none
  | .packetHeard now =>
      if world.clock ≤ now then
        some { world with air := world.air.noteActivity now, clock := now }
      else none
  | .tick timer now checkedAt notedAt =>
      if timer ∈ world.intervals ∧ world.clock ≤ now ∧ now ≤ checkedAt ∧ checkedAt ≤ notedAt then
        some (world.tick now checkedAt notedAt)
      else none
  | .dispatchStarts number =>
      (world.advance number .reserved .dispatched).map fun after =>
        { after with dispatches := after.dispatches ++
            (world.transmissions.filter fun transmission =>
              transmission.row.item.number = number).map fun transmission =>
                (number, transmission.tickedAt) }
  | .dispatchSettles number outcome =>
      (world.advance number .dispatched (.settled outcome)).map fun after =>
        { after with
          air := after.air.release
          outcomes := after.outcomes ++ [(number, outcome)] }
  | .tickResumes number now =>
      match world.transmissions.find? fun transmission =>
          transmission.row.item.number = number with
      | some ⟨row, tickedAt, .settled outcome⟩ =>
          if world.clock ≤ now then
            some (world.resume ⟨row, tickedAt, .settled outcome⟩ outcome now)
          else none
      | _ => none
  | .pruneOlderThan cutoffMs =>
      some { world with
        rows := world.rows.pruneOlderThan cutoffMs
        pruned := world.pruned ++ world.rows.filter (BotReplies.prunable cutoffMs) }
  | .stop => some world.stop
  | .stopResolves =>
      if 0 < world.stopsWaiting ∧ world.queue.sending = false then
        some { world with stopsWaiting := world.stopsWaiting - 1 }
      else none
  | .restart ttlMs quietMs now =>
      if world.queue.stopped = true ∧ world.stopsWaiting = 0 ∧ world.clock ≤ now then
        some (world.restart ttlMs quietMs now)
      else none
  | .otherGranted checkedAt notedAt =>
      if world.clock ≤ checkedAt ∧ checkedAt ≤ notedAt then
        match world.air.tryRunWhenQuiet checkedAt notedAt with
        | none => some { world with clock := checkedAt }
        | some air => some { world with air, otherSending := true, clock := notedAt }
      else none
  | .otherReleased =>
      if world.otherSending then
        some { world with air := world.air.release, otherSending := false }
      else none

theorem otherGranted_eq_some {world after : ReplyWorld Item} {checkedAt notedAt : Int}
    (stepped : world.step (.otherGranted checkedAt notedAt) = some after) :
    ∃ air otherSending clock, after = { world with air, otherSending, clock } := by
  simp only [step, Option.ite_none_right_eq_some] at stepped
  rcases stepped with ⟨_, stepped⟩
  split at stepped
  · exact ⟨world.air, world.otherSending, checkedAt, (Option.some.inj stepped).symm⟩
  · rename_i air _
    exact ⟨air, true, notedAt, (Option.some.inj stepped).symm⟩

end ReplyWorld

/-- A reply queue from its first process on, through every clean restart. -/
def replySystem (Item : Type u) : EventSystem (ReplyWorld Item) (ReplyEvent Item) where
  Initial world := ∃ ttlMs quietMs now, world = .new ttlMs quietMs now
  step := ReplyWorld.step

end MeshcoreObserver
