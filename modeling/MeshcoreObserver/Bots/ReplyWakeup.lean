import MeshcoreObserver.Bots.ReplyInvariant

/-!
# No lost wakeup in the reply queue

A process with its reply queue, between the synchronous steps of its event loop.
The microtask of a granted tick runs before any other step, so nothing happens
between the reservation and the call of `dispatch`. Pending replies of an
earlier process wait for `start()` or for the first `enqueue()`; from then on a
pending reply always has an armed timer.

A call of `stop()` while the queue is stopped returns at once, also when the
send that the first call waits for is still in flight.
-/

namespace MeshcoreObserver

open Transition

universe u

variable {Item : Type u}

/-- A process with its reply queue. What follows `world` records the run: whether `start()` has
returned or an enqueue was accepted, and how many `stop()` promises resolved during a dispatch. -/
structure ReplyProcess (Item : Type u) where
  world : ReplyWorld Item
  awake : Bool
  resolvedEarly : Nat
  deriving DecidableEq, Repr

def TransmissionPhase.isReserved : TransmissionPhase → Bool
  | .reserved => true
  | _ => false

def TransmissionPhase.isDispatched : TransmissionPhase → Bool
  | .dispatched => true
  | _ => false

namespace ReplyEvent

def isDispatchStart : ReplyEvent Item → Bool
  | .dispatchStarts _ => true
  | _ => false

def isStop : ReplyEvent Item → Bool
  | .stop => true
  | _ => false

def isRestart : ReplyEvent Item → Bool
  | .restart _ _ _ => true
  | _ => false

end ReplyEvent

namespace ReplyWorld

/-- A tick has been granted the air and its microtask has not run yet. -/
def microtaskDue (world : ReplyWorld Item) : Bool :=
  world.transmissions.any fun transmission => transmission.phase.isReserved

def dispatchInFlight (world : ReplyWorld Item) : Bool :=
  world.transmissions.any fun transmission => transmission.phase.isDispatched

/-- The event resolves the promise of a `stop()`: of one that has waited, or of one that found
the queue stopped. -/
def resolvesStop (world : ReplyWorld Item) : ReplyEvent Item → Bool
  | .stopResolves => true
  | .stop => world.queue.stopped
  | _ => false

end ReplyWorld

namespace ReplyProcess

def new (ttlMs quietMs now : Int) : ReplyProcess Item :=
  { world := .new ttlMs quietMs now, awake := false, resolvedEarly := 0 }

def awakeAfter (process : ReplyProcess Item) : ReplyEvent Item → Bool
  | .start => true
  | .enqueue _ _ => process.awake || !process.world.queue.stopped
  | .restart _ _ _ => false
  | _ => process.awake

def step (process : ReplyProcess Item) (event : ReplyEvent Item) : Option (ReplyProcess Item) :=
  if process.world.microtaskDue = true ∧ event.isDispatchStart = false then none
  else
    (process.world.step event).map fun world =>
      { world
        awake := process.awakeAfter event
        resolvedEarly := process.resolvedEarly +
          if process.world.resolvesStop event && process.world.dispatchInFlight then 1 else 0 }

end ReplyProcess

def replyProcesses (Item : Type u) : EventSystem (ReplyProcess Item) (ReplyEvent Item) where
  Initial process := ∃ ttlMs quietMs now, process = .new ttlMs quietMs now
  step := ReplyProcess.step

namespace ReplyProcess

/-- `stop()` is not called again while a dispatch is in flight. -/
def stopsOnce (process : ReplyProcess Item) (event : ReplyEvent Item) : Prop :=
  ¬(event.isStop = true ∧ process.world.queue.stopped = true ∧
    process.world.dispatchInFlight = true)

instance (process : ReplyProcess Item) (event : ReplyEvent Item) :
    Decidable (stopsOnce process event) :=
  inferInstanceAs (Decidable (¬_))

/-- No pending reply waits without a timer, no stopped queue has one, and no `stop()` is over
during a dispatch. -/
structure NoLostWakeup (process : ReplyProcess Item) : Prop where
  armed : process.world.queue.stopped = false → process.awake = true →
    0 < process.world.rows.countPendingReplyItems →
      ∃ timer, process.world.queue.timer = some timer ∧ process.world.intervals = [timer]
  single : process.world.intervals.length ≤ 1
  disarmed : process.world.queue.stopped = true →
    process.world.queue.timer = none ∧ process.world.intervals = []
  resolved : process.resolvedEarly = 0

/-- After `stop()` the queue stays stopped, starts no dispatch and takes no reply. -/
structure StaysStopped (before after : ReplyProcess Item) : Prop where
  stopped : after.world.queue.stopped = true
  dispatches : after.world.dispatches = before.world.dispatches
  accepted : after.world.accepted = before.world.accepted
  rows : ∀ row ∈ after.world.rows, ∃ old ∈ before.world.rows, old.id = row.id

end ReplyProcess

namespace ReplyWorld

variable {before after : ReplyWorld Item}

/-- The timer is armed if a reply is pending. -/
def Armed (world : ReplyWorld Item) : Prop :=
  0 < world.rows.countPendingReplyItems → world.queue.timer ≠ none

theorem Armed.frame (armed : before.Armed) (timer : after.queue.timer = before.queue.timer)
    (pending : after.rows.pending.Sublist before.rows.pending) : after.Armed := by
  intro waiting
  rw [timer]
  exact armed (Nat.lt_of_lt_of_le waiting pending.length_le)

theorem armed_startTimer (world : ReplyWorld Item) : world.startTimer.Armed := by
  intro _
  simp only [startTimer]
  split
  · rename_i timer present
    simp [present]
  · simp

theorem Armed.start (running : before.queue.stopped = false) : before.start.Armed := by
  simp only [ReplyWorld.start]
  split
  · rename_i either
    rcases either with stopped | present
    · rw [running] at stopped
      cases stopped
    · exact fun _ => present
  · split
    · exact before.armed_startTimer
    · rename_i empty
      exact fun waiting => absurd waiting empty

theorem Armed.enqueue (running : before.queue.stopped = false) (item : Item) (now : Int) :
    (before.enqueue item now).Armed := by
  simp only [ReplyWorld.enqueue, running, Bool.false_eq_true, if_false]
  exact armed_startTimer _

theorem Armed.tick (armed : before.Armed) (now checkedAt notedAt : Int) :
    (before.tick now checkedAt notedAt).Armed := by
  have expired : (before.expireStale now).Armed := by
    refine armed.frame rfl ?_
    rw [ReplyWorld.expireStale, BotReplies.pending_expire]
    exact List.filter_sublist
  simp only [ReplyWorld.tick]
  split
  · exact armed
  · rcases (before.expireStale now).requestAir_eq now checkedAt notedAt with
      ⟨empty, asked⟩ | ⟨clock, asked⟩ | ⟨air, clock, next, asked⟩
    · rw [asked]
      intro waiting
      rw [show (before.expireStale now).clearTimer.rows = (before.expireStale now).rows from rfl,
        empty] at waiting
      cases waiting
    · rw [asked]
      exact expired
    · rw [asked]
      exact expired

theorem stopped_startTimer (world : ReplyWorld Item) :
    world.startTimer.queue.stopped = world.queue.stopped := by
  simp only [startTimer]
  split <;> rfl

theorem stopped_start (world : ReplyWorld Item) :
    world.start.queue.stopped = world.queue.stopped := by
  simp only [ReplyWorld.start]
  split
  · rfl
  · split
    · exact stopped_startTimer _
    · rfl

theorem stopped_enqueue (world : ReplyWorld Item) (item : Item) (now : Int) :
    (world.enqueue item now).queue.stopped = world.queue.stopped := by
  simp only [ReplyWorld.enqueue]
  split
  · rfl
  · exact stopped_startTimer _

theorem stopped_stop (world : ReplyWorld Item) : world.stop.queue.stopped = true := by
  simp only [ReplyWorld.stop]
  split
  · assumption
  · rfl

theorem stopped_tick (world : ReplyWorld Item) (now checkedAt notedAt : Int) :
    (world.tick now checkedAt notedAt).queue.stopped = world.queue.stopped := by
  simp only [ReplyWorld.tick]
  split
  · rfl
  · rcases (world.expireStale now).requestAir_eq now checkedAt notedAt with
      ⟨_, asked⟩ | ⟨clock, asked⟩ | ⟨air, clock, next, asked⟩
    · rw [asked]
      rfl
    · rw [asked]
      rfl
    · rw [asked]
      rfl

theorem Armed.resume (armed : before.Armed) (transmission : Transmission Item) (outcome : Outcome)
    (now : Int) : (before.resume transmission outcome now).Armed := by
  have terminal : outcome.replyStatus ≠ .pending := by
    cases outcome
    · simp [Outcome.replyStatus]
    · simp [Outcome.replyStatus]
  simp only [ReplyWorld.resume]
  split
  · rename_i left
    intro waiting
    exact absurd left.1 (Nat.pos_iff_ne_zero.mp waiting)
  · refine armed.frame rfl ?_
    rw [BotReplies.pending_resolveReplyItem _ _ _ _ terminal]
    exact List.filter_sublist

theorem stopped_resume (world : ReplyWorld Item) (transmission : Transmission Item)
    (outcome : Outcome) (now : Int) :
    (world.resume transmission outcome now).queue.stopped = world.queue.stopped := by
  simp only [ReplyWorld.resume]
  split <;> rfl

theorem transmissions_start (world : ReplyWorld Item) :
    world.start.transmissions = world.transmissions := by
  simp only [ReplyWorld.start, startTimer]
  split
  · rfl
  · split
    · split <;> rfl
    · rfl

theorem transmissions_enqueue (world : ReplyWorld Item) (item : Item) (now : Int) :
    (world.enqueue item now).transmissions = world.transmissions := by
  simp only [ReplyWorld.enqueue, startTimer]
  split
  · rfl
  · split <;> rfl

theorem transmissions_stop (world : ReplyWorld Item) :
    world.stop.transmissions = world.transmissions := by
  simp only [ReplyWorld.stop]
  split <;> rfl

theorem transmissions_resume (world : ReplyWorld Item) (transmission : Transmission Item)
    (outcome : Outcome) (now : Int) :
    (world.resume transmission outcome now).transmissions =
      world.transmissions.filter fun other =>
        other.row.item.number ≠ transmission.row.item.number := by
  simp only [ReplyWorld.resume]
  split <;> rfl

theorem resume_frame (world : ReplyWorld Item) (transmission : Transmission Item)
    (outcome : Outcome) (now : Int) :
    (world.resume transmission outcome now).rows =
        world.rows.resolveReplyItem transmission.row.id outcome.replyStatus now
          (now - transmission.row.enqueuedAt) ∧
      (world.resume transmission outcome now).dispatches = world.dispatches ∧
      (world.resume transmission outcome now).accepted = world.accepted := by
  simp only [ReplyWorld.resume]
  split
  · exact ⟨rfl, rfl, rfl⟩
  · exact ⟨rfl, rfl, rfl⟩

end ReplyWorld

namespace ReplyProcess

variable {before after : ReplyProcess Item}

theorem step_eq_some {event : ReplyEvent Item} (stepped : before.step event = some after) :
    (before.world.microtaskDue = true → event.isDispatchStart = true) ∧
      before.world.step event = some after.world ∧ after.awake = before.awakeAfter event ∧
      after.resolvedEarly = before.resolvedEarly +
        if before.world.resolvesStop event && before.world.dispatchInFlight then 1 else 0 := by
  simp only [step, Option.ite_none_left_eq_some, Option.map_eq_some_iff] at stepped
  rcases stepped with ⟨due, world, moved, rfl⟩
  refine ⟨?_, moved, rfl, rfl⟩
  intro waits
  by_contra other
  exact due ⟨waits, by simpa using other⟩

/-- What holds between the synchronous steps of every process. -/
structure Attended (process : ReplyProcess Item) : Prop where
  lawful : process.world.Lawful
  armed : process.world.queue.stopped = false → process.awake = true → process.world.Armed
  unreserved : process.world.queue.stopped = true → process.world.microtaskDue = false

theorem attended_new (ttlMs quietMs now : Int) :
    (new ttlMs quietMs now : ReplyProcess Item).Attended where
  lawful := ReplyWorld.lawful_new ttlMs quietMs now
  armed := by simp [new]
  unreserved := by simp [new, ReplyWorld.new, ReplyQueue.new]

namespace Attended

theorem armed_step (attended : before.Attended) {event : ReplyEvent Item}
    (stepped : before.step event = some after) (running : after.world.queue.stopped = false)
    (woken : after.awake = true) : after.world.Armed := by
  rcases after with ⟨world, awake, resolvedEarly⟩
  rcases step_eq_some stepped with ⟨_, moved, same, _⟩
  have armed := attended.armed
  simp only at moved same running woken ⊢
  rw [same] at woken
  cases attended.lawful.scheduled.replyStep moved with
  | start =>
      apply ReplyWorld.Armed.start
      rw [← ReplyWorld.stopped_start]
      exact running
  | enqueue =>
      apply ReplyWorld.Armed.enqueue
      rw [← ReplyWorld.stopped_enqueue]
      exact running
  | tick =>
      rw [ReplyWorld.stopped_tick] at running
      exact (armed running woken).tick _ _ _
  | tickResumes =>
      rw [ReplyWorld.stopped_resume] at running
      exact (armed running woken).resume _ _ _
  | pruneOlderThan =>
      refine (armed running woken).frame rfl ?_
      rw [BotReplies.pending_pruneOlderThan]
  | stop =>
      rw [ReplyWorld.stopped_stop] at running
      cases running
  | restart => cases woken
  | packetHeard => exact armed running woken
  | dispatchStarts => exact armed running woken
  | dispatchSettles => exact armed running woken
  | stopResolves => exact armed running woken
  | otherGranted => exact armed running woken
  | otherReleased => exact armed running woken

/-- Only a tick leaves a microtask behind, and a stopped queue has no tick. -/
theorem unreserved_step (attended : before.Attended) {event : ReplyEvent Item}
    (stepped : before.step event = some after) (stopped : after.world.queue.stopped = true) :
    after.world.microtaskDue = false := by
  rcases after with ⟨world, awake, resolvedEarly⟩
  rcases step_eq_some stepped with ⟨due, moved, _, _⟩
  simp only at moved stopped ⊢
  have settled : event.isDispatchStart = false → before.world.microtaskDue = false := by
    intro other
    by_contra waits
    rw [due (by simpa using waits)] at other
    cases other
  cases attended.lawful.scheduled.replyStep moved with
  | tick armed =>
      rw [ReplyWorld.stopped_tick] at stopped
      rw [attended.lawful.scheduled.timers, attended.lawful.scheduled.stopped stopped] at armed
      cases armed
  | dispatchStarts => rfl
  | dispatchSettles => rfl
  | tickResumes only =>
      rw [ReplyWorld.microtaskDue, ReplyWorld.transmissions_resume]
      simp [only]
  | start =>
      rw [ReplyWorld.microtaskDue, ReplyWorld.transmissions_start]
      exact settled rfl
  | enqueue =>
      rw [ReplyWorld.microtaskDue, ReplyWorld.transmissions_enqueue]
      exact settled rfl
  | stop =>
      rw [ReplyWorld.microtaskDue, ReplyWorld.transmissions_stop]
      exact settled rfl
  | pruneOlderThan => exact settled rfl
  | restart => exact settled rfl
  | packetHeard => exact settled rfl
  | stopResolves => exact settled rfl
  | otherGranted => exact settled rfl
  | otherReleased => exact settled rfl

theorem step (attended : before.Attended) {event : ReplyEvent Item}
    (stepped : before.step event = some after) : after.Attended where
  lawful := attended.lawful.step (step_eq_some stepped).2.1
  armed := attended.armed_step stepped
  unreserved := attended.unreserved_step stepped

/-- A `stop()` that is over has waited for the dispatch, unless it was not the first call. -/
theorem resolvedEarly_step (attended : before.Attended) {event : ReplyEvent Item}
    (met : stopsOnce before event) (stepped : before.step event = some after) :
    after.resolvedEarly = before.resolvedEarly := by
  rcases after with ⟨world, awake, resolvedEarly⟩
  rcases step_eq_some stepped with ⟨_, moved, _, resolved⟩
  simp only at moved resolved ⊢
  rw [resolved]
  cases event with
  | stop =>
      have single : ¬(before.world.queue.stopped = true ∧
          before.world.dispatchInFlight = true) := by
        simpa [stopsOnce, ReplyEvent.isStop] using met
      simp only [ReplyWorld.resolvesStop, Bool.and_eq_true, if_neg single, Nat.add_zero]
  | stopResolves =>
      cases attended.lawful.scheduled.replyStep moved with
      | stopResolves _ idle =>
          have unsent := attended.lawful.scheduled.unsent idle
          simp [ReplyWorld.dispatchInFlight, unsent]
  | _ => simp [ReplyWorld.resolvesStop]

theorem staysStopped (attended : before.Attended) {event : ReplyEvent Item}
    (stopped : before.world.queue.stopped = true) (remains : event.isRestart = false)
    (stepped : before.step event = some after) : before.StaysStopped after := by
  rcases after with ⟨world, awake, resolvedEarly⟩
  rcases step_eq_some stepped with ⟨_, moved, _, _⟩
  simp only at moved
  have kept : ∀ row ∈ before.world.rows, ∃ old ∈ before.world.rows, old.id = row.id :=
    fun row rowMem => ⟨row, rowMem, rfl⟩
  cases attended.lawful.scheduled.replyStep moved with
  | start =>
      have same : before.world.start = before.world := by simp [ReplyWorld.start, stopped]
      rw [same]
      exact ⟨stopped, rfl, rfl, kept⟩
  | @enqueue item now =>
      have same : before.world.enqueue item now = before.world := by
        simp [ReplyWorld.enqueue, stopped]
      rw [same]
      exact ⟨stopped, rfl, rfl, kept⟩
  | tick armed =>
      rw [attended.lawful.scheduled.timers, attended.lawful.scheduled.stopped stopped] at armed
      cases armed
  | dispatchStarts only =>
      have due := attended.unreserved stopped
      simp [ReplyWorld.microtaskDue, only, TransmissionPhase.isReserved] at due
  | tickResumes only =>
      rcases before.world.resume_frame _ _ _ with ⟨rows, dispatches, accepted⟩
      refine ⟨?_, dispatches, accepted, ?_⟩
      · rw [ReplyWorld.stopped_resume]
        exact stopped
      · rw [rows]
        intro row rowMem
        rcases BotReplies.mem_resolveReplyItem rowMem with ⟨old, _⟩ | ⟨old, oldMem, _, rfl⟩
        · exact ⟨row, old, rfl⟩
        · exact ⟨old, oldMem, rfl⟩
  | pruneOlderThan =>
      refine ⟨stopped, rfl, rfl, ?_⟩
      intro row rowMem
      exact ⟨row, List.mem_of_mem_filter rowMem, rfl⟩
  | stop =>
      have same : before.world.stop = before.world := by simp [ReplyWorld.stop, stopped]
      rw [same]
      exact ⟨stopped, rfl, rfl, kept⟩
  | restart => cases remains
  | packetHeard => exact ⟨stopped, rfl, rfl, kept⟩
  | dispatchSettles => exact ⟨stopped, rfl, rfl, kept⟩
  | stopResolves => exact ⟨stopped, rfl, rfl, kept⟩
  | otherGranted => exact ⟨stopped, rfl, rfl, kept⟩
  | otherReleased => exact ⟨stopped, rfl, rfl, kept⟩

end Attended

theorem attended_of_reachable {process : ReplyProcess Item}
    (reachable : (replyProcesses Item).ReachableWhen stopsOnce process) :
    process.Attended ∧ process.resolvedEarly = 0 := by
  apply reachable.invariant
  · rintro _ ⟨ttlMs, quietMs, now, rfl⟩
    exact ⟨attended_new ttlMs quietMs now, rfl⟩
  · rintro before event after ⟨attended, resolved⟩ met stepped
    refine ⟨attended.step stepped, ?_⟩
    rw [attended.resolvedEarly_step met stepped]
    exact resolved

theorem Attended.noLostWakeup {process : ReplyProcess Item} (attended : process.Attended)
    (resolved : process.resolvedEarly = 0) : process.NoLostWakeup := by
  have timers := attended.lawful.scheduled.timers
  refine ⟨?_, ?_, ?_, resolved⟩
  · intro running awake waiting
    rcases Option.ne_none_iff_exists'.mp (attended.armed running awake waiting) with
      ⟨timer, armed⟩
    exact ⟨timer, armed, by rw [timers, armed]; rfl⟩
  · rw [timers]
    exact Option.length_toList_le
  · intro stopped
    have disarmed := attended.lawful.scheduled.stopped stopped
    exact ⟨disarmed, by rw [timers, disarmed]; rfl⟩

/-- In every run in which `stop()` is not called again while a dispatch is in flight, a pending
reply has an armed timer, there is never a second one, and a stopped queue rests. -/
theorem no_lost_wakeup {process : ReplyProcess Item}
    (reachable : (replyProcesses Item).ReachableWhen stopsOnce process) :
    process.NoLostWakeup ∧ ∀ event after, process.step event = some after →
      process.world.queue.stopped = true → event.isRestart = false →
        process.StaysStopped after := by
  rcases attended_of_reachable reachable with ⟨attended, resolved⟩
  refine ⟨attended.noLostWakeup resolved, ?_⟩
  intro event after stepped stopped remains
  exact attended.staysStopped stopped remains stepped

theorem no_lost_wakeup_of_one :
    NoLostWakeup (((replyProcesses Nat).run stopsOnce (.new 60 10 0)
      [.start, .enqueue 7 5, .tick 0 15 15 15, .dispatchStarts 0, .enqueue 8 16, .stop,
        .dispatchSettles 0 .resolved, .tickResumes 0 20, .stopResolves, .stop]).get rfl) := by
  refine (no_lost_wakeup ?_).1
  refine EventSystem.reachableWhen_get ?_ _
  exact ⟨60, 10, 0, rfl⟩

/-- The second of two `stop()` calls resolves while the dispatch of the first reply is in
flight. -/
theorem stop_resolves_early :
    ¬∀ process : ReplyProcess Nat, (replyProcesses Nat).Reachable process →
      process.NoLostWakeup := by
  intro always
  have reachable : (replyProcesses Nat).Reachable
      (((replyProcesses Nat).run EventSystem.anyStep (.new 60 10 0)
        [.start, .enqueue 7 5, .tick 0 15 15 15, .dispatchStarts 0, .stop, .stop]).get rfl) := by
    refine EventSystem.reachableWhen_get ?_ _
    exact ⟨60, 10, 0, rfl⟩
  have resolved := (always _ reachable).resolved
  revert resolved
  decide

end ReplyProcess

end MeshcoreObserver
