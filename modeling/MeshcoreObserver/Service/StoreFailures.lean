import MeshcoreObserver.Bots.ReplyStoreFaults
import MeshcoreObserver.Metrics.PersistedMetrics
import MeshcoreObserver.Radio.FloodAdvertScheduler
import MeshcoreObserver.Radio.RadioManager

/-!
# Store failures

The three background users of the store in one process: the ticks of the reply
queue, the ticks of the sampler, and the listener of the flood advert scheduler
that `RadioManager` calls when it emits `radio.connected`. Any call of the store
may throw at any invocation. Some of the calls are caught where they are made.
An error of the others leaves its callback: it rejects the promise of the tick,
is thrown out of the interval callback of the sampler, or reaches the `catch`
block of the connect procedure, which closes the connection.

The components share the store, the air and the radio. What one of them does to
another's table or to the air is any event of that other; only the emission of
`radio.connected` is shared step by step. The other listeners of it return.
-/

namespace MeshcoreObserver

open Transition

universe u

variable {Item : Type u}

/-- The calls that throw in the listener of `radio.connected`. -/
structure ListenerFaults where
  getFloodAdvertState : Bool
  requestFloodAdvert : Bool
  deriving DecidableEq, Repr

/-- The listener of `radio.connected` over a failing store, with whether it throws; `status` is
what the row says. -/
def AdvertProcess.faultyOnConnected (process : AdvertProcess) (status : AdvertStatus)
    (faults : ListenerFaults) : AdvertProcess × Bool :=
  if process.startupRequested then ({ process with connected := true, timer := true }, false)
  else
    let requested := { process with connected := true, startupRequested := true }
    if faults.getFloodAdvertState || (status ≠ .pending && faults.requestFloodAdvert) then
      (requested, true)
    else ({ requested with timer := true }, false)

/-- The connection whose `radio.connected` is emitted when the running command settles. -/
def RadioWorld.connecting (world : RadioWorld) : Option Nat :=
  world.commands.running.bind fun command =>
    match command.purpose with
    | .deviceQuery _ => some command.connection
    | _ => none

/-- One process: the reply queue with the ends of its ticks, the sampler with how often it threw,
the scheduler with how often its listener threw, and the radio with the connections it closed
while it emitted `radio.connected`. -/
structure ServiceWorld (Item : Type u) where
  replies : ReplyWorld Item
  tickEnds : List TickEnd
  metrics : MetricsWorld
  samplerThrows : Nat
  scheduler : AdvertProcess
  radio : RadioWorld
  listenerThrows : Nat
  closedAtEmission : List Nat
  deriving DecidableEq, Repr

inductive ServiceEvent (Item : Type u) where
  | replies (event : ReplyEvent Item)
  | replyTick (timer : Nat) (now checkedAt notedAt : Int) (faults : TickFaults)
  | replyTickResumes (number : Nat) (now : Int) (faults : ResumeFaults)
  | counts (event : MetricsEvent)
  | samplerTick (gauges : Gauges) (sampleAt now : Int) (persists prunes countThrows : Bool)
  | schedulerStops
  | radio (event : RadioEvent)
  | radioConnects (outcome : Outcome) (behind : Bool) (status : AdvertStatus)
      (faults : ListenerFaults)
  deriving DecidableEq, Repr

def ReplyEvent.isTick : ReplyEvent Item → Bool
  | .tick _ _ _ _ => true
  | .tickResumes _ _ => true
  | _ => false

def MetricsEvent.isTick : MetricsEvent → Bool
  | .tick _ _ _ _ _ => true
  | _ => false

def RadioEvent.isSettling : RadioEvent → Bool
  | .commandSettles _ _ _ => true
  | _ => false

namespace ServiceWorld

def replyTick (world : ServiceWorld Item) (timer : Nat) (now checkedAt notedAt : Int)
    (faults : TickFaults) : Option (ServiceWorld Item) :=
  if timer ∈ world.replies.intervals ∧ world.replies.clock ≤ now ∧ now ≤ checkedAt ∧
      checkedAt ≤ notedAt then
    some
      (if world.replies.queue.sending then world
      else
        let ticked := world.replies.faultyTick now checkedAt notedAt faults
        { world with
          replies := ticked.1
          tickEnds := world.tickEnds ++ ticked.2.toList })
  else none

def replyTickResumes (world : ServiceWorld Item) (number : Nat) (now : Int)
    (faults : ResumeFaults) : Option (ServiceWorld Item) :=
  match world.replies.transmissions.find? fun transmission =>
      transmission.row.item.number = number with
  | some ⟨row, tickedAt, .settled outcome⟩ =>
      if world.replies.clock ≤ now then
        let resumed :=
          world.replies.faultyResume ⟨row, tickedAt, .settled outcome⟩ outcome now faults
        some
          { world with
            replies := resumed.1
            tickEnds := world.tickEnds ++ [resumed.2] }
      else none
  | _ => none

/-- `#tick()` of the sampler. Its snapshot asks the reply queue for its size. -/
def samplerTick (world : ServiceWorld Item) (gauges : Gauges) (sampleAt now : Int)
    (persists prunes countThrows : Bool) : ServiceWorld Item :=
  if countThrows then { world with samplerThrows := world.samplerThrows + 1 }
  else
    let size := world.replies.rows.countPendingReplyItems
    { world with
      metrics :=
        world.metrics.tick { gauges with replyQueueSize := size } sampleAt now persists prunes }

/-- The emission of `radio.connected`, with the listener of the scheduler. -/
def radioConnects (world : ServiceWorld Item) (outcome : Outcome) (behind : Bool)
    (status : AdvertStatus) (faults : ListenerFaults) : Option (ServiceWorld Item) :=
  if world.radio.connecting.isSome then
    let heard :=
      if world.scheduler.running then world.scheduler.faultyOnConnected status faults
      else (world.scheduler, false)
    let listeners := if heard.2 then Listeners.throw true else .finish
    (world.radio.step (.commandSettles outcome behind listeners)).map fun radio =>
      { world with
        scheduler := heard.1
        radio
        listenerThrows := if heard.2 then world.listenerThrows + 1 else world.listenerThrows
        closedAtEmission :=
          radio.closed.take (radio.closed.length - world.radio.closed.length) ++
            world.closedAtEmission }
  else none

def step (world : ServiceWorld Item) : ServiceEvent Item → Option (ServiceWorld Item)
  | .replies event =>
      if event.isTick then none
      else (world.replies.step event).map fun replies => { world with replies }
  | .replyTick timer now checkedAt notedAt faults =>
      world.replyTick timer now checkedAt notedAt faults
  | .replyTickResumes number now faults => world.replyTickResumes number now faults
  | .counts event =>
      if event.isTick then none else some { world with metrics := world.metrics.step event }
  | .samplerTick gauges sampleAt now persists prunes countThrows =>
      some (world.samplerTick gauges sampleAt now persists prunes countThrows)
  | .schedulerStops => some { world with scheduler := AdvertWorld.stop world.scheduler }
  | .radio event =>
      if event.isSettling && world.radio.connecting.isSome then none
      else (world.radio.step event).map fun radio => { world with radio }
  | .radioConnects outcome behind status faults => world.radioConnects outcome behind status faults

end ServiceWorld

/-- The scheduler of a process once its `start()` has returned. -/
def AdvertProcess.started : AdvertProcess :=
  { number := 0, running := true, connected := false, timer := true, startupRequested := false
    tick := none }

/-- Every run of one process. -/
def serviceSystem (Item : Type u) : EventSystem (ServiceWorld Item) (ServiceEvent Item) where
  Initial world := ∃ replies metrics config,
    (replySystem Item).Initial replies ∧ metricsSystem.Initial metrics ∧
      world =
        { replies, tickEnds := [], metrics, samplerThrows := 0, scheduler := .started
          radio := .new config, listenerThrows := 0, closedAtEmission := [] }
  step := ServiceWorld.step

namespace ServiceWorld

variable {world after : ServiceWorld Item}

/-- No store error has left a callback, every tick of the reply queue has left it able to go on,
and no connection was closed while its `radio.connected` was emitted. -/
structure Contains (world : ServiceWorld Item) : Prop where
  ticks : ∀ tickEnd ∈ world.tickEnds, ReplyWorld.Tidy tickEnd ∧ tickEnd.rejected = false
  sampler : world.samplerThrows = 0
  listener : world.listenerThrows = 0
  radio : world.closedAtEmission = []

/-- The calls of the store that are not caught return. -/
def Guarded (world : ServiceWorld Item) : ServiceEvent Item → Prop
  | .replyTick _ now checkedAt notedAt faults =>
      world.replies.queue.sending = true ∨
        (world.replies.meetsFault now faults = false ∧
          world.replies.meetsRecount now checkedAt notedAt faults = false)
  | .replyTickResumes _ _ faults => faults.countPending = false
  | .samplerTick _ _ _ _ _ countThrows => countThrows = false
  | .radioConnects _ _ status faults =>
      world.scheduler.running = true → world.scheduler.startupRequested = false →
        faults.getFloodAdvertState = false ∧
          (status ≠ .pending → faults.requestFloodAdvert = false)
  | _ => True

instance (world : ServiceWorld Item) :
    (event : ServiceEvent Item) → Decidable (Guarded world event)
  | .replyTick _ _ _ _ _ => inferInstanceAs (Decidable (_ ∨ _))
  | .replyTickResumes _ _ _ => inferInstanceAs (Decidable (_ = _))
  | .samplerTick _ _ _ _ _ _ => inferInstanceAs (Decidable (_ = _))
  | .radioConnects _ _ _ _ => inferInstanceAs (Decidable (_ → _))
  | .replies _ => isTrue trivial
  | .counts _ => isTrue trivial
  | .schedulerStops => isTrue trivial
  | .radio _ => isTrue trivial

theorem closed_of_emission {radio next : RadioWorld} {outcome : Outcome} {behind : Bool}
    {listeners : Listeners} (connects : radio.connecting.isSome)
    (stepped : radio.step (.commandSettles outcome behind listeners) = some next) :
    ∃ connection, next.closed =
      match listeners with
      | .finish => radio.closed
      | .throw _ => connection :: radio.closed := by
  rcases Option.isSome_iff_exists.mp connects with ⟨connection, connecting⟩
  rcases Option.bind_eq_some_iff.mp connecting with ⟨command, running, purpose⟩
  simp only [RadioWorld.step, running, Option.map_some, Option.some.injEq] at stepped
  subst next
  refine ⟨command.connection, ?_⟩
  cases kind : command.purpose with
  | deviceQuery number =>
      simp only [RadioWorld.continueWith, kind]
      cases outcome with
      | resolved =>
          cases listeners with
          | finish => rfl
          | throw called => rfl
      | rejected =>
          cases listeners with
          | finish => rfl
          | throw called => rfl
  | getSelfInfo number => simp only [kind, reduceCtorEq] at purpose
  | getDeviceTime number => simp only [kind, reduceCtorEq] at purpose
  | setDeviceTime number => simp only [kind, reduceCtorEq] at purpose
  | runCommand => simp only [kind, reduceCtorEq] at purpose

theorem faultyOnConnected_throws (process : AdvertProcess) (status : AdvertStatus)
    (faults : ListenerFaults) :
    (process.faultyOnConnected status faults).2 = false ↔
      (process.startupRequested = false → faults.getFloodAdvertState = false ∧
        (status ≠ .pending → faults.requestFloodAdvert = false)) := by
  rw [AdvertProcess.faultyOnConnected]
  split
  · rename_i requested
    simp only [requested, Bool.true_eq_false, false_implies]
  · rename_i fresh
    rw [Bool.not_eq_true] at fresh
    simp only [fresh, true_implies]
    cases faults.getFloodAdvertState with
    | true => simp only [Bool.true_or, if_true, Bool.true_eq_false, false_and]
    | false =>
        simp only [Bool.false_or, true_and, Bool.and_eq_true, decide_eq_true_eq]
        split
        · rename_i throws
          simp only [throws.1, throws.2, ne_eq, not_false_eq_true, Bool.true_eq_false, imp_false,
            not_true_eq_false]
        · rename_i returns
          simp only [true_iff]
          intro unpending
          exact Bool.not_eq_true _ ▸ fun request => returns ⟨unpending, request⟩

/-- What an emission does: nothing but the listener's own changes, or one more error and one more
connection closed. -/
theorem radioConnects_eq_some {outcome : Outcome} {behind : Bool} {status : AdvertStatus}
    {faults : ListenerFaults}
    (connects : world.radioConnects outcome behind status faults = some after) :
    after.replies = world.replies ∧ after.tickEnds = world.tickEnds ∧
      after.samplerThrows = world.samplerThrows ∧
      ((Guarded world (.radioConnects outcome behind status faults) ∧
          after.listenerThrows = world.listenerThrows ∧
          after.closedAtEmission = world.closedAtEmission) ∨
        (¬Guarded world (.radioConnects outcome behind status faults) ∧
          after.listenerThrows = world.listenerThrows + 1 ∧
          ∃ connection, after.closedAtEmission = connection :: world.closedAtEmission)) := by
  rw [radioConnects, Option.ite_none_right_eq_some] at connects
  rcases connects with ⟨connecting, connects⟩
  rcases Option.map_eq_some_iff.mp connects with ⟨radio, stepped, rfl⟩
  rcases closed_of_emission connecting stepped with ⟨connection, closed⟩
  refine ⟨rfl, rfl, rfl, ?_⟩
  have guarded : Guarded world (.radioConnects outcome behind status faults) ↔
      (if world.scheduler.running then world.scheduler.faultyOnConnected status faults
        else (world.scheduler, false)).2 = false := by
    simp only [Guarded]
    split
    · rename_i running
      simp only [running, true_implies]
      exact (faultyOnConnected_throws world.scheduler status faults).symm
    · rename_i idle
      rw [Bool.not_eq_true] at idle
      simp only [idle, Bool.false_eq_true, false_implies]
  cases throws : (if world.scheduler.running then
      world.scheduler.faultyOnConnected status faults else (world.scheduler, false)).2 with
  | false =>
      left
      refine ⟨guarded.mpr throws, ?_, ?_⟩
      · simp only [Bool.false_eq_true, if_false]
      · simp only [throws, Bool.false_eq_true, if_false] at closed
        simp only [closed, Nat.sub_self, List.take_zero, List.nil_append]
  | true =>
      right
      refine ⟨?_, ?_, connection, ?_⟩
      · rw [guarded, throws]
        simp only [Bool.true_eq_false, not_false_eq_true]
      · simp only [if_true]
      · simp only [throws, if_true] at closed
        simp only [closed, List.length_cons, Nat.add_sub_cancel_left, List.take_succ_cons,
          List.take_zero, List.cons_append, List.nil_append]

theorem replyTick_eq_some (polling : world.replies.Polling) {timer : Nat}
    {now checkedAt notedAt : Int} {faults : TickFaults}
    (ticks : world.replyTick timer now checkedAt notedAt faults = some after) :
    after.replies.Polling ∧
      ∃ ends, after = { world with replies := after.replies, tickEnds := world.tickEnds ++ ends } ∧
        (∀ tickEnd ∈ ends, ReplyWorld.Tidy tickEnd) ∧
        ((∀ tickEnd ∈ ends, tickEnd.rejected = false) ↔
          Guarded world (.replyTick timer now checkedAt notedAt faults)) := by
  rw [replyTick, Option.ite_none_right_eq_some, Option.some.injEq] at ticks
  rcases ticks with ⟨⟨fires, _⟩, rfl⟩
  rw [polling.scheduled.timers, Option.mem_toList] at fires
  have armed : world.replies.queue.timer ≠ none := by
    rw [fires]
    simp only [ne_eq, reduceCtorEq, not_false_eq_true]
  have running : world.replies.queue.stopped = false := by
    cases stopped : world.replies.queue.stopped with
    | false => rfl
    | true => exact absurd (polling.scheduled.stopped stopped) armed
  cases sending : world.replies.queue.sending with
  | true =>
      simp only [if_true]
      refine ⟨polling, [], ?_, fun tickEnd ended => absurd ended List.not_mem_nil, ?_⟩
      · rw [List.append_nil]
      · exact iff_of_true (fun tickEnd ended => absurd ended List.not_mem_nil) (.inl sending)
  | false =>
      simp only [Bool.false_eq_true, if_false]
      cases meets : world.replies.meetsFault now faults with
      | true =>
          rcases polling.tick_of_fault sending armed meets checkedAt notedAt with
            ⟨kept, tickEnd, ended, tidy, rejected⟩
          refine ⟨kept, _, rfl, ?_⟩
          simp only [ended, Option.toList_some, List.mem_singleton, forall_eq, tidy, rejected,
            Guarded, sending, meets, Bool.true_eq_false, Bool.false_eq_true, false_and, or_self,
            true_and]
      | false =>
          rcases polling.tick_of_calm sending running armed meets checkedAt notedAt with
            ⟨kept, tidy⟩
          refine ⟨kept, _, rfl, fun tickEnd ended => ?_, ?_⟩
          · exact tidy tickEnd (Option.mem_toList.mp ended)
          · simp only [Option.mem_toList, Guarded, sending, meets, Bool.false_eq_true, false_or,
              true_and]
            exact ReplyWorld.faultyTick_rejected_iff sending meets checkedAt notedAt

theorem replyTickResumes_eq_some (polling : world.replies.Polling) {number : Nat} {now : Int}
    {faults : ResumeFaults} (resumes : world.replyTickResumes number now faults = some after) :
    after.replies.Polling ∧
      ∃ tickEnd, after =
          { world with replies := after.replies, tickEnds := world.tickEnds ++ [tickEnd] } ∧
        ReplyWorld.Tidy tickEnd ∧ tickEnd.rejected = faults.countPending := by
  simp only [replyTickResumes] at resumes
  split at resumes
  · rename_i row tickedAt outcome found
    rw [Option.ite_none_right_eq_some, Option.some.injEq] at resumes
    rcases resumes with ⟨_, rfl⟩
    rcases polling.faultyResume (polling.scheduled.of_find found) outcome now faults with
      ⟨kept, tidy, rejected⟩
    exact ⟨kept, _, rfl, tidy, rejected⟩
  · cases resumes

theorem Contains.frame (contains : Contains world) (tickEnds : after.tickEnds = world.tickEnds)
    (samplerThrows : after.samplerThrows = world.samplerThrows)
    (listenerThrows : after.listenerThrows = world.listenerThrows)
    (closed : after.closedAtEmission = world.closedAtEmission) : Contains after where
  ticks := by
    rw [tickEnds]
    exact contains.ticks
  sampler := samplerThrows.trans contains.sampler
  listener := listenerThrows.trans contains.listener
  radio := closed.trans contains.radio

theorem Contains.tickEnds_iff {replies : ReplyWorld Item} {ends : List TickEnd}
    (contains : Contains world) (tidy : ∀ tickEnd ∈ ends, ReplyWorld.Tidy tickEnd) :
    Contains { world with replies, tickEnds := world.tickEnds ++ ends } ↔
      ∀ tickEnd ∈ ends, tickEnd.rejected = false := by
  constructor
  · intro contained tickEnd ended
    exact (contained.ticks tickEnd (List.mem_append_right _ ended)).2
  · intro returns
    refine { contains with ticks := fun tickEnd tickEndMem => ?_ }
    rcases List.mem_append.mp tickEndMem with earlier | last
    · exact contains.ticks tickEnd earlier
    · exact ⟨tidy tickEnd last, returns tickEnd last⟩

/-- What any step does to the reply queue. -/
theorem polling_step {event : ServiceEvent Item} (polling : world.replies.Polling)
    (stepped : world.step event = some after) :
    after.replies.Polling ∧ ∃ ends, after.tickEnds = world.tickEnds ++ ends ∧
      ∀ tickEnd ∈ ends, ReplyWorld.Tidy tickEnd := by
  have silent : ∀ other : ServiceWorld Item, other.replies.Polling →
      other.tickEnds = world.tickEnds → other.replies.Polling ∧
        ∃ ends, other.tickEnds = world.tickEnds ++ ends ∧
          ∀ tickEnd ∈ ends, ReplyWorld.Tidy tickEnd := by
    intro other kept same
    exact ⟨kept, [], by rw [same, List.append_nil], fun _ ended => absurd ended List.not_mem_nil⟩
  cases event with
  | replies event =>
      simp only [step, Option.ite_none_left_eq_some, Option.map_eq_some_iff] at stepped
      rcases stepped with ⟨untimed, replies, moved, rfl⟩
      refine silent _ (polling.step ?_ ?_ moved) rfl
      · rintro timer now checkedAt notedAt rfl
        exact untimed rfl
      · rintro number now rfl
        exact untimed rfl
  | replyTick timer now checkedAt notedAt faults =>
      rcases replyTick_eq_some polling stepped with ⟨kept, ends, left, tidy, _⟩
      exact ⟨kept, ends, by rw [left], tidy⟩
  | replyTickResumes number now faults =>
      rcases replyTickResumes_eq_some polling stepped with ⟨kept, tickEnd, left, tidy, _⟩
      refine ⟨kept, [tickEnd], by rw [left], fun other last => ?_⟩
      rw [List.mem_singleton.mp last]
      exact tidy
  | counts event =>
      simp only [step, Option.ite_none_left_eq_some, Option.some.injEq] at stepped
      rcases stepped with ⟨_, rfl⟩
      exact silent _ polling rfl
  | samplerTick gauges sampleAt now persists prunes countThrows =>
      simp only [step, Option.some.injEq] at stepped
      subst after
      cases countThrows with
      | true => exact silent _ polling rfl
      | false => exact silent _ polling rfl
  | schedulerStops =>
      simp only [step, Option.some.injEq] at stepped
      subst after
      exact silent _ polling rfl
  | radio event =>
      simp only [step, Option.ite_none_left_eq_some, Option.map_eq_some_iff] at stepped
      rcases stepped with ⟨_, radio, _, rfl⟩
      exact silent _ polling rfl
  | radioConnects outcome behind status faults =>
      rcases radioConnects_eq_some stepped with ⟨replies, tickEnds, _⟩
      rw [← replies] at polling
      exact silent _ polling tickEnds

/-- A step keeps every error of the store from its callback exactly when the calls that are not
caught return. -/
theorem Contains.step_iff {event : ServiceEvent Item} (contains : Contains world)
    (polling : world.replies.Polling) (stepped : world.step event = some after) :
    Contains after ↔ Guarded world event := by
  cases event with
  | replies event =>
      simp only [step, Option.ite_none_left_eq_some, Option.map_eq_some_iff] at stepped
      rcases stepped with ⟨_, replies, _, rfl⟩
      exact iff_of_true (contains.frame rfl rfl rfl rfl) trivial
  | replyTick timer now checkedAt notedAt faults =>
      rcases replyTick_eq_some polling stepped with ⟨_, ends, left, tidy, returns⟩
      rw [left, contains.tickEnds_iff tidy]
      exact returns
  | replyTickResumes number now faults =>
      rcases replyTickResumes_eq_some polling stepped with ⟨_, tickEnd, left, tidy, rejected⟩
      rw [left, contains.tickEnds_iff fun other last => List.mem_singleton.mp last ▸ tidy]
      simp only [List.mem_singleton, forall_eq, rejected, Guarded]
  | counts event =>
      simp only [step, Option.ite_none_left_eq_some, Option.some.injEq] at stepped
      rcases stepped with ⟨_, rfl⟩
      exact iff_of_true (contains.frame rfl rfl rfl rfl) trivial
  | samplerTick gauges sampleAt now persists prunes countThrows =>
      simp only [step, Option.some.injEq] at stepped
      subst after
      cases countThrows with
      | true =>
          refine iff_of_false (fun contained => ?_) Bool.true_eq_false.mp
          exact absurd contained.sampler (Nat.succ_ne_zero _)
      | false => exact iff_of_true (contains.frame rfl rfl rfl rfl) rfl
  | schedulerStops =>
      simp only [step, Option.some.injEq] at stepped
      subst after
      exact iff_of_true (contains.frame rfl rfl rfl rfl) trivial
  | radio event =>
      simp only [step, Option.ite_none_left_eq_some, Option.map_eq_some_iff] at stepped
      rcases stepped with ⟨_, radio, _, rfl⟩
      exact iff_of_true (contains.frame rfl rfl rfl rfl) trivial
  | radioConnects outcome behind status faults =>
      rcases radioConnects_eq_some stepped with ⟨_, tickEnds, samplerThrows,
        ⟨guarded, listenerThrows, closed⟩ | ⟨unguarded, listenerThrows, _⟩⟩
      · exact iff_of_true (contains.frame tickEnds samplerThrows listenerThrows closed)
          guarded
      · refine iff_of_false (fun contained => ?_) unguarded
        rw [contained.listener] at listenerThrows
        exact absurd listenerThrows.symm (Nat.succ_ne_zero _)

theorem polling_of_initial (starts : (serviceSystem Item).Initial world) :
    world.replies.Polling ∧ Contains world := by
  rcases starts with ⟨replies, metrics, config, ⟨ttlMs, quietMs, now, rfl⟩, _, rfl⟩
  refine ⟨⟨(ReplyWorld.lawful_new ttlMs quietMs now).scheduled, fun sent => absurd rfl sent⟩, ?_⟩
  exact ⟨fun tickEnd ended => absurd ended List.not_mem_nil, rfl, rfl, rfl⟩

/-- Whichever calls throw, no tick leaves the queue unable to go on. -/
theorem tidy_of_reachable (reachable : (serviceSystem Item).Reachable world) :
    ∀ tickEnd ∈ world.tickEnds, ReplyWorld.Tidy tickEnd := by
  have initially : ∀ world, (serviceSystem Item).Initial world →
      world.replies.Polling ∧ ∀ tickEnd ∈ world.tickEnds, ReplyWorld.Tidy tickEnd := by
    intro world starts
    rcases polling_of_initial starts with ⟨polling, contains⟩
    exact ⟨polling, fun tickEnd ended => (contains.ticks tickEnd ended).1⟩
  refine (reachable.invariant initially ?_).2
  intro before event after kept _ stepped
  rcases polling_step kept.1 stepped with ⟨polling, ends, left, tidy⟩
  refine ⟨polling, fun tickEnd tickEndMem => ?_⟩
  rw [left] at tickEndMem
  rcases List.mem_append.mp tickEndMem with earlier | last
  · exact kept.2 tickEnd earlier
  · exact tidy tickEnd last

/-- In a run whose uncaught calls of the store return, no error of the store leaves a callback,
whichever other calls throw; and the first uncaught call that throws breaks this. -/
theorem contains_of_guarded (reachable : (serviceSystem Item).ReachableWhen Guarded world) :
    Contains world ∧
      ∀ event after, world.step event = some after → (Contains after ↔ Guarded world event) := by
  have held : world.replies.Polling ∧ Contains world := by
    refine reachable.invariant (fun world starts => polling_of_initial starts) ?_
    intro before event after kept guarded stepped
    exact ⟨(polling_step kept.1 stepped).1, (kept.2.step_iff kept.1 stepped).mpr guarded⟩
  exact ⟨held.2, fun event after stepped => held.2.step_iff held.1 stepped⟩

def newService : ServiceWorld Nat :=
  { replies := .new 60 10 0, tickEnds := [], metrics := .new ["a"] 10000 30 []
    samplerThrows := 0, scheduler := .started, radio := .new ⟨0, 1, 8⟩, listenerThrows := 0
    closedAtEmission := [] }

theorem initial_newService : (serviceSystem Nat).Initial newService :=
  ⟨_, _, _, ⟨60, 10, 0, rfl⟩, MetricsWorld.initial_new ["a"] (List.nodup_singleton "a") 10000 30,
    rfl⟩

/-- A radio about to emit `radio.connected`. -/
def connecting : List (ServiceEvent Nat) :=
  [.radio .start, .radio (.transportOpens 0), .radio .commandStarts,
    .radio (.commandSettles .resolved false .finish), .radio .commandStarts,
    .radio (.commandSettles .resolved false .finish), .radio .commandStarts]

/-- Every call that is caught throws once, and two others when they are not called: the one of the
`finally` block in a tick that is granted the air, and `requestFloodAdvert`. -/
def caughtFaults : List (ServiceEvent Nat) :=
  [.replies .start, .replies (.enqueue 7 0), .replyTick 0 5 5 5 ReplyWorld.noTickFaults,
    .replyTick 0 20 20 20 ⟨false, false, false, false, true⟩,
    .replies (.dispatchStarts 0), .replies (.dispatchSettles 0 .resolved),
    .replyTickResumes 0 30 ⟨true, false⟩,
    .samplerTick MetricsWorld.someGauges 10000 10000 false false false] ++ connecting ++
    [.radioConnects .resolved false .pending ⟨false, true⟩]

theorem caughtFaults_ran :
    ((serviceSystem Nat).run Guarded newService caughtFaults).isSome := by
  decide +kernel

theorem contains_of_caughtFaults :
    Contains (((serviceSystem Nat).run Guarded newService caughtFaults).get caughtFaults_ran) :=
  (contains_of_guarded (EventSystem.reachableWhen_get initial_newService caughtFaults_ran)).1

/-- One call that is not caught throws in each of the three callbacks, and in the tick that is
refused the air as well. -/
def uncaughtFaults : List (ServiceEvent Nat) :=
  [.replies .start, .replies (.enqueue 7 0), .replyTick 0 5 5 5 ⟨false, false, false, false, true⟩,
    .replyTick 0 20 20 20 ⟨true, false, false, false, false⟩,
    .samplerTick MetricsWorld.someGauges 10000 10000 true true true] ++ connecting ++
    [.radioConnects .resolved false .idle ⟨true, false⟩]

theorem uncaughtFaults_ran :
    ((serviceSystem Nat).run EventSystem.anyStep newService uncaughtFaults).isSome := by
  decide +kernel

/-- The promises of two ticks are rejected, the sampler throws, and a working connection is
closed. -/
theorem faults_escape :
    ∃ world, (serviceSystem Nat).Reachable world ∧ ¬Contains world ∧
      world.tickEnds.map TickEnd.rejected = [true, true] ∧ world.samplerThrows = 1 ∧
        world.listenerThrows = 1 ∧ world.closedAtEmission = [0] := by
  refine ⟨_, EventSystem.reachableWhen_get initial_newService uncaughtFaults_ran, ?_, ?_⟩
  · intro contains
    have sampler := contains.sampler
    revert sampler
    decide +kernel
  · decide +kernel

end ServiceWorld

end MeshcoreObserver
