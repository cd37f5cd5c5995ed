import MeshcoreObserver.Mqtt.MqttBroker

/-!
# The token refresh loop

A broker whose tokens are refreshed, from the first connection of the radio to
the end of `shutdown()`. A tick of the loop that finds the token close to its
expiry starts a chain: refresh the token, close the broker, connect it again.
Stopping the loop clears its timer and nothing else, so a chain in flight goes
on: it closes the broker and connects it again, also after `closeAll()`.
-/

namespace MeshcoreObserver

open Transition

inductive LoopTimer where
  | notStarted
  | running
  | cleared
  deriving DecidableEq, Repr

/-- How far a refresh has come: `closing` holds the number of the `close()` it waits for. -/
inductive RefreshStage where
  | refreshing
  | closing (number : Nat)
  | finished
  deriving DecidableEq, Repr

inductive BrokerCall where
  | close
  | connect
  deriving DecidableEq, Repr

/-- The loop and its broker. `callsAfterStop` are the calls of the loop since it was stopped,
`clientsAtCloseAll` the number of clients created before `closeAll()`. -/
structure TokenRefreshWorld where
  broker : BrokerWorld
  timer : LoopTimer
  refreshes : List RefreshStage
  loopsStopped : Bool
  callsAfterStop : List BrokerCall
  clientsAtCloseAll : Option Nat
  deriving DecidableEq, Repr

inductive TokenRefreshEvent where
  | radioConnected
  | tick (expiresAt : Option Int) (now : Int)
  | refreshSettles (number : Nat) (resolved : Bool)
  | refreshCloses (number : Nat)
  | stop
  | closeAll
  | brokerMoves (event : BrokerEvent)
  deriving DecidableEq, Repr

/-- `connect` and `close`, which the broker does not do by itself. -/
def BrokerEvent.isCall : BrokerEvent → Bool
  | .connect => true
  | .close => true
  | _ => false

def refreshDue (thresholdSeconds : Int) (expiresAt : Option Int) (now : Int) : Bool :=
  match expiresAt with
  | none => false
  | some expiresAt => !decide (now / 1000 < expiresAt - thresholdSeconds)

namespace TokenRefreshWorld

def new (enabled : Bool) : TokenRefreshWorld :=
  { broker := .new enabled
    timer := .notStarted
    refreshes := []
    loopsStopped := false
    callsAfterStop := []
    clientsAtCloseAll := none }

/-- The first `radio.connected`: `connectAll` and the start of the loop. -/
def radioConnected (world : TokenRefreshWorld) : TokenRefreshWorld :=
  if world.timer = .notStarted then
    { world with broker := world.broker.connect, timer := .running }
  else world

def tick (thresholdSeconds : Int) (world : TokenRefreshWorld) (expiresAt : Option Int)
    (now : Int) : Option TokenRefreshWorld :=
  if world.timer = .running then
    some
      (if refreshDue thresholdSeconds expiresAt now then
        { world with refreshes := world.refreshes ++ [.refreshing] }
      else world)
  else none

def callsWith (world : TokenRefreshWorld) (call : BrokerCall) : List BrokerCall :=
  if world.timer = .cleared then world.callsAfterStop ++ [call] else world.callsAfterStop

def refreshSettles (world : TokenRefreshWorld) (number : Nat) (resolved : Bool) :
    Option TokenRefreshWorld :=
  if world.refreshes[number]? = some .refreshing then
    some
      (if resolved then
        { world with
          broker := world.broker.close
          refreshes := world.refreshes.set number (.closing world.broker.closes.length)
          callsAfterStop := world.callsWith .close }
      else { world with refreshes := world.refreshes.set number .finished })
  else none

/-- The rest of a refresh, once its `close()` has returned. -/
def refreshCloses (world : TokenRefreshWorld) (number : Nat) : Option TokenRefreshWorld :=
  match world.refreshes[number]? with
  | some (.closing close) =>
      if world.broker.closes[close]?.any BrokerClose.done then
        some
          { world with
            broker := world.broker.connect
            refreshes := world.refreshes.set number .finished
            callsAfterStop := world.callsWith .connect }
      else none
  | _ => none

def stop (world : TokenRefreshWorld) : TokenRefreshWorld :=
  { world with
    timer := if world.timer = .running then .cleared else world.timer
    loopsStopped := true }

/-- `mqttManager.closeAll()`, which `shutdown()` calls once, after it has stopped the loops. -/
def closeAll (world : TokenRefreshWorld) : Option TokenRefreshWorld :=
  if world.loopsStopped && world.clientsAtCloseAll.isNone then
    some
      { world with
        broker := world.broker.close
        clientsAtCloseAll := some world.broker.clients.length }
  else none

def brokerMoves (world : TokenRefreshWorld) (event : BrokerEvent) : Option TokenRefreshWorld :=
  if event.isCall then none
  else (world.broker.step event).map fun broker => { world with broker }

def step (thresholdSeconds : Int) (world : TokenRefreshWorld) :
    TokenRefreshEvent → Option TokenRefreshWorld
  | .radioConnected => some world.radioConnected
  | .tick expiresAt now => world.tick thresholdSeconds expiresAt now
  | .refreshSettles number resolved => world.refreshSettles number resolved
  | .refreshCloses number => world.refreshCloses number
  | .stop => some world.stop
  | .closeAll => world.closeAll
  | .brokerMoves event => world.brokerMoves event

end TokenRefreshWorld

/-- Every run of the loop over its broker. -/
def tokenRefreshSystem (thresholdSeconds : Int) :
    EventSystem TokenRefreshWorld TokenRefreshEvent where
  Initial world := ∃ enabled, world = .new enabled
  step := TokenRefreshWorld.step thresholdSeconds

namespace TokenRefreshWorld

/-- A stopped loop calls its broker no more, and `closeAll()` leaves no client to be created. -/
structure StopIsFinal (world : TokenRefreshWorld) : Prop where
  calls : world.callsAfterStop = []
  clients : ∀ count, world.clientsAtCloseAll = some count →
    world.broker.clients.length = count

/-- A `connect()` that `closeAll()` does not precede, or that does nothing. -/
def MayConnect (world : TokenRefreshWorld) : Prop :=
  world.clientsAtCloseAll = none ∨ world.broker.broker.enabled = false

/-- No refresh in flight goes on once the loop is stopped, and the radio does not connect for the
first time after `closeAll()`. -/
def InTime (world : TokenRefreshWorld) : TokenRefreshEvent → Prop
  | .radioConnected => world.timer = .notStarted → world.MayConnect
  | .refreshSettles _ true => world.timer ≠ .cleared
  | .refreshCloses _ => world.timer ≠ .cleared ∧ world.MayConnect
  | _ => True

instance (world : TokenRefreshWorld) : Decidable world.MayConnect :=
  inferInstanceAs (Decidable (_ ∨ _))

instance (world : TokenRefreshWorld) :
    (event : TokenRefreshEvent) → Decidable (InTime world event)
  | .radioConnected => inferInstanceAs (Decidable (_ → _))
  | .refreshSettles _ true => inferInstanceAs (Decidable (_ ≠ _))
  | .refreshSettles _ false => isTrue trivial
  | .refreshCloses _ => inferInstanceAs (Decidable (_ ∧ _))
  | .tick _ _ => isTrue trivial
  | .stop => isTrue trivial
  | .closeAll => isTrue trivial
  | .brokerMoves _ => isTrue trivial

/-- After `closeAll()` the broker stays stopped, with the clients it had. -/
structure ClosedInvariant (world : TokenRefreshWorld) : Prop where
  calls : world.callsAfterStop = []
  closed : ∀ count, world.clientsAtCloseAll = some count →
    world.broker.broker.stopping = true ∧ world.broker.clients.length = count

variable {world after : TokenRefreshWorld}

theorem ClosedInvariant.stopIsFinal (invariant : ClosedInvariant world) : StopIsFinal world where
  calls := invariant.calls
  clients := fun count closed => (invariant.closed count closed).2

theorem callsWith_eq_nil {call : BrokerCall} :
    world.callsWith call = [] ↔ world.callsAfterStop = [] ∧ world.timer ≠ .cleared := by
  rw [callsWith]
  split
  · rename_i cleared
    simp only [List.append_eq_nil_iff, List.cons_ne_nil, and_false, cleared, ne_eq,
      not_true_eq_false]
  · rename_i going
    simp only [ne_eq, going, not_false_eq_true, and_true]

/-- The broker as `closeAll()` left it, or further on without a `connect()`. -/
theorem ClosedInvariant.of_broker (invariant : ClosedInvariant world)
    (calls : after.callsAfterStop = [])
    (closedAll : after.clientsAtCloseAll = world.clientsAtCloseAll)
    (broker : world.broker.broker.stopping = true →
      after.broker.broker.stopping = true ∧
        after.broker.clients.length = world.broker.clients.length) :
    ClosedInvariant after where
  calls := calls
  closed := by
    intro count closed
    rw [closedAll] at closed
    rcases invariant.closed count closed with ⟨stopping, length⟩
    rw [← length]
    exact broker stopping

theorem ClosedInvariant.connects (invariant : ClosedInvariant world)
    (mayConnect : world.MayConnect) (calls : after.callsAfterStop = [])
    (closedAll : after.clientsAtCloseAll = world.clientsAtCloseAll)
    (broker : after.broker = world.broker.connect) : ClosedInvariant after := by
  rcases mayConnect with unclosed | disabled
  · refine ⟨calls, fun count closed => ?_⟩
    rw [closedAll, unclosed] at closed
    cases closed
  · refine invariant.of_broker calls closedAll fun stopping => ?_
    rw [broker, BrokerWorld.connect_of_disabled disabled]
    exact ⟨stopping, rfl⟩

theorem ClosedInvariant.refreshSettles (invariant : ClosedInvariant world) {number : Nat}
    {resolved : Bool} (inTime : resolved = true → world.timer ≠ .cleared)
    (stepped : world.refreshSettles number resolved = some after) : ClosedInvariant after := by
  simp only [TokenRefreshWorld.refreshSettles, Option.ite_none_right_eq_some,
    Option.some.injEq] at stepped
  rcases stepped with ⟨_, rfl⟩
  cases resolved with
  | true =>
      refine invariant.of_broker ?_ rfl fun _ => ?_
      · exact callsWith_eq_nil.mpr ⟨invariant.calls, inTime rfl⟩
      · exact ⟨BrokerWorld.stopping_close, BrokerWorld.length_clients_close⟩
  | false => exact invariant.of_broker invariant.calls rfl fun stopping => ⟨stopping, rfl⟩

theorem refreshCloses_eq_some {number : Nat}
    (stepped : world.refreshCloses number = some after) :
    after.broker = world.broker.connect ∧
      after.callsAfterStop = world.callsWith .connect ∧
      after.clientsAtCloseAll = world.clientsAtCloseAll := by
  rw [refreshCloses] at stepped
  split at stepped
  · rw [Option.ite_none_right_eq_some] at stepped
    rcases stepped with ⟨_, same⟩
    cases same
    exact ⟨rfl, rfl, rfl⟩
  · cases stepped

theorem ClosedInvariant.closeAll (invariant : ClosedInvariant world)
    (stepped : world.closeAll = some after) : ClosedInvariant after := by
  simp only [TokenRefreshWorld.closeAll, Option.ite_none_right_eq_some,
    Option.some.injEq] at stepped
  rcases stepped with ⟨_, rfl⟩
  refine ⟨invariant.calls, fun count closed => ?_⟩
  cases closed
  exact ⟨BrokerWorld.stopping_close, BrokerWorld.length_clients_close⟩

theorem ClosedInvariant.brokerMoves (invariant : ClosedInvariant world) {event : BrokerEvent}
    (stepped : world.brokerMoves event = some after) : ClosedInvariant after := by
  simp only [TokenRefreshWorld.brokerMoves, Option.ite_none_left_eq_some, Option.map_eq_some_iff]
    at stepped
  rcases stepped with ⟨uncalled, broker, moved, rfl⟩
  refine invariant.of_broker invariant.calls rfl fun stopping => ?_
  refine BrokerWorld.stopped_step stopping ?_ moved
  intro connects
  rw [connects] at uncalled
  exact uncalled rfl

theorem ClosedInvariant.step {thresholdSeconds : Int} {event : TokenRefreshEvent}
    (invariant : ClosedInvariant world) (inTime : InTime world event)
    (stepped : world.step thresholdSeconds event = some after) : ClosedInvariant after := by
  cases event with
  | radioConnected =>
      cases stepped
      rw [radioConnected]
      split
      · rename_i first
        exact invariant.connects (inTime first) invariant.calls rfl rfl
      · exact invariant
  | tick expiresAt now =>
      simp only [TokenRefreshWorld.step, tick, Option.ite_none_right_eq_some,
        Option.some.injEq] at stepped
      rcases stepped with ⟨_, rfl⟩
      split
      · exact invariant.of_broker invariant.calls rfl fun stopping => ⟨stopping, rfl⟩
      · exact invariant
  | refreshSettles number resolved =>
      refine invariant.refreshSettles (fun settled => ?_) stepped
      subst resolved
      exact inTime
  | refreshCloses number =>
      rcases refreshCloses_eq_some stepped with ⟨broker, calls, closedAll⟩
      refine invariant.connects inTime.2 ?_ closedAll broker
      rw [calls]
      exact callsWith_eq_nil.mpr ⟨invariant.calls, inTime.1⟩
  | stop =>
      cases stepped
      exact invariant.of_broker invariant.calls rfl fun stopping => ⟨stopping, rfl⟩
  | closeAll => exact invariant.closeAll stepped
  | brokerMoves event => exact invariant.brokerMoves stepped

theorem closedInvariant_of_reachable {thresholdSeconds : Int}
    (reachable : (tokenRefreshSystem thresholdSeconds).ReachableWhen InTime world) :
    ClosedInvariant world := by
  refine reachable.invariant ?_ fun before event after held inTime stepped =>
    held.step inTime stepped
  rintro _ ⟨enabled, rfl⟩
  exact
    { calls := rfl
      closed := fun count closed => by cases closed }

/-- The connection of a late `connect()` creates a client as soon as it is prepared. -/
theorem creates_after_late_connect {thresholdSeconds : Int} (invariant : ClosedInvariant world)
    (late : ¬world.MayConnect) (broker : after.broker = world.broker.connect)
    (closedAll : after.clientsAtCloseAll = world.clientsAtCloseAll) :
    ∃ later, (tokenRefreshSystem thresholdSeconds).Leads EventSystem.anyStep after later ∧
      ¬StopIsFinal later := by
  rw [MayConnect, not_or] at late
  rcases late with ⟨closed, enabled⟩
  rcases Option.ne_none_iff_exists'.mp closed with ⟨count, counted⟩
  rw [Bool.not_eq_false] at enabled
  have length := (invariant.closed count counted).2
  rcases BrokerWorld.prepared_connect enabled with ⟨later, prepared, created⟩
  rw [← broker] at prepared
  refine ⟨{ after with broker := later }, Relation.ReflTransGen.single
    ⟨.brokerMoves (.prepared world.broker.preparing.length .options), trivial, ?_⟩, ?_⟩
  · simp only [tokenRefreshSystem, step, brokerMoves, BrokerEvent.isCall, BrokerWorld.step,
      prepared, Bool.false_eq_true, if_false, Option.map_some]
  · intro holds
    have same : later.clients.length = count := holds.clients count (closedAll.trans counted)
    omega

theorem not_stopIsFinal_of_late {thresholdSeconds : Int} {event : TokenRefreshEvent}
    (invariant : ClosedInvariant world) (late : ¬InTime world event)
    (stepped : world.step thresholdSeconds event = some after) :
    ∃ later, (tokenRefreshSystem thresholdSeconds).Leads EventSystem.anyStep after later ∧
      ¬StopIsFinal later := by
  cases event with
  | tick expiresAt now => exact absurd trivial late
  | stop => exact absurd trivial late
  | closeAll => exact absurd trivial late
  | brokerMoves event => exact absurd trivial late
  | radioConnected =>
      rcases Classical.not_imp.mp late with ⟨first, closed⟩
      cases stepped
      refine creates_after_late_connect invariant closed ?_ ?_
      · simp only [radioConnected, first, if_true]
      · simp only [radioConnected, first, if_true]
  | refreshSettles number resolved =>
      cases resolved with
      | false => exact absurd trivial late
      | true =>
          refine ⟨after, Relation.ReflTransGen.refl, fun holds => late ?_⟩
          simp only [TokenRefreshWorld.step, TokenRefreshWorld.refreshSettles,
            Option.ite_none_right_eq_some, Option.some.injEq] at stepped
          rcases stepped with ⟨_, rfl⟩
          exact (callsWith_eq_nil.mp holds.calls).2
  | refreshCloses number =>
      rcases refreshCloses_eq_some stepped with ⟨broker, calls, closedAll⟩
      by_cases going : world.timer = .cleared
      · refine ⟨after, Relation.ReflTransGen.refl, fun holds => ?_⟩
        have none := holds.calls
        rw [calls] at none
        exact (callsWith_eq_nil.mp none).2 going
      · refine creates_after_late_connect invariant (fun mayConnect => ?_) broker closedAll
        exact late ⟨going, mayConnect⟩

/-- Stopping the loop is final in a run whose steps are all in time, and a first step that is not
leads to a call of the stopped loop or to a client created after `closeAll()`. -/
theorem stopIsFinal_of_inTime {thresholdSeconds : Int}
    (reachable : (tokenRefreshSystem thresholdSeconds).ReachableWhen InTime world) :
    StopIsFinal world ∧
      ∀ event after, world.step thresholdSeconds event = some after → ¬InTime world event →
        ∃ later, (tokenRefreshSystem thresholdSeconds).Leads EventSystem.anyStep after later ∧
          ¬StopIsFinal later := by
  have invariant := closedInvariant_of_reachable reachable
  exact ⟨invariant.stopIsFinal, fun event after stepped late =>
    not_stopIsFinal_of_late invariant late stepped⟩

/-- A token is refreshed and its broker closed and connected again, then the service shuts
down. -/
def refreshedInTime : List TokenRefreshEvent :=
  [.radioConnected, .brokerMoves (.prepared 0 .options), .tick (some 1000) 900000,
    .refreshSettles 0 true, .brokerMoves (.endCalledBack 0), .refreshCloses 0,
    .brokerMoves (.prepared 1 .options), .stop, .closeAll]

theorem initial_new (thresholdSeconds : Int) (enabled : Bool) :
    (tokenRefreshSystem thresholdSeconds).Initial (.new enabled) :=
  ⟨enabled, rfl⟩

theorem refreshedInTime_ran :
    ((tokenRefreshSystem 300).run InTime (.new true) refreshedInTime).isSome := by
  decide +kernel

theorem stopIsFinal_of_refreshedInTime :
    StopIsFinal
      (((tokenRefreshSystem 300).run InTime (.new true) refreshedInTime).get
        refreshedInTime_ran) :=
  (stopIsFinal_of_inTime
    (EventSystem.reachableWhen_get (initial_new 300 true) refreshedInTime_ran)).1

/-- The token is still being refreshed when the loop is stopped and the broker closed. -/
def refreshedAtShutdown : List TokenRefreshEvent :=
  [.radioConnected, .brokerMoves (.prepared 0 .options), .tick (some 1000) 900000, .stop,
    .closeAll, .refreshSettles 0 true, .refreshCloses 0, .brokerMoves (.prepared 1 .options)]

theorem refreshedAtShutdown_ran :
    ((tokenRefreshSystem 300).run EventSystem.anyStep (.new true) refreshedAtShutdown).isSome := by
  decide +kernel

/-- The stopped loop closes the broker and connects it again: it has two clients, one of them
created after `closeAll()`. -/
theorem client_after_closeAll :
    ¬∀ world, (tokenRefreshSystem 300).Reachable world → StopIsFinal world := by
  intro holds
  have final := holds _
    (EventSystem.reachableWhen_get (initial_new 300 true) refreshedAtShutdown_ran)
  have created := final.clients 1 (by decide +kernel)
  revert created
  decide +kernel

end TokenRefreshWorld

end MeshcoreObserver
