import MeshcoreObserver.Mqtt.MqttBroker

/-!
# The live client of a broker

A broker has at most one live client, its current one, and says that it is
connected only when the last event of that client was `connect`. Two orders
break this: preparations of two connections that both end with options, and
events of a client that come while the broker has another client or none. A
`close()` of a connected broker is one of them: until `end` calls back the
broker has no client and is still connected.
-/

namespace MeshcoreObserver

open Transition

namespace BrokerWorld

/-- The most recent event of the current client. -/
def currentEvent (world : BrokerWorld) : Option ClientEvent :=
  world.broker.client.bind fun number => world.clients[number]?.bind MqttClient.lastEvent

structure OneLiveClient (world : BrokerWorld) : Prop where
  live : ∀ number client, world.clients[number]? = some client → client.ended = false →
    world.broker.client = some number
  closed : ∀ later, brokerSystem.Leads (fun _ event => event ≠ .connect) world.close later →
    later.clients.length = world.clients.length
  connected : world.broker.state = .connected → world.currentEvent = some .connect

/-- No second client is created, and the events that decide whether the broker is connected are
those of its client. -/
def Orderly (world : BrokerWorld) : BrokerEvent → Prop
  | .prepared _ .options => world.broker.stopping = true ∨ world.broker.client = none
  | .close => world.broker.state ≠ .connected
  | .clientEmits number .connect =>
      world.broker.client = some number ∨ world.currentEvent = some .connect
  | .clientEmits number .close =>
      world.broker.client = some number → world.broker.state ≠ .connected
  | _ => True

instance (world : BrokerWorld) : (event : BrokerEvent) → Decidable (Orderly world event)
  | .prepared _ .options => inferInstanceAs (Decidable (_ ∨ _))
  | .prepared _ .refused => isTrue trivial
  | .prepared _ .rejected => isTrue trivial
  | .close => inferInstanceAs (Decidable (_ ≠ _))
  | .clientEmits _ .connect => inferInstanceAs (Decidable (_ ∨ _))
  | .clientEmits _ .close => inferInstanceAs (Decidable (_ → _))
  | .clientEmits _ .reconnect => isTrue trivial
  | .clientEmits _ .offline => isTrue trivial
  | .connect => isTrue trivial
  | .endCalledBack _ => isTrue trivial

/-- What an orderly run keeps. -/
structure ClientInvariant (world : BrokerWorld) : Prop where
  live : ∀ number client, world.clients[number]? = some client → client.ended = false →
    world.broker.client = some number
  current : ∀ number, world.broker.client = some number →
    ∃ client, world.clients[number]? = some client ∧ client.ended = false
  stopped : world.broker.stopping = true → world.broker.client = none
  connected : world.broker.state = .connected → world.currentEvent = some .connect

variable {world after : BrokerWorld}

theorem length_clients_of_closed {later : BrokerWorld}
    (lead : brokerSystem.Leads (fun _ event => event ≠ .connect) world.close later) :
    later.clients.length = world.clients.length := by
  have keeps : ∀ before event after,
      before.broker.stopping = true ∧ before.clients.length = world.clients.length →
      event ≠ .connect → brokerSystem.step before event = some after →
      after.broker.stopping = true ∧ after.clients.length = world.clients.length := by
    intro before event after held other stepped
    rcases stopped_step held.1 other stepped with ⟨stopping, same⟩
    exact ⟨stopping, same.trans held.2⟩
  exact (lead.invariant keeps ⟨stopping_close, length_clients_close⟩).2

theorem ClientInvariant.oneLiveClient (invariant : ClientInvariant world) :
    OneLiveClient world where
  live := invariant.live
  closed := fun _ lead => length_clients_of_closed lead
  connected := invariant.connected

theorem restingState_ne_connected (enabled : Bool) :
    MqttBroker.restingState enabled ≠ .connected := by
  cases enabled with
  | false => decide
  | true => decide

theorem currentEvent_eq_some {event : ClientEvent} :
    world.currentEvent = some event ↔
      ∃ number client, world.broker.client = some number ∧
        world.clients[number]? = some client ∧ client.lastEvent = some event := by
  simp only [currentEvent, Option.bind_eq_some_iff]
  constructor
  · rintro ⟨number, current, client, found, last⟩
    exact ⟨number, client, current, found, last⟩
  · rintro ⟨number, client, current, found, last⟩
    exact ⟨number, current, client, found, last⟩

theorem currentEvent_of_none (absent : world.broker.client = none) :
    world.currentEvent = none := by
  simp only [currentEvent, absent, Option.bind_none]

/-- Losing the state `connected` and nothing else keeps the invariant. -/
theorem ClientInvariant.of_same (invariant : ClientInvariant world)
    (clients : after.clients = world.clients)
    (client : after.broker.client = world.broker.client)
    (stopping : after.broker.stopping = true → world.broker.stopping = true)
    (state : after.broker.state = .connected → world.broker.state = .connected) :
    ClientInvariant after where
  live := by
    rw [clients, client]
    exact invariant.live
  current := by
    rw [clients, client]
    exact invariant.current
  stopped := by
    rw [client]
    exact fun stops => invariant.stopped (stopping stops)
  connected := by
    intro connected
    rw [currentEvent, clients, client]
    exact invariant.connected (state connected)

theorem ClientInvariant.connect (invariant : ClientInvariant world) :
    ClientInvariant world.connect := by
  rw [BrokerWorld.connect]
  split
  · refine invariant.of_same rfl rfl ?_ ?_
    · intro stops
      cases stops
    · intro connected
      cases connected
  · exact invariant

theorem ClientInvariant.createClient (invariant : ClientInvariant world)
    (going : world.broker.stopping = false) (absent : world.broker.client = none)
    (broker : after.broker = { world.broker with client := some world.clients.length })
    (clients : after.clients = world.clients ++ [⟨false, none⟩]) :
    ClientInvariant after where
  live := by
    intro number client found unended
    rw [clients, List.getElem?_append] at found
    rw [broker]
    split at found
    · have current := invariant.live number client found unended
      rw [absent] at current
      cases current
    · rename_i beyond
      have first : number - world.clients.length = 0 := by
        have bound := (List.getElem?_eq_some_iff.mp found).1
        simp only [List.length_singleton] at bound
        omega
      have number_eq : number = world.clients.length := by omega
      rw [number_eq]
  current := by
    intro number current
    rw [broker] at current
    cases current
    refine ⟨⟨false, none⟩, ?_, rfl⟩
    rw [clients]
    exact List.getElem?_concat_length
  stopped := by
    intro stops
    rw [broker] at stops
    rw [going] at stops
    cases stops
  connected := by
    intro connected
    rw [broker] at connected
    have event := invariant.connected connected
    rw [currentEvent_of_none absent] at event
    cases event

theorem ClientInvariant.prepared (invariant : ClientInvariant world) {number : Nat}
    {result : Preparation} (settles : world.prepared number result = some after)
    (orderly : result = .options →
      world.broker.stopping = true ∨ world.broker.client = none) :
    ClientInvariant after := by
  rcases prepared_eq_some settles with
    ⟨same | failed, clients⟩ | ⟨going, options, broker, clients⟩
  · refine invariant.of_same clients ?_ ?_ ?_
    · rw [same]
    · rw [same]
      exact id
    · rw [same]
      exact id
  · refine invariant.of_same clients ?_ ?_ ?_
    · rw [failed]
    · rw [failed]
      exact id
    · rw [failed]
      intro connected
      cases connected
  · rcases orderly options with stops | absent
    · rw [going] at stops
      cases stops
    · exact invariant.createClient going absent broker clients

theorem ClientInvariant.close (invariant : ClientInvariant world)
    (orderly : world.broker.state ≠ .connected) : ClientInvariant world.close := by
  cases current : world.broker.client with
  | none =>
      have closed : world.close.clients = world.clients := by
        simp only [BrokerWorld.close, current]
      have client : world.close.broker.client = none := by
        simp only [BrokerWorld.close, current]
      have state : world.close.broker.state = MqttBroker.restingState world.broker.enabled := by
        simp only [BrokerWorld.close, current]
      exact
        { live := by
            rw [closed, client, ← current]
            exact invariant.live
          current := by
            rw [closed, client, ← current]
            exact invariant.current
          stopped := fun _ => client
          connected := fun connected =>
            absurd (state.symm.trans connected) (restingState_ne_connected _) }
  | some number =>
      have closed : world.close.clients =
          world.clients.modify number fun client => { client with ended := true } := by
        simp only [BrokerWorld.close, current]
      have client : world.close.broker.client = none := by
        simp only [BrokerWorld.close, current]
      have state : world.close.broker.state = world.broker.state := by
        simp only [BrokerWorld.close, current]
      refine
        { live := ?_
          current := ?_
          stopped := fun _ => client
          connected := fun connected => absurd (state.symm.trans connected) orderly }
      · intro other ended found unended
        rw [closed, List.getElem?_modify, Option.map_eq_map] at found
        rcases Option.map_eq_some_iff.mp found with ⟨before, present, rfl⟩
        split at unended
        · cases unended
        · rename_i differs
          have same := invariant.live other before present unended
          rw [current] at same
          cases same
          exact absurd rfl differs
      · intro other present
        rw [client] at present
        cases present

theorem ClientInvariant.endCalledBack (invariant : ClientInvariant world) {number : Nat}
    (stepped : world.endCalledBack number = some after) : ClientInvariant after := by
  simp only [BrokerWorld.endCalledBack, Option.ite_none_right_eq_some, Option.some.injEq]
    at stepped
  rcases stepped with ⟨_, rfl⟩
  refine invariant.of_same rfl rfl id ?_
  intro connected
  exact absurd connected (restingState_ne_connected _)

/-- The clients after one of them emits an event: whether each is ended stays as it was. -/
theorem ClientInvariant.clientEmits (invariant : ClientInvariant world) {number : Nat}
    {event : ClientEvent} (stepped : world.clientEmits number event = some after)
    (connected : stateAfter world.broker event = .connected →
      after.currentEvent = some .connect) :
    ClientInvariant after := by
  simp only [BrokerWorld.clientEmits, Option.ite_none_right_eq_some, Option.some.injEq] at stepped
  rcases stepped with ⟨_, rfl⟩
  refine
    { live := ?_
      current := ?_
      stopped := invariant.stopped
      connected := connected }
  · intro other client found unended
    simp only [List.getElem?_modify, Option.map_eq_map, Option.map_eq_some_iff] at found
    rcases found with ⟨before, present, rfl⟩
    refine invariant.live other before present ?_
    split at unended
    · exact unended
    · exact unended
  · intro other current
    rcases invariant.current other current with ⟨before, present, unended⟩
    simp only [List.getElem?_modify, Option.map_eq_map, present, Option.map_some,
      Option.some.injEq]
    refine ⟨_, rfl, ?_⟩
    split
    · exact unended
    · exact unended

theorem currentEvent_clientEmits {number : Nat} {event : ClientEvent}
    (stepped : world.clientEmits number event = some after) :
    after.broker.state = stateAfter world.broker event ∧
      after.currentEvent =
        if world.broker.client = some number then some event else world.currentEvent := by
  simp only [clientEmits, Option.ite_none_right_eq_some, Option.some.injEq] at stepped
  rcases stepped with ⟨present, rfl⟩
  refine ⟨rfl, ?_⟩
  simp only [currentEvent]
  cases client : world.broker.client with
  | none => rfl
  | some other =>
      simp only [Option.bind_some, Option.some.injEq, List.getElem?_modify, Option.map_eq_map]
      by_cases same : other = number
      · subst other
        simp only [List.getElem?_eq_getElem present, Option.map_some, Option.bind_some, if_true]
      · have differs : ¬number = other := fun equal => same equal.symm
        simp only [same, differs, if_false, Option.map_id']

theorem ClientInvariant.step (invariant : ClientInvariant world) {event : BrokerEvent}
    (orderly : Orderly world event) (stepped : world.step event = some after) :
    ClientInvariant after := by
  cases event with
  | connect =>
      cases stepped
      exact invariant.connect
  | prepared number result =>
      refine invariant.prepared stepped fun options => ?_
      subst result
      exact orderly
  | close =>
      cases stepped
      exact invariant.close orderly
  | endCalledBack number => exact invariant.endCalledBack stepped
  | clientEmits number event =>
      have current := (currentEvent_clientEmits stepped).2
      refine invariant.clientEmits stepped fun connected => ?_
      rw [current]
      cases event with
      | connect =>
          rcases orderly with own | held
          · rw [if_pos own]
          · split
            · rfl
            · exact held
      | reconnect => cases connected
      | offline =>
          simp only [stateAfter] at connected
          split at connected
          · rename_i stopping
            have held := invariant.connected connected
            rw [currentEvent_of_none (invariant.stopped stopping)] at held
            cases held
          · cases connected
      | close =>
          simp only [stateAfter] at connected
          split at connected
          · cases connected
          · rw [if_neg fun own => orderly own connected]
            exact invariant.connected connected

/-- A step that is not orderly leaves two live clients, or a broker that is connected while the
last event of its client is not `connect`. -/
theorem ClientInvariant.orderly_of_step (invariant : ClientInvariant world)
    {event : BrokerEvent} (stepped : world.step event = some after)
    (holds : OneLiveClient after) : Orderly world event := by
  cases event with
  | connect => trivial
  | endCalledBack number => trivial
  | prepared number result =>
      cases result with
      | refused => trivial
      | rejected => trivial
      | options =>
          cases stopping : world.broker.stopping with
          | true => exact .inl stopping
          | false =>
              refine .inr (Option.eq_none_iff_forall_ne_some.mpr fun former current => ?_)
              rcases invariant.current former current with ⟨client, found, unended⟩
              have bound := (List.getElem?_eq_some_iff.mp found).1
              simp only [BrokerWorld.step, BrokerWorld.prepared, Option.ite_none_right_eq_some,
                stopping, Bool.false_eq_true, if_false, Option.some.injEq] at stepped
              rcases stepped with ⟨_, rfl⟩
              have latest := holds.live former client
                ((List.getElem?_append_left bound).trans found) unended
              simp only [BrokerWorld.createClient, Option.some.injEq] at latest
              omega
  | close =>
      intro connected
      have held := invariant.connected connected
      rcases currentEvent_eq_some.mp held with ⟨number, _, current, _, _⟩
      cases stepped
      have state : world.close.broker.state = .connected := by
        simp only [BrokerWorld.close, current]
        exact connected
      have absent : world.close.broker.client = none := by
        simp only [BrokerWorld.close, current]
      have kept := holds.connected state
      rw [currentEvent_of_none absent] at kept
      cases kept
  | clientEmits number event =>
      rcases currentEvent_clientEmits stepped with ⟨state, current⟩
      cases event with
      | reconnect => trivial
      | offline => trivial
      | connect =>
          have kept := holds.connected state
          rw [current] at kept
          by_cases own : world.broker.client = some number
          · exact .inl own
          · rw [if_neg own] at kept
            exact .inr kept
      | close =>
          intro own connected
          have going : world.broker.stopping = false := by
            cases stopping : world.broker.stopping with
            | false => rfl
            | true =>
                have absent := invariant.stopped stopping
                rw [own] at absent
                cases absent
          simp only [stateAfter, going, Bool.false_eq_true, if_false] at state
          have kept := holds.connected (state.trans connected)
          rw [current, if_pos own] at kept
          cases kept

theorem clientInvariant_of_reachable (reachable : brokerSystem.ReachableWhen Orderly world) :
    ClientInvariant world := by
  refine reachable.invariant ?_ fun before event after held orderly stepped =>
    held.step orderly stepped
  intro initial starts
  cases starts
  exact
    { live := fun number client found => by cases found
      current := fun number current => by cases current
      stopped := fun _ => rfl
      connected := fun connected => by cases connected }

/-- A broker has one live client in every state of an orderly run, and the first step that is not
orderly breaks it. -/
theorem oneLiveClient_iff_orderly (reachable : brokerSystem.ReachableWhen Orderly world) :
    OneLiveClient world ∧
      ∀ event after, world.step event = some after →
        (OneLiveClient after ↔ Orderly world event) := by
  have invariant := clientInvariant_of_reachable reachable
  refine ⟨invariant.oneLiveClient, fun event after stepped => ?_⟩
  constructor
  · exact invariant.orderly_of_step stepped
  · intro orderly
    exact (invariant.step orderly stepped).oneLiveClient

/-- A broker that connects, goes offline and is closed. -/
def onceConnected : List BrokerEvent :=
  [.connect, .prepared 0 .options, .clientEmits 0 .connect, .clientEmits 0 .offline, .close,
    .endCalledBack 0]

theorem onceConnected_ran :
    (brokerSystem.run Orderly (.new true) onceConnected).isSome := by
  decide +kernel

theorem oneLiveClient_iff_orderly_of_onceConnected :
    OneLiveClient ((brokerSystem.run Orderly (.new true) onceConnected).get onceConnected_ran) :=
  (oneLiveClient_iff_orderly (EventSystem.reachableWhen_get rfl onceConnected_ran)).1

/-- Two connections around a `close()`, both prepared after it. -/
def connectedTwice : List BrokerEvent :=
  [.connect, .close, .connect, .prepared 0 .options, .prepared 1 .options]

theorem connectedTwice_ran :
    (brokerSystem.run EventSystem.anyStep (.new true) connectedTwice).isSome := by
  decide +kernel

/-- Both clients of `connectedTwice` are live. -/
theorem two_live_clients :
    ¬∀ world, brokerSystem.Reachable world → OneLiveClient world := by
  intro holds
  have one := holds _ (EventSystem.reachableWhen_get rfl connectedTwice_ran)
  have former := one.live 0 ⟨false, none⟩ (by decide +kernel) rfl
  have current :
      ((brokerSystem.run EventSystem.anyStep (.new true) connectedTwice).get
        connectedTwice_ran).broker.client = some 1 := by
    decide +kernel
  rw [current] at former
  cases former

end BrokerWorld

end MeshcoreObserver
