import MeshcoreObserver.Transition.EventSystem
import Mathlib.Data.List.Basic

/-!
# One MQTT broker

An `MqttBroker` with what it has started: the preparations of its connections,
the clients it has created and the calls of `close()`. Preparing a connection
resolves its credentials, on the device for a token, and may take any time. The
handlers of every client stay registered when the client is ended.

The options of a connection and what is published are left out.
-/

namespace MeshcoreObserver

open Transition

inductive BrokerState where
  | disabled
  | connecting
  | connected
  | disconnected
  | retrying
  | failed
  deriving DecidableEq, Repr

/-- The events of a client that touch the state of its broker. -/
inductive ClientEvent where
  | connect
  | reconnect
  | offline
  | close
  deriving DecidableEq, Repr

structure MqttClient where
  ended : Bool
  lastEvent : Option ClientEvent
  deriving DecidableEq, Repr

/-- How the preparation of a connection ends: with options, with options the client refuses by
throwing, or with a rejection. -/
inductive Preparation where
  | options
  | refused
  | rejected
  deriving DecidableEq, Repr

/-- A call of `close()`, with the client whose `end` it waits for. -/
structure BrokerClose where
  client : Option Nat
  done : Bool
  deriving DecidableEq, Repr

structure MqttBroker where
  enabled : Bool
  client : Option Nat
  state : BrokerState
  stopping : Bool
  deriving DecidableEq, Repr

/-- A broker and what it has started: `preparing` says of each connection whether its preparation
is still under way. -/
structure BrokerWorld where
  broker : MqttBroker
  preparing : List Bool
  clients : List MqttClient
  closes : List BrokerClose
  deriving DecidableEq, Repr

inductive BrokerEvent where
  | connect
  | prepared (number : Nat) (result : Preparation)
  | close
  | endCalledBack (number : Nat)
  | clientEmits (number : Nat) (event : ClientEvent)
  deriving DecidableEq, Repr

/-- The state of a broker that holds no connection. -/
def MqttBroker.restingState (enabled : Bool) : BrokerState :=
  if enabled then .disconnected else .disabled

def MqttBroker.new (enabled : Bool) : MqttBroker :=
  { enabled, client := none, state := restingState enabled, stopping := false }

namespace BrokerWorld

def new (enabled : Bool) : BrokerWorld :=
  { broker := .new enabled, preparing := [], clients := [], closes := [] }

def connect (world : BrokerWorld) : BrokerWorld :=
  if world.broker.enabled then
    { world with
      broker := { world.broker with stopping := false, state := .connecting }
      preparing := world.preparing ++ [true] }
  else world

/-- `createClient(options)` and `#wireClient(client)`. -/
def createClient (world : BrokerWorld) : BrokerWorld :=
  { world with
    broker := { world.broker with client := some world.clients.length }
    clients := world.clients ++ [⟨false, none⟩] }

def fail (world : BrokerWorld) : BrokerWorld :=
  { world with broker := { world.broker with state := .failed } }

/-- The callbacks of `connect` on the promise of `#resolveOptions`. -/
def prepared (world : BrokerWorld) (number : Nat) (result : Preparation) : Option BrokerWorld :=
  if world.preparing[number]? = some true then
    let settled := { world with preparing := world.preparing.set number false }
    match result with
    | .rejected => some settled.fail
    | .options => some (if world.broker.stopping then settled else settled.createClient)
    | .refused => some (if world.broker.stopping then settled else settled.fail)
  else none

/-- `close()` up to its `await`, and to its end when there is no client. -/
def close (world : BrokerWorld) : BrokerWorld :=
  match world.broker.client with
  | none =>
      { world with
        broker :=
          { world.broker with
            stopping := true
            state := MqttBroker.restingState world.broker.enabled }
        closes := world.closes ++ [⟨none, true⟩] }
  | some client =>
      { world with
        broker := { world.broker with stopping := true, client := none }
        clients := world.clients.modify client fun ended => { ended with ended := true }
        closes := world.closes ++ [⟨some client, false⟩] }

/-- The rest of a `close()`, once the client calls back. -/
def endCalledBack (world : BrokerWorld) (number : Nat) : Option BrokerWorld :=
  if world.closes[number]?.any fun close => close.done = false then
    some
      { world with
        broker := { world.broker with state := MqttBroker.restingState world.broker.enabled }
        closes := world.closes.modify number fun close => { close with done := true } }
  else none

/-- The handlers of `#wireClient`. They do not ask which client they belong to. -/
def stateAfter (broker : MqttBroker) : ClientEvent → BrokerState
  | .connect => .connected
  | .reconnect => .retrying
  | .offline => if broker.stopping then broker.state else .retrying
  | .close => if broker.stopping then .disconnected else broker.state

def clientEmits (world : BrokerWorld) (number : Nat) (event : ClientEvent) : Option BrokerWorld :=
  if number < world.clients.length then
    some
      { world with
        broker := { world.broker with state := stateAfter world.broker event }
        clients := world.clients.modify number fun client =>
          { client with lastEvent := some event } }
  else none

def step (world : BrokerWorld) : BrokerEvent → Option BrokerWorld
  | .connect => some world.connect
  | .prepared number result => world.prepared number result
  | .close => some world.close
  | .endCalledBack number => world.endCalledBack number
  | .clientEmits number event => world.clientEmits number event

end BrokerWorld

/-- Every run of an enabled broker. -/
def brokerSystem : EventSystem BrokerWorld BrokerEvent where
  Initial world := world = .new true
  step := BrokerWorld.step

namespace BrokerWorld

variable {world : BrokerWorld}

theorem prepared_eq_some {number : Nat} {result : Preparation} {after : BrokerWorld}
    (settles : world.prepared number result = some after) :
    (after.broker = world.broker ∨ after.broker = { world.broker with state := .failed }) ∧
        after.clients = world.clients ∨
      world.broker.stopping = false ∧ result = .options ∧
        after.broker = { world.broker with client := some world.clients.length } ∧
        after.clients = world.clients ++ [⟨false, none⟩] := by
  rw [prepared, Option.ite_none_right_eq_some] at settles
  rcases settles with ⟨_, settles⟩
  cases result with
  | rejected =>
      cases settles
      exact .inl ⟨.inr rfl, rfl⟩
  | options =>
      cases settles
      cases stopping : world.broker.stopping with
      | true => exact .inl ⟨.inl rfl, rfl⟩
      | false => exact .inr ⟨rfl, rfl, rfl, rfl⟩
  | refused =>
      cases settles
      cases stopping : world.broker.stopping with
      | true => exact .inl ⟨.inl rfl, rfl⟩
      | false => exact .inl ⟨.inr rfl, rfl⟩

/-- A connection that is prepared before the next `close()` has its client. -/
theorem prepared_connect (enabled : world.broker.enabled = true) :
    ∃ after, world.connect.prepared world.preparing.length .options = some after ∧
      after.clients.length = world.clients.length + 1 := by
  have connected : world.connect =
      { world with
        broker := { world.broker with stopping := false, state := .connecting }
        preparing := world.preparing ++ [true] } := by
    rw [connect, if_pos enabled]
  rw [connected, prepared, if_pos List.getElem?_concat_length]
  exact ⟨_, rfl, List.length_append⟩

theorem connect_of_disabled (disabled : world.broker.enabled = false) :
    world.connect = world := by
  rw [connect, disabled]
  rfl

theorem length_clients_close : world.close.clients.length = world.clients.length := by
  rw [close]
  split
  · rfl
  · exact List.length_modify _ _ _

theorem stopping_close : world.close.broker.stopping = true := by
  rw [close]
  split
  · rfl
  · rfl

/-- Until the next `connect()`, a stopped broker stays stopped and creates no client. -/
theorem stopped_step {event : BrokerEvent} {after : BrokerWorld}
    (stopping : world.broker.stopping = true) (other : event ≠ .connect)
    (stepped : world.step event = some after) :
    after.broker.stopping = true ∧ after.clients.length = world.clients.length := by
  cases event with
  | connect => exact absurd rfl other
  | prepared number result =>
      rcases prepared_eq_some stepped with ⟨same | failed, clients⟩ | ⟨going, _⟩
      · rw [same, clients]
        exact ⟨stopping, rfl⟩
      · rw [failed, clients]
        exact ⟨stopping, rfl⟩
      · rw [stopping] at going
        cases going
  | close =>
      cases stepped
      exact ⟨stopping_close, length_clients_close⟩
  | endCalledBack number =>
      simp only [step, endCalledBack, Option.ite_none_right_eq_some, Option.some.injEq] at stepped
      rcases stepped with ⟨_, rfl⟩
      exact ⟨stopping, rfl⟩
  | clientEmits number event =>
      simp only [step, clientEmits, Option.ite_none_right_eq_some, Option.some.injEq] at stepped
      rcases stepped with ⟨_, rfl⟩
      exact ⟨stopping, List.length_modify _ _ _⟩

end BrokerWorld

end MeshcoreObserver
