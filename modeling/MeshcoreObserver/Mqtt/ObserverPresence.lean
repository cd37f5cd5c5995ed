import MeshcoreObserver.Mqtt.ObserverTopics
import MeshcoreObserver.Transition.EventSystem

/-!
# The presence of the observer

What a broker keeps as the status of the observer, while connections are lost and
made again, messages are on their way, and the process is shut down. The will of
a connection says that the observer is offline. Each time any broker connects,
the observer tells all brokers that are connected that it is online; on shutdown
it tells them once that it is offline, and closes.

One broker is followed here, whose token is not refreshed; the others are present
through what they make the observer publish. Of the protocol it is used that the
messages of a connection arrive in order until its session ends, that a session
which ends without the client's farewell leaves the will, and that the farewell
comes behind all messages. What a client keeps for its next connection may be any
messages that it was given, sent before the new ones.
-/

namespace MeshcoreObserver

open Counting Transition

inductive ObserverStatus where
  | online
  | offline
  deriving DecidableEq, Repr

/-- A retained message on a status topic. -/
structure StatusMessage where
  topic : Text
  status : ObserverStatus
  deriving DecidableEq, Repr

/-- How far `shutdown` has come. -/
inductive ShutdownStage where
  | running
  | stopping
  | announced
  | closed
  deriving DecidableEq, Repr

/-- The observer, its client for one broker, and the broker. `reported` is the key in the
`deviceInfo` that the listener of `broker.connected` holds; `wire` is what was sent over the latest
connection and has not arrived. -/
structure Presence where
  device : Option Text
  mqttStarted : Bool
  reported : Option Text
  will : Option Text
  stage : ShutdownStage
  opened : Bool
  acknowledged : Bool
  connected : Bool
  published : List StatusMessage
  kept : List StatusMessage
  wire : List StatusMessage
  session : Bool
  farewell : Bool
  retained : List (Text × ObserverStatus)
  deriving DecidableEq, Repr

inductive PresenceEvent where
  | identified (publicKey : Text)
  | radioConnected
  | accepted
  | connects
  | otherConnects
  | arrives
  | sessionLost
  | connectionLost (kept : List StatusMessage)
  | farewellArrives
  | signal
  | announces (others : Bool)
  | closes
  deriving DecidableEq, Repr

namespace Presence

/-- The broker publishes the will of a session that has ended. -/
def loseSession (presence : Presence) : Presence :=
  { presence with
    session := false
    farewell := false
    wire := []
    retained :=
      match presence.will with
      | some topic => update topic (fun _ => .offline) presence.retained
      | none => presence.retained }

/-- The observer has just been started. The broker may know statuses of earlier runs. -/
def started (retained : List (Text × ObserverStatus)) : Presence :=
  { device := none, mqttStarted := false, reported := none, will := none, stage := .running
    opened := false, acknowledged := false, connected := false, published := [], kept := []
    wire := [], session := false, farewell := false, retained }

section Observer

variable (mapping : CaseMapping) (iata : Text)

/-- `publishStatus`, as far as this broker is concerned. -/
def publishStatus (presence : Presence) (publicKey : Text) (status : ObserverStatus) : Presence :=
  match statusTopic mapping iata publicKey with
  | .error _ => presence
  | .ok topic =>
      if presence.connected then
        { presence with
          published := presence.published ++ [⟨topic, status⟩]
          wire := presence.wire ++ [⟨topic, status⟩] }
      else presence

/-- The listener of `broker.connected`. -/
def reportOnline (presence : Presence) : Presence :=
  match presence.reported with
  | none => presence
  | some publicKey => presence.publishStatus mapping iata publicKey .online

/-- The listener of `radio.connected`. -/
def radioReady (presence : Presence) (publicKey : Text) : Presence :=
  if presence.mqttStarted then presence
  else
    match statusTopic mapping iata publicKey with
    | .error _ => { presence with mqttStarted := true }
    | .ok topic =>
        { presence with
          mqttStarted := true
          reported := some publicKey
          will := some topic
          opened := true }

/-- A session that the client had before is over. -/
def dropSession (presence : Presence) : Presence :=
  if presence.session then presence.loseSession else presence

/-- A new session. -/
def accept (presence : Presence) : Presence :=
  { presence.dropSession with
    session := true
    acknowledged := true
    wire := [] }

/-- The client learns of its connection. -/
def connect (presence : Presence) : Presence :=
  reportOnline mapping iata
    { presence with
      acknowledged := false
      connected := true
      wire := presence.wire ++ presence.kept
      kept := [] }

/-- The part of `shutdown` that tells the brokers. -/
def announce (presence : Presence) (others : Bool) : Presence :=
  let announced := { presence with stage := .announced }
  match presence.device with
  | none => announced
  | some publicKey =>
      if presence.connected ∨ others then
        announced.publishStatus mapping iata publicKey .offline
      else announced

/-- `closeAll` for this broker. A client that is not connected is cut off. -/
def close (presence : Presence) : Presence :=
  { presence with
    stage := .closed
    opened := false
    acknowledged := false
    connected := false
    farewell := presence.connected }

def step (presence : Presence) : PresenceEvent → Option Presence
  | .identified publicKey => some { presence with device := some publicKey }
  | .radioConnected => presence.device.map (presence.radioReady mapping iata)
  | .accepted =>
      if presence.opened ∧ presence.connected = false ∧ presence.acknowledged = false then
        some presence.accept
      else none
  | .connects => if presence.acknowledged then some (presence.connect mapping iata) else none
  | .otherConnects =>
      if presence.mqttStarted then some (presence.reportOnline mapping iata) else none
  | .arrives =>
      match presence.session, presence.wire with
      | true, message :: wire =>
          some
            { presence with
              wire
              retained := update message.topic (fun _ => message.status) presence.retained }
      | _, _ => none
  | .sessionLost => if presence.session then some presence.loseSession else none
  | .connectionLost kept =>
      if (presence.connected ∨ presence.acknowledged) ∧
          kept.all presence.published.contains then
        some { presence with acknowledged := false, connected := false, kept }
      else none
  | .farewellArrives =>
      if presence.session ∧ presence.farewell ∧ presence.wire = [] then
        some { presence with session := false, farewell := false }
      else none
  | .signal =>
      if presence.stage = .running then some { presence with stage := .stopping } else none
  | .announces others =>
      if presence.stage = .stopping then some (presence.announce mapping iata others) else none
  | .closes => if presence.stage = .announced then some presence.close else none

/-- Nobody is said to be online when the observer is started. -/
def presenceSystem : EventSystem Presence PresenceEvent where
  Initial presence := ∃ retained, (∀ topic, find? topic retained ≠ some .online) ∧
    presence = started retained
  step := step mapping iata

end Observer

end Presence

end MeshcoreObserver
