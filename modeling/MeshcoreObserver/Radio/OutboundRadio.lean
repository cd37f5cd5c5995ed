import MeshcoreObserver.Radio.SharedReservation
import MeshcoreObserver.Transition.SerialQueue

/-!
# Outbound transmissions

The path of a transmission from the grant to the radio: the reply queue and the
flood-advert scheduler share one coordinator, and a granted operation submits
its command, `sendChannelTextMessage` or `sendFloodAdvert`, to the command queue
of the radio, where it may wait behind channel setup, signing and clock commands.
Either sender may ask for the air at any moment, which covers every timing of
their polls.
-/

namespace MeshcoreObserver

open Transition

inductive Sender where
  | replyQueue
  | floodAdvert
  deriving DecidableEq, Repr

/-- A command on the shared queue: the transmission of a granted operation, or any other. -/
inductive OutboundCommand where
  | transmission (number : Nat)
  | other
  deriving DecidableEq, Repr

/-- What a run records, with the clock reading of each entry. -/
inductive OutboundEntry where
  | heard (now : Int)
  | granted (number : Nat) (checkedAt : Int)
  | invoked (number : Nat) (now : Int)
  | completed (number : Nat) (now : Int)
  deriving DecidableEq, Repr

namespace OutboundEntry

def time : OutboundEntry → Int
  | heard now => now
  | granted _ checkedAt => checkedAt
  | invoked _ now => now
  | completed _ now => now

/-- The entries a quiet window must not contain. -/
def Disturbs : OutboundEntry → Prop
  | heard _ => True
  | completed _ _ => True
  | _ => False

def heardAt : OutboundEntry → Option Int
  | heard now => some now
  | _ => none

def completedAt : OutboundEntry → Option Int
  | completed _ now => some now
  | _ => none

def betweenGrants : OutboundEntry → Bool
  | granted _ _ => false
  | _ => true

end OutboundEntry

structure OutboundWorld where
  air : AirtimeWorld Sender
  commands : SerialQueue OutboundCommand
  log : List OutboundEntry
  deriving DecidableEq, Repr

inductive OutboundEvent where
  | packetHeard (now : Int)
  | tryRunWhenQuiet (sender : Sender) (checkedAt notedAt : Int)
  | sendStarts (number : Nat)
  | sendReturns (number : Nat) (outcome : Outcome)
  | otherCommand
  | commandStarts (now : Int)
  | commandSettles (now : Int) (outcome : Outcome)
  | released (number : Nat)
  deriving DecidableEq, Repr

namespace OutboundWorld

def new (quietMs now : Int) : OutboundWorld :=
  { air := .new quietMs now, commands := .empty, log := [] }

def grantEntries (world : OutboundWorld) (air : AirtimeWorld Sender) (checkedAt : Int) :
    List OutboundEntry :=
  if air.granted = world.air.granted then [] else [.granted world.air.granted checkedAt]

def startEntries (commands : SerialQueue OutboundCommand) (now : Int) : List OutboundEntry :=
  match commands.running with
  | some (.transmission number) => [.invoked number now]
  | _ => []

/-- The command under way settles, and with a transmission its operation. -/
def settle (world : OutboundWorld) (now : Int) (outcome : Outcome) : Option OutboundWorld :=
  match world.commands.running with
  | none => none
  | some .other =>
      some { world with
        air := { world.air with clock := now }
        commands := { world.commands with running := none } }
  | some (.transmission number) =>
      (world.air.step (.sendSettles number outcome)).map fun air =>
        { air := { air with clock := now }
          commands := { world.commands with running := none }
          log := .completed number now :: world.log }

/-- One event. `sendReturns` is an operation that ends without a command: a reply whose dispatch
fails before it, or an advert that is no longer wanted. -/
def step (world : OutboundWorld) : OutboundEvent → Option OutboundWorld
  | .packetHeard now =>
      (world.air.step (.noteActivity now)).map fun air =>
        { world with air, log := .heard now :: world.log }
  | .tryRunWhenQuiet sender checkedAt notedAt =>
      (world.air.step (.tryRunWhenQuiet sender checkedAt notedAt)).map fun air =>
        { world with air, log := world.grantEntries air checkedAt ++ world.log }
  | .sendStarts number =>
      (world.air.step (.sendStarts number)).map fun air =>
        { world with air, commands := world.commands.submit (.transmission number) }
  | .sendReturns number outcome =>
      ((world.air.step (.sendStarts number)).bind fun air =>
        air.step (.sendSettles number outcome)).map fun air => { world with air }
  | .otherCommand => some { world with commands := world.commands.submit .other }
  | .commandStarts now =>
      if world.air.clock ≤ now then
        world.commands.start.map fun commands =>
          { air := { world.air with clock := now }
            commands
            log := startEntries commands now ++ world.log }
      else none
  | .commandSettles now outcome =>
      if world.air.clock ≤ now then world.settle now outcome else none
  | .released number =>
      (world.air.step (.released number)).map fun air => { world with air }

def heardSinceGrant (world : OutboundWorld) : List Int :=
  (world.log.takeWhile OutboundEntry.betweenGrants).filterMap OutboundEntry.heardAt

def completions (world : OutboundWorld) : List Int :=
  world.log.filterMap OutboundEntry.completedAt

def transmissionNext (world : OutboundWorld) : Bool :=
  match world.commands.waiting.head? with
  | some (.transmission _) => true
  | _ => false

end OutboundWorld

/-- One process, with any quiet window. -/
def outboundSystem (quietMs : Int) : EventSystem OutboundWorld OutboundEvent where
  Initial world := ∃ now, world = .new quietMs now
  step := OutboundWorld.step

end MeshcoreObserver
