import MeshcoreObserver.Basic
import MeshcoreObserver.Bots.ChannelKey
import MeshcoreObserver.Transition.EventSystem
import MeshcoreObserver.Transition.SerialQueue

/-!
# Channel setup

`ensureChannel` lists the channel slots of the device, looks for the bot's
channel and, when it is missing, writes it into the first empty slot. The
listing and the write are two commands on the queue every module shares, so
between them the commands of other setups may run. The device is its slot table;
a rejected write may or may not have reached it.
-/

namespace MeshcoreObserver

open Transition

structure ChannelSlot where
  channelIdx : Nat
  name : Text
  secret : List UInt8
  deriving DecidableEq, Repr

namespace ChannelSlot

/-- `!channel.name || channel.name.trim() === ''`. -/
def Blank (name : Text) : Prop := name.trim = []

instance (name : Text) : Decidable (Blank name) :=
  inferInstanceAs (Decidable (_ = _))

end ChannelSlot

/-- What a listing tells `ensureChannel` to do. -/
inductive SlotChoice where
  | existing (channelIdx : Nat) (secret : List UInt8)
  | create (channelIdx : Nat)
  | full
  deriving DecidableEq, Repr

/-- The search of `ensureChannel` through the listed channels. -/
def chooseSlot (toLowerCase : Text → Text) (channelName : Text) (channels : List ChannelSlot) :
    SlotChoice :=
  match channels.find? fun channel => toLowerCase channel.name = toLowerCase channelName with
  | some existing => .existing existing.channelIdx existing.secret
  | none =>
      match channels.find? fun channel => ChannelSlot.Blank channel.name with
      | some emptySlot => .create emptySlot.channelIdx
      | none => .full

/-- Where one `#setup()` stands in `ensureChannel`. -/
inductive SetupPhase where
  | listing
  | listed (channels : List ChannelSlot)
  | creating (channelIdx : Nat)
  | finished (result : Option (Nat × List UInt8))
  deriving DecidableEq, Repr

structure SetupRun where
  channelName : Text
  phase : SetupPhase
  deriving DecidableEq, Repr

inductive ChannelCommand where
  | getChannels
  | setChannel (channelIdx : Nat) (name : Text) (secret : List UInt8)
  deriving DecidableEq, Repr

/-- The device, the command queue and every setup that has begun. Commands carry the number of
the setup that waits for them. -/
structure SetupWorld where
  slots : List ChannelSlot
  commands : SerialQueue (Nat × ChannelCommand)
  runs : List SetupRun
  deriving DecidableEq, Repr

/-- What can happen. The flags of `setup` and `resume` tell whether the radio is connected; the
one of `commandSettles` whether a rejected write reached the device. -/
inductive SetupEvent where
  | setup (bot : Nat) (connected : Bool)
  | commandStarts
  | commandSettles (outcome : Outcome) (applied : Bool)
  | resume (run : Nat) (connected : Bool)
  deriving DecidableEq, Repr

def setChannel (slots : List ChannelSlot) (channelIdx : Nat) (name : Text)
    (secret : List UInt8) : List ChannelSlot :=
  slots.map fun slot => if slot.channelIdx = channelIdx then { slot with name, secret } else slot

namespace SetupWorld

variable (toLowerCase : Text → Text) (sha256 : List UInt8 → List UInt8)

def become (world : SetupWorld) (number : Nat) (phase : SetupPhase) : List SetupRun :=
  world.runs.modify number fun run => { run with phase }

/-- A setup begins. Without a connection its first command is rejected at once. -/
def setup (world : SetupWorld) (channelName : Text) (connected : Bool) : SetupWorld :=
  if connected then
    { world with
      commands := world.commands.submit (world.runs.length, .getChannels)
      runs := world.runs ++ [⟨channelName, .listing⟩] }
  else { world with runs := world.runs ++ [⟨channelName, .finished none⟩] }

def settle (world : SetupWorld) (outcome : Outcome) (applied : Bool) : Option SetupWorld :=
  match world.commands.running with
  | none => none
  | some (number, .getChannels) =>
      some { world with
        commands := { world.commands with running := none }
        runs := world.become number
          (match outcome with
          | .resolved => .listed world.slots
          | .rejected => .finished none) }
  | some (number, .setChannel channelIdx name secret) =>
      some
        { slots :=
            if outcome = .resolved ∨ applied = true then
              setChannel world.slots channelIdx name secret
            else world.slots
          commands := { world.commands with running := none }
          runs := world.become number
            (.finished
              (match outcome with
              | .resolved => some (channelIdx, secret)
              | .rejected => none)) }

/-- `ensureChannel` goes on from its listing. -/
def resume (world : SetupWorld) (number : Nat) (connected : Bool) : Option SetupWorld :=
  match world.runs[number]? with
  | some ⟨channelName, .listed channels⟩ =>
      match chooseSlot toLowerCase channelName channels with
      | .existing channelIdx secret =>
          some { world with runs := world.become number (.finished (some (channelIdx, secret))) }
      | .full => some { world with runs := world.become number (.finished none) }
      | .create channelIdx =>
          if connected then
            some { world with
              commands := world.commands.submit (number, .setChannel channelIdx channelName
                (deriveHashtagChannelKey toLowerCase sha256 channelName))
              runs := world.become number (.creating channelIdx) }
          else some { world with runs := world.become number (.finished none) }
  | _ => none

/-- One event, for a configuration whose bots are on the given channels. -/
def step (bots : List Text) (world : SetupWorld) : SetupEvent → Option SetupWorld
  | .setup bot connected => bots[bot]?.map fun channelName => world.setup channelName connected
  | .commandStarts => world.commands.start.map fun commands => { world with commands }
  | .commandSettles outcome applied => world.settle outcome applied
  | .resume number connected => world.resume toLowerCase sha256 number connected

end SetupWorld

end MeshcoreObserver
