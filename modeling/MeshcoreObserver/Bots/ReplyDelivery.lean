import MeshcoreObserver.Bots.BotsConfig
import MeshcoreObserver.Bots.ChannelSetup
import MeshcoreObserver.Bots.ReplyInvariant

/-!
# The delivery of a reply

From a granted tick to the device. `createReplyDispatcher` finds the bot of the
reply, `sendQueuedReply` awaits its command handler and hands the send to
`runCommand`, which takes the connection of that moment. The closure reads
`#channelIdx` when the command queue calls it. Meanwhile `#setup()` of the same
bot writes `#channelIdx` whenever its own commands have settled.

One reply queue, the bots of the configuration, the current connection and the
command queue make one event system. A process may end at any moment, by a
shutdown or a crash, and another one starts over the same table, perhaps with
another configuration. Connections are numbered in the order in which they
became current. `resolved` and `sent` record the run; no method reads them.
-/

namespace MeshcoreObserver

open Transition

/-- The fields of a `ChannelBot` that decide where it sends. `subscribed` stands for
`#onRadioConnected`. -/
structure DeliveryBot where
  name : Text
  channelName : Text
  enabled : Bool
  subscribed : Bool
  ready : Bool
  channelIdx : Option Nat
  deriving DecidableEq, Repr

inductive BotSetupPhase where
  | listing
  | listed (channels : List ChannelSlot)
  | creating (channelIdx : Nat)
  | created (channelIdx : Nat)
  | finished (channelIdx : Option Nat)
  deriving DecidableEq, Repr

/-- One `#setup()` with the connections its two commands are bound to. -/
structure BotSetup where
  name : Text
  channelName : Text
  listedOn : Option Nat
  createdOn : Option Nat
  phase : BotSetupPhase
  deriving DecidableEq, Repr

inductive DeliveryPurpose where
  | getChannels (setup : Nat)
  | setChannel (setup channelIdx : Nat)
  | sendChannelTextMessage (number : Nat) (name : Text)
  | other
  deriving DecidableEq, Repr

structure DeliveryCommand where
  connection : Nat
  purpose : DeliveryPurpose
  deriving DecidableEq, Repr

structure Resolution where
  name : Text
  channelIdx : Nat
  listedOn : Option Nat
  createdOn : Option Nat
  deriving DecidableEq, Repr

structure SentReply where
  name : Text
  enabled : Bool
  connection : Nat
  channelIdx : Option Nat
  deriving DecidableEq, Repr

structure DeliveryWorld where
  replies : ReplyWorld Text
  connection : Option Nat
  connections : Nat
  commands : SerialQueue DeliveryCommand
  bots : List DeliveryBot
  setups : List BotSetup
  executing : List (Nat × Text)
  rejecting : List Nat
  resolved : List Resolution
  sent : List SentReply
  deriving DecidableEq, Repr

inductive DeliveryEvent where
  | reply (event : ReplyEvent Text)
  | dispatchStarts (number : Nat)
  | executeSettles (number : Nat) (outcome : Outcome)
  | dispatchRejects (number : Nat)
  | connects
  | connectionLost
  | setup (name : Text)
  | setupResumes (setup : Nat)
  | stopBot (name : Text)
  | runCommand
  | commandStarts
  | commandSettles (outcome : Outcome) (channels : List ChannelSlot)
  | processStarts (configuration : List BotConfig) (ttlMs quietMs now : Int)
  deriving DecidableEq, Repr

namespace DeliveryBot

def new (config : BotConfig) : DeliveryBot :=
  { name := config.name, channelName := config.channel, enabled := config.enabled
    subscribed := config.enabled, ready := false, channelIdx := none }

def stop (bot : DeliveryBot) : DeliveryBot := { bot with subscribed := false, ready := false }

def update (bots : List DeliveryBot) (name : Text) (change : DeliveryBot → DeliveryBot) :
    List DeliveryBot :=
  bots.map fun bot => if bot.name = name then change bot else bot

end DeliveryBot

/-- A new process over the same table. What the old one had in memory is gone. -/
def ReplyWorld.takeOver {Item : Type*} (world : ReplyWorld Item) (ttlMs quietMs now : Int) :
    ReplyWorld Item :=
  { world with
    queue := .new ttlMs
    air := .new quietMs now
    otherSending := false
    intervals := []
    transmissions := []
    stopsWaiting := 0
    clock := now }

theorem ReplyWorld.Lawful.restart_eq_takeOver {Item : Type*} {world : ReplyWorld Item}
    (lawful : world.Lawful) (stopped : world.queue.stopped = true)
    (finished : world.stopsWaiting = 0) (ttlMs quietMs now : Int) :
    world.restart ttlMs quietMs now = world.takeOver ttlMs quietMs now := by
  have unsent := lawful.scheduled.finished stopped finished
  have timers := lawful.scheduled.timers
  rw [lawful.scheduled.stopped stopped, Option.toList_none] at timers
  simp only [ReplyWorld.restart, ReplyWorld.takeOver, unsent, timers, finished]

namespace DeliveryWorld

variable (toLowerCase : Text → Text)

def new (configuration : List BotConfig) (ttlMs quietMs now : Int) : DeliveryWorld :=
  { replies := .new ttlMs quietMs now, connection := none, connections := 0, commands := .empty
    bots := configuration.map DeliveryBot.new, setups := [], executing := [], rejecting := []
    resolved := [], sent := [] }

def findBot (world : DeliveryWorld) (name : Text) : Option DeliveryBot :=
  world.bots.find? fun bot => bot.name = name

/-- The events of the reply queue that are its own or come from a packet. Only a ready bot
enqueues. -/
def admits (world : DeliveryWorld) : ReplyEvent Text → Bool
  | .enqueue name _ => world.bots.any fun bot => bot.name = name ∧ bot.ready
  | .dispatchStarts _ => false
  | .dispatchSettles _ _ => false
  | .restart _ _ _ => false
  | _ => true

/-- The dispatcher is called with a reply. Without its bot it throws. -/
def dispatchStarts (world : DeliveryWorld) (number : Nat) : Option DeliveryWorld :=
  match world.replies.transmissions.find? fun transmission =>
      transmission.row.item.number = number with
  | none => none
  | some transmission =>
      (world.replies.step (.dispatchStarts number)).map fun replies =>
        match world.findBot transmission.row.item.item with
        | some bot => { world with replies, executing := world.executing ++ [(number, bot.name)] }
        | none => { world with replies, rejecting := world.rejecting ++ [number] }

/-- `sendQueuedReply` after its handler: the rendered message goes to `runCommand`. -/
def executeSettles (world : DeliveryWorld) (number : Nat) (outcome : Outcome) :
    Option DeliveryWorld :=
  match world.executing.find? fun execution => execution.1 = number with
  | none => none
  | some (_, name) =>
      let executing := world.executing.filter fun execution => execution.1 ≠ number
      match outcome, world.connection with
      | .resolved, some connection =>
          some { world with
            executing
            commands := world.commands.submit ⟨connection, .sendChannelTextMessage number name⟩ }
      | _, _ => some { world with executing, rejecting := world.rejecting ++ [number] }

/-- The promise of a dispatch that failed before its command settles. -/
def dispatchRejects (world : DeliveryWorld) (number : Nat) : Option DeliveryWorld :=
  if number ∈ world.rejecting then
    (world.replies.step (.dispatchSettles number .rejected)).map fun replies =>
      { world with replies, rejecting := world.rejecting.filter fun other => other ≠ number }
  else none

def become (world : DeliveryWorld) (number : Nat) (phase : BotSetupPhase) : List BotSetup :=
  world.setups.modify number fun setup => { setup with phase }

/-- `#setup()` up to its first `await`. Without a connection its listing is rejected. -/
def setup (world : DeliveryWorld) (name : Text) : Option DeliveryWorld :=
  match world.findBot name with
  | none => none
  | some bot =>
      if bot.subscribed then
        let bots := DeliveryBot.update world.bots name fun bot => { bot with ready := false }
        match world.connection with
        | some connection =>
            some { world with
              bots
              commands := world.commands.submit ⟨connection, .getChannels world.setups.length⟩
              setups := world.setups ++
                [⟨name, bot.channelName, some connection, none, .listing⟩] }
        | none =>
            some { world with
              bots
              setups := world.setups ++ [⟨name, bot.channelName, none, none, .finished none⟩] }
      else none

/-- The rest of `#setup()` once `ensureChannel` has returned a slot. -/
def store (world : DeliveryWorld) (number : Nat) (setup : BotSetup) (channelIdx : Nat) :
    DeliveryWorld :=
  { world with
    bots := DeliveryBot.update world.bots setup.name fun bot =>
      { bot with channelIdx := some channelIdx, ready := true }
    setups := world.become number (.finished (some channelIdx))
    resolved := world.resolved ++
      [⟨setup.name, channelIdx, setup.listedOn, setup.createdOn⟩] }

/-- `ensureChannel` goes on from its listing or from its write. -/
def setupResumes (world : DeliveryWorld) (number : Nat) : Option DeliveryWorld :=
  match world.setups[number]? with
  | none => none
  | some setup =>
      match setup.phase with
      | .listed channels =>
          match chooseSlot toLowerCase setup.channelName channels, world.connection with
          | .existing channelIdx _, _ => some (world.store number setup channelIdx)
          | .create channelIdx, some connection =>
              some { world with
                commands := world.commands.submit ⟨connection, .setChannel number channelIdx⟩
                setups := world.setups.modify number fun setup =>
                  { setup with createdOn := some connection, phase := .creating channelIdx } }
          | _, _ => some { world with setups := world.become number (.finished none) }
      | .created channelIdx => some (world.store number setup channelIdx)
      | _ => none

/-- The next command is called. A send reads `#channelIdx` now. -/
def commandStarts (world : DeliveryWorld) : Option DeliveryWorld :=
  world.commands.start.map fun commands =>
    match commands.running with
    | some ⟨connection, .sendChannelTextMessage _ name⟩ =>
        { world with
          commands
          sent := world.sent ++ (world.findBot name).toList.map fun bot =>
            ⟨name, bot.enabled, connection, bot.channelIdx⟩ }
    | _ => { world with commands }

/-- The command under way settles. `channels` is the answer to a listing. -/
def commandSettles (world : DeliveryWorld) (outcome : Outcome) (channels : List ChannelSlot) :
    Option DeliveryWorld :=
  let commands := { world.commands with running := none }
  match world.commands.running with
  | none => none
  | some ⟨_, .getChannels number⟩ =>
      some { world with
        commands
        setups := world.become number
          (match outcome with
          | .resolved => .listed channels
          | .rejected => .finished none) }
  | some ⟨_, .setChannel number channelIdx⟩ =>
      some { world with
        commands
        setups := world.become number
          (match outcome with
          | .resolved => .created channelIdx
          | .rejected => .finished none) }
  | some ⟨_, .sendChannelTextMessage number _⟩ =>
      (world.replies.step (.dispatchSettles number outcome)).map fun replies =>
        { world with replies, commands }
  | some ⟨_, .other⟩ => some { world with commands }

def processStarts (world : DeliveryWorld) (configuration : List BotConfig)
    (ttlMs quietMs now : Int) : DeliveryWorld :=
  { world with
    replies := world.replies.takeOver ttlMs quietMs now
    connection := none
    commands := .empty
    bots := configuration.map DeliveryBot.new
    setups := []
    executing := []
    rejecting := [] }

def step (world : DeliveryWorld) : DeliveryEvent → Option DeliveryWorld
  | .reply event =>
      if world.admits event then
        (world.replies.step event).map fun replies => { world with replies }
      else none
  | .dispatchStarts number => world.dispatchStarts number
  | .executeSettles number outcome => world.executeSettles number outcome
  | .dispatchRejects number => world.dispatchRejects number
  | .connects =>
      some { world with
        connection := some world.connections
        connections := world.connections + 1 }
  | .connectionLost => world.connection.map fun _ => { world with connection := none }
  | .setup name => world.setup name
  | .setupResumes number => world.setupResumes toLowerCase number
  | .stopBot name =>
      some { world with bots := DeliveryBot.update world.bots name DeliveryBot.stop }
  | .runCommand =>
      world.connection.map fun connection =>
        { world with commands := world.commands.submit ⟨connection, .other⟩ }
  | .commandStarts => world.commandStarts
  | .commandSettles outcome channels => world.commandSettles outcome channels
  | .processStarts configuration ttlMs quietMs now =>
      if world.replies.clock ≤ now then
        some (world.processStarts configuration ttlMs quietMs now)
      else none

end DeliveryWorld

/-- Every delivery from the first process on. -/
def deliverySystem (toLowerCase : Text → Text) : EventSystem DeliveryWorld DeliveryEvent where
  Initial world := ∃ configuration ttlMs quietMs now, world = .new configuration ttlMs quietMs now
  step := DeliveryWorld.step toLowerCase

namespace DeliveryWorld

def echoBot (enabled : Bool) : List BotConfig :=
  [{ name := "echo".toList, channel := "#echo".toList, enabled, minHops := 1
     maxMessageBytes := none
     commands := [{ CommandConfig.bare "!echo".toList none with response := some "hi".toList }] }]

def connectsAndSetsUp (setup channelIdx : Nat) : List DeliveryEvent :=
  [.connects, .setup "echo".toList, .commandStarts,
    .commandSettles .resolved [⟨channelIdx, "#echo".toList, []⟩], .setupResumes setup]

end DeliveryWorld

end MeshcoreObserver
