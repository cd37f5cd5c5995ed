import MeshcoreObserver.Bots.CommandHandlers
import MeshcoreObserver.Bots.GroupTextCrypto
import MeshcoreObserver.Bots.RepeatCheckTracker
import MeshcoreObserver.Packets.PacketDeduplicator
import Mathlib.Data.Rat.Init

/-!
# Channel bots

One `ChannelBot` between a received frame and the reply queue. `#handleRawPacket`
has no `await`, so it is a function of the bot, the push and two clock readings:
it returns the bot afterwards and what it enqueues, and an exception it throws is
logged by `start()` and enqueues nothing. `sendQueuedReply` is modelled up to the
message it hands to the radio.

The packet parser and the cryptographic functions are parameters.
-/

namespace MeshcoreObserver

/-- What `Packet.fromBytes` makes of a frame, with the results of `getPathHashCount()` and
`getPathHashes()`. -/
structure Packet where
  payloadType : Nat
  routeType : Text
  pathLen : Nat
  pathHashCount : Nat
  pathHashes : List (List UInt8)
  payload : List UInt8
  deriving DecidableEq, Repr

/-- The functions a bot calls that are not part of the repository. `none` stands for a parser that
throws. -/
structure BotRuntime where
  fromBytes : List UInt8 → Option Packet
  sha256 : List UInt8 → List UInt8
  cipher : GroupTextCipher
  toLowerCase : Text → Text

/-- A `LogRxData` push. A measurement that is no finite number is `none`. -/
structure RawPush where
  lastSnr : Option Rat
  lastRssi : Option Rat
  raw : List UInt8
  deriving DecidableEq, Repr

/-- The bytes of the frame that `normalizeRawPacketEvent(rawPush)` carries in its `frameHex`. -/
def normalizeRawPacketEvent (push : RawPush) : Option (List UInt8) :=
  if push.lastSnr.isSome ∧ push.lastRssi.isSome then some push.raw else none

def payloadTypeTrace : Nat := 0x09

def payloadTypeGrpTxt : Nat := 0x05

def calculatePacketHash (sha256 : List UInt8 → List UInt8) (payloadType pathLen : Nat)
    (payload : List UInt8) : Text :=
  let traced := if payloadType = payloadTypeTrace then
    [UInt8.ofNat pathLen, UInt8.ofNat (pathLen / 256)] else []
  (Text.upperHex (sha256 (UInt8.ofNat payloadType :: traced ++ payload))).take 16

def hopCountFor (packet : Packet) : Nat :=
  if packet.routeType = "DIRECT".toList ∨ packet.routeType = "TRANSPORT_DIRECT".toList then 0
  else packet.pathHashCount

def formatPath (packet : Packet) : Text :=
  Text.join [Char.ofNat 0x27A1, Char.ofNat 0xFE0F] (packet.pathHashes.map Text.upperHex)

def channelHashForKey (sha256 : List UInt8 → List UInt8) (key16 : List UInt8) : Text :=
  Text.hex ((sha256 key16).take 1)

structure QueuedReply where
  botName : Text
  channel : Text
  trigger : Text
  sender : Text
  hopCount : Nat
  path : Text
  hash : Text
  handlerState : HandlerState
  deriving DecidableEq, Repr

structure RepeatMeta where
  sender : Text
  trigger : Text
  hash : Text
  deriving DecidableEq, Repr

structure ChannelBot where
  name : Text
  channelName : Text
  enabled : Bool
  minHops : Nat
  maxMessageBytes : Nat
  commands : List CommandConfig
  deduplicator : PacketDeduplicator Text
  repeatCheckTracker : RepeatCheckTracker RepeatMeta
  channelIdx : Option Nat
  channelSecret : List UInt8
  channelHash : Option Text
  ready : Bool
  repliesSent : Nat
  repeatsConfirmed : Nat
  repeatsUnconfirmed : Nat
  deriving DecidableEq, Repr

/-- `map.set(command.trigger, command)`: a known trigger keeps its place. -/
def setCommand (commands : List CommandConfig) (command : CommandConfig) : List CommandConfig :=
  if commands.any fun other => other.trigger = command.trigger then
    commands.map fun other => if other.trigger = command.trigger then command else other
  else commands ++ [command]

def commandMap (commands : List CommandConfig) : List CommandConfig :=
  commands.foldl setCommand []

theorem foldl_setCommand (known commands : List CommandConfig)
    (distinct : ((known ++ commands).map CommandConfig.trigger).Nodup) :
    commands.foldl setCommand known = known ++ commands := by
  induction commands generalizing known with
  | nil => exact (List.append_nil known).symm
  | cons command commands ih =>
      have regrouped : known ++ command :: commands = known ++ [command] ++ commands := by simp
      have fresh : ¬known.any fun other => other.trigger = command.trigger := by
        intro found
        rcases List.any_eq_true.mp found with ⟨other, otherMem, same⟩
        rw [List.map_append, List.nodup_append] at distinct
        exact distinct.2.2 other.trigger (List.mem_map_of_mem otherMem) command.trigger
          (by simp) (of_decide_eq_true same)
      rw [regrouped] at distinct ⊢
      rw [List.foldl_cons, setCommand, if_neg fresh, ih _ distinct]

/-- The map of distinct triggers holds the commands as they are configured. -/
theorem commandMap_eq {commands : List CommandConfig}
    (distinct : (commands.map CommandConfig.trigger).Nodup) : commandMap commands = commands :=
  foldl_setCommand [] commands distinct

namespace ChannelBot

/-- The constructor, with the defaults of its deduplicator and its tracker. -/
def new (config : BotConfig) (repeatCheckTimeoutMs : Int) : ChannelBot :=
  { name := config.name
    channelName := config.channel
    enabled := config.enabled
    minHops := config.minHops
    maxMessageBytes := config.maxMessageBytes.getD defaultMaxMessageBytes
    commands := commandMap config.commands
    deduplicator := .new 2000 300000
    repeatCheckTracker := .new repeatCheckTimeoutMs 200
    channelIdx := none
    channelSecret := []
    channelHash := none
    ready := false
    repliesSent := 0
    repeatsConfirmed := 0
    repeatsUnconfirmed := 0 }

def setupStarts (bot : ChannelBot) : ChannelBot := { bot with ready := false }

/-- The end of `#setup()` with the slot `ensureChannel` returned. -/
def setupFinishes (bot : ChannelBot) (runtime : BotRuntime) :
    Option (Nat × List UInt8) → ChannelBot
  | none => bot
  | some (channelIdx, secret) =>
      { bot with
        channelIdx := some channelIdx
        channelSecret := secret
        channelHash := some (channelHashForKey runtime.sha256 secret)
        ready := true }

/-- `#checkForRepeat(text, hopCount)`, without its log. -/
def checkForRepeat (bot : ChannelBot) (text : Text) (now : Int) : ChannelBot :=
  let (tracker, confirmed, expired) := bot.repeatCheckTracker.checkAndConsume text now
  { bot with
    repeatCheckTracker := tracker
    repeatsConfirmed := bot.repeatsConfirmed + confirmed.toList.length
    repeatsUnconfirmed := bot.repeatsUnconfirmed + expired.length }

/-- `#handleRawPacket` from the matched command on. -/
def acceptMatch (bot : ChannelBot) (runtime : BotRuntime) (packet : Packet) (sender : Text)
    (found : CommandMatch) (now : Int) : ChannelBot × Option QueuedReply :=
  if hopCountFor packet < bot.minHops then (bot, none)
  else
    let hash :=
      calculatePacketHash runtime.sha256 packet.payloadType packet.pathLen packet.payload
    let (deduplicator, duplicate) := bot.deduplicator.isDuplicate hash now
    if duplicate then ({ bot with deduplicator }, none)
    else
      ({ bot with deduplicator },
        some
          { botName := bot.name
            channel := bot.channelName
            trigger := found.command.trigger
            sender
            hopCount := hopCountFor packet
            path := formatPath packet
            hash := runtime.toLowerCase hash
            handlerState := found.state })

/-- `#handleRawPacket` from the decrypted text on. -/
def handleDecrypted (bot : ChannelBot) (runtime : BotRuntime) (packet : Packet)
    (decrypted : DecryptedGroupText) (repeatCheckedAt deduplicatedAt : Int) :
    ChannelBot × Option QueuedReply :=
  let checked := bot.checkForRepeat decrypted.text repeatCheckedAt
  match decrypted.sender with
  | none => (checked, none)
  | some sender =>
      match matchCommand checked.commands decrypted.text with
      | .ok (some found) => checked.acceptMatch runtime packet sender found deduplicatedAt
      | _ => (checked, none)

def handleRawPacket (bot : ChannelBot) (runtime : BotRuntime) (push : RawPush)
    (repeatCheckedAt deduplicatedAt : Int) : ChannelBot × Option QueuedReply :=
  if bot.ready then
    match (normalizeRawPacketEvent push).bind runtime.fromBytes with
    | none => (bot, none)
    | some packet =>
        if packet.payloadType ≠ payloadTypeGrpTxt ∨ packet.payload.length < 3 then (bot, none)
        else if some (Text.hex (packet.payload.take 1)) ≠ bot.channelHash then (bot, none)
        else
          match decryptGroupText runtime.cipher (packet.payload.drop 3)
              ((packet.payload.drop 1).take 2) bot.channelSecret with
          | none => (bot, none)
          | some decrypted =>
              bot.handleDecrypted runtime packet decrypted repeatCheckedAt deduplicatedAt
  else (bot, none)

def execute (runtime : BotRuntime) (registry : NodeRegistry) (reporter : StatsReporter)
    (command : CommandConfig) (state : HandlerState) (now : Int) : ActionResult :=
  match command.kindOrExact with
  | .exact => executeExact command
  | .lookup => executeLookup registry command (state.query.getD []) now
  | .stats => executeStats runtime.toLowerCase reporter command (state.query.getD []) now

/-- `sendQueuedReply(item)` up to the message it sends. -/
def renderQueuedReply (bot : ChannelBot) (runtime : BotRuntime) (registry : NodeRegistry)
    (reporter : StatsReporter) (item : QueuedReply) (now : Int) : Except Text RenderedResponse :=
  match bot.commands.find? fun command => command.trigger = item.trigger with
  | none =>
      .error ("no configured command matches trigger \"".toList ++ item.trigger ++ "\"".toList)
  | some command =>
      match item.handlerState.restore command.kindOrExact with
      | .error message => .error message
      | .ok state =>
          let result := execute runtime registry reporter command state now
          match result.template with
          | none => .error "Cannot read properties of undefined (reading 'replace')".toList
          | some template =>
              .ok (renderResponse template result.overflowTemplate
                (result.values ++
                  [("sender".toList, item.sender), ("hopCount".toList, Text.ofInt item.hopCount),
                    ("path".toList, item.path), ("trigger".toList, item.trigger),
                    ("hash".toList, item.hash)])
                bot.maxMessageBytes)

/-- `sendQueuedReply(item)` once its send has resolved. -/
def replySent (bot : ChannelBot) (item : QueuedReply) (message : Text) (now : Int) : ChannelBot :=
  let (tracker, expired, _) :=
    bot.repeatCheckTracker.register message ⟨item.sender, item.trigger, item.hash⟩ now
  { bot with
    repeatCheckTracker := tracker
    repliesSent := bot.repliesSent + 1
    repeatsUnconfirmed := bot.repeatsUnconfirmed + expired.length }

def sweepRepeatChecks (bot : ChannelBot) (now : Int) : ChannelBot :=
  if bot.enabled then
    let (tracker, expired) := bot.repeatCheckTracker.evictExpired now
    { bot with
      repeatCheckTracker := tracker
      repeatsUnconfirmed := bot.repeatsUnconfirmed + expired.length }
  else bot

end ChannelBot

end MeshcoreObserver
