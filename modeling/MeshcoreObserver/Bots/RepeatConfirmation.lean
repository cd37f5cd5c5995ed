import MeshcoreObserver.Bots.RepeatLedger

/-!
# Which replies are ever confirmed

The tracker knows a reply by the text that was sent, but what is looked up for a
frame is what is left of its plaintext once a sender is split off. A reply which
begins with a plausible name, a colon and a blank is looked up without it, so
its rebroadcast confirms nothing, or another reply.
-/

namespace MeshcoreObserver

open Transition RepeatCheckTracker

/-- A frame takes the first waiting registration of the message out, and is counted. -/
structure ConfirmsRepeat (bot after : ChannelBot) (message : Text) (now : Int) : Prop where
  consumes : ∃ entry, bot.repeatCheckTracker.waiting message now =
    entry :: entriesFor message after.repeatCheckTracker.pendingByText
  counts : after.repeatsConfirmed = bot.repeatsConfirmed + 1

/-- The message does not begin like a message with a sender. -/
def Senderless (message : Text) : Prop :=
  ∀ sender content, message = sender ++ (": ".toList ++ content) → ¬IsSenderName sender

theorem splitSender_of_senderless {message : Text} (senderless : Senderless message) :
    splitSender message = (none, message) := by
  rcases split : splitSender message with ⟨sender, content⟩
  cases sender with
  | some sender =>
      rcases splitSender_eq_some.mp split with ⟨shape, named⟩
      exact absurd named (senderless sender content shape)
  | none =>
      simp only [splitSender] at split
      split at split
      · exact split.symm
      · split at split
        · cases split
        · exact split.symm

variable {runtime : BotRuntime} {config : BotConfig} {bot : ChannelBot} {message : Text}

theorem tracker_wellFormed (reachable : (botSystem runtime config).Reachable bot) :
    bot.repeatCheckTracker.WellFormed := by
  rcases RepeatLedger.exists_ledger reachable with ⟨ledger, ledgerReachable, rfl⟩
  exact (RepeatLedger.conserved_of_reachable ledgerReachable).wellFormed

/-- What a bot reads of a frame that carries the message. -/
theorem heardGroupText_of_carries {push : RawPush} {packet : Packet} (ready : bot.ready = true)
    (received : (normalizeRawPacketEvent push).bind runtime.fromBytes = some packet)
    (carries : Carries runtime bot packet message)
    (blocks : 16 ≤ (packet.payload.drop 3).length ∧ (packet.payload.drop 3).length % 16 = 0)
    (noNul : '\x00' ∉ message) :
    ∃ decrypted, bot.heardGroupText runtime push = some (packet, decrypted) ∧
      decrypted.text = (splitSender message).2 := by
  rcases carries.text with ⟨plaintext, decrypts, long, text⟩
  have whole := Text.takeWhile_of_not_mem noNul
  have readable : decryptGroupText runtime.cipher (packet.payload.drop 3)
      ((packet.payload.drop 1).take 2) bot.channelSecret = some (parsePlaintext plaintext) := by
    apply decryptGroupText_eq blocks _ decrypts long
    rw [carries.mac, List.take_take, Nat.min_self]
  refine ⟨parsePlaintext plaintext, ?_, ?_⟩
  · apply ChannelBot.heardGroupText_eq_some.mpr
    refine ⟨ready, received, carries.groupText, ?_, carries.channel, readable⟩
    rw [List.length_drop] at blocks
    omega
  · rw [parsePlaintext, text, whole]

theorem confirmsRepeat_check (wellFormed : bot.repeatCheckTracker.WellFormed) {after : ChannelBot}
    {text : Text} {now : Int}
    (checked : after.repeatChecks = (bot.checkForRepeat text now).repeatChecks) :
    ConfirmsRepeat bot after message now ↔
      text = message ∧ bot.repeatCheckTracker.waiting message now ≠ [] := by
  have tracker : after.repeatCheckTracker = (bot.repeatCheckTracker.checkAndConsume text now).1 :=
    congrArg ChannelBot.RepeatChecks.tracker checked
  have counted : after.repeatsConfirmed = bot.repeatsConfirmed +
      (bot.repeatCheckTracker.checkAndConsume text now).2.1.toList.length :=
    congrArg ChannelBot.RepeatChecks.repeatsConfirmed checked
  have left := entriesFor_checkAndConsume wellFormed text message now
  have confirmed := isSome_checkAndConsume wellFormed text now
  rw [← tracker] at left
  constructor
  · rintro ⟨⟨entry, consumes⟩, _⟩
    rw [left] at consumes
    split at consumes
    · rename_i same
      refine ⟨same.symm, ?_⟩
      rw [consumes]
      exact List.cons_ne_nil _ _
    · exact absurd consumes.symm (List.cons_ne_self _ _)
  · rintro ⟨rfl, waits⟩
    rw [if_pos rfl] at left
    rcases List.exists_cons_of_ne_nil waits with ⟨entry, entries, queue⟩
    refine ⟨⟨entry, ?_⟩, ?_⟩
    · rw [left, queue, List.tail_cons]
    · rcases Option.isSome_iff_exists.mp (confirmed.mpr waits) with ⟨confirmation, found⟩
      rw [counted, found]
      rfl

/-- The rebroadcast of a message confirms it exactly when the bot is ready, a registration of the
message still waits, and the message does not begin like one with a sender. A registration waits
until its timeout. -/
theorem confirmsRepeat_iff (reachable : (botSystem runtime config).Reachable bot) {push : RawPush}
    {packet : Packet} {now deduplicatedAt : Int}
    (received : (normalizeRawPacketEvent push).bind runtime.fromBytes = some packet)
    (carries : Carries runtime bot packet message)
    (blocks : 16 ≤ (packet.payload.drop 3).length ∧ (packet.payload.drop 3).length % 16 = 0)
    (noNul : '\x00' ∉ message) :
    (ConfirmsRepeat bot (bot.handleRawPacket runtime push now deduplicatedAt).1 message now ↔
        bot.ready = true ∧ bot.repeatCheckTracker.waiting message now ≠ [] ∧
          Senderless message) ∧
      ∀ info sentAt, ⟨info, sentAt + bot.repeatCheckTracker.timeoutMs, sentAt⟩ ∈
          entriesFor message bot.repeatCheckTracker.pendingByText →
        now < sentAt + bot.repeatCheckTracker.timeoutMs →
          bot.repeatCheckTracker.waiting message now ≠ [] := by
  have wellFormed := tracker_wellFormed reachable
  have checked := bot.handleRawPacket_repeatChecks runtime push now deduplicatedAt
  constructor
  · by_cases ready : bot.ready = true
    · rcases heardGroupText_of_carries ready received carries blocks noNul with
        ⟨decrypted, heard, text⟩
      rw [heard] at checked
      rw [confirmsRepeat_check wellFormed checked, text]
      constructor
      · rintro ⟨same, waits⟩
        refine ⟨ready, waits, ?_⟩
        intro sender content shape named
        rw [splitSender_eq_some.mpr ⟨shape, named⟩] at same
        have length := congrArg List.length (shape.symm.trans same.symm)
        simp at length
        omega
      · rintro ⟨_, waits, senderless⟩
        rw [splitSender_of_senderless senderless]
        exact ⟨rfl, waits⟩
    · have deaf : bot.heardGroupText runtime push = none := by
        rw [ChannelBot.heardGroupText, if_neg ready]
      rw [deaf] at checked
      have counted := congrArg ChannelBot.RepeatChecks.repeatsConfirmed checked
      simp only [ChannelBot.repeatChecks] at counted
      constructor
      · rintro ⟨_, counts⟩
        omega
      · rintro ⟨isReady, _⟩
        exact absurd isReady ready
  · intro info sentAt registered young none
    rw [waiting, List.dropWhile_eq_nil_iff] at none
    have expired := of_decide_eq_true (none _ registered)
    simp only at expired
    omega

theorem usage_renders : statsBotReady.renderQueuedReply echoRuntime RepeatLedger.silentRegistry
    ⟨none, fun _ => []⟩ statsItem 900 = .ok ⟨usageReply, false⟩ := by
  decide +kernel

theorem statsBotReplied_reachable :
    (botSystem echoRuntime statsBot).Reachable statsBotReplied := by
  rcases statsBotReady_reachable with ⟨initial, starts, lead⟩
  refine ⟨initial, starts, lead.tail ⟨.replySent RepeatLedger.silentRegistry ⟨none, fun _ => []⟩
    statsItem 900 1000, trivial, ?_⟩⟩
  simp only [botSystem, ChannelBot.step, usage_renders, statsBotReplied]

theorem usage_carried : Carries echoRuntime statsBotReplied usagePacket usageReply :=
  carries_groupTextPayload echoRuntime_documented rfl rfl rfl rfl usagePayload_eq

theorem confirmsRepeat_iff_of_usage :
    (ConfirmsRepeat statsBotReplied
        (statsBotReplied.handleRawPacket echoRuntime usagePush 2000 2000).1 usageReply 2000 ↔
        statsBotReplied.ready = true ∧
          statsBotReplied.repeatCheckTracker.waiting usageReply 2000 ≠ [] ∧
          Senderless usageReply) ∧
      ∀ info sentAt, ⟨info, sentAt + statsBotReplied.repeatCheckTracker.timeoutMs, sentAt⟩ ∈
          entriesFor usageReply statsBotReplied.repeatCheckTracker.pendingByText →
        2000 < sentAt + statsBotReplied.repeatCheckTracker.timeoutMs →
          statsBotReplied.repeatCheckTracker.waiting usageReply 2000 ≠ [] :=
  confirmsRepeat_iff statsBotReplied_reachable rfl usage_carried (by decide) (by decide)

/-- The rebroadcast of the shipped usage, heard a second after it was sent, does not confirm
it. -/
theorem usage_unconfirmed :
    ¬∀ (runtime : BotRuntime) (encrypt : List UInt8 → List UInt8 → List UInt8) (filePath : Text)
      (file : BotsFile) (bots : List BotConfig) (config : BotConfig) (bot : ChannelBot)
      (registry : NodeRegistry) (reporter : StatsReporter) (item : QueuedReply)
      (renderedAt sentAt now deduplicatedAt : Int) (message : Text) (degraded : Bool)
      (header : List UInt8) (push : RawPush) (packet : Packet),
      loadBotsConfig filePath file = .ok bots → config ∈ bots → runtime.Documented encrypt →
        (botSystem runtime config).Reachable bot →
          bot.renderQueuedReply runtime registry reporter item renderedAt =
            .ok ⟨message, degraded⟩ →
          '\x00' ∉ message → header.length = 5 →
          (normalizeRawPacketEvent push).bind runtime.fromBytes = some packet →
          packet.payloadType = payloadTypeGrpTxt →
          packet.payload =
            groupTextPayload runtime encrypt bot.channelSecret (encodePlaintext header message) →
          sentAt ≤ now → now < sentAt + bot.repeatCheckTracker.timeoutMs →
            ConfirmsRepeat (bot.replySent item message sentAt)
              ((bot.replySent item message sentAt).handleRawPacket runtime push now
                deduplicatedAt).1 message now := by
  intro always
  have confirms := always echoRuntime echoEncrypt _ _ _ statsBot statsBotReady
    RepeatLedger.silentRegistry ⟨none, fun _ => []⟩ statsItem 900 1000 2000 2000 usageReply false
    [0x00, 0xE0, 0x4D, 0x68, 0x00] usagePush usagePacket statsBot_loaded
    (List.mem_singleton_self statsBot) echoRuntime_documented statsBotReady_reachable usage_renders
    (by decide) rfl rfl rfl usagePayload_eq (by decide) (by decide)
  have received : (normalizeRawPacketEvent usagePush).bind echoRuntime.fromBytes =
      some usagePacket := rfl
  rcases heardGroupText_of_carries rfl received usage_carried (by decide) (by decide) with
    ⟨decrypted, heard, text⟩
  have checked := statsBotReplied.handleRawPacket_repeatChecks echoRuntime usagePush 2000 2000
  rw [heard] at checked
  have wellFormed := tracker_wellFormed statsBotReplied_reachable
  have same := ((confirmsRepeat_check wellFormed checked).mp confirms).1
  rw [text] at same
  exact absurd same (by decide)

end MeshcoreObserver
