import MeshcoreObserver.Bots.ChannelBot
import MeshcoreObserver.Transition.EventSystem

/-!
# Runs of a channel bot

A bot between `start()` and `stop()`: its setups, the frames it hears, the
replies it sends and the sweeps of its repeat checks, in any order. A disabled
bot is not subscribed to the radio.

Handling a frame only writes the deduplicator, the tracker and its counters, so
a bot keeps its configuration along every run. What it enqueues for a frame is
decided by the plaintext of the frame.
-/

namespace MeshcoreObserver

open Transition

inductive BotEvent where
  | setupStarts
  | setupFinishes (result : Option (Nat × List UInt8))
  | packet (push : RawPush) (repeatCheckedAt deduplicatedAt : Int)
  | replySent (registry : NodeRegistry) (reporter : StatsReporter) (item : QueuedReply)
      (renderedAt sentAt : Int)
  | repeatChecksSwept (now : Int)

namespace ChannelBot

def step (runtime : BotRuntime) (bot : ChannelBot) : BotEvent → Option ChannelBot
  | .setupStarts => if bot.enabled then some bot.setupStarts else none
  | .setupFinishes result =>
      if bot.enabled then some (bot.setupFinishes runtime result) else none
  | .packet push repeatCheckedAt deduplicatedAt =>
      if bot.enabled then
        some (bot.handleRawPacket runtime push repeatCheckedAt deduplicatedAt).1
      else none
  | .replySent registry reporter item renderedAt sentAt =>
      match bot.renderQueuedReply runtime registry reporter item renderedAt with
      | .error _ => none
      | .ok rendered => some (bot.replySent item rendered.message sentAt)
  | .repeatChecksSwept now => some (bot.sweepRepeatChecks now)

end ChannelBot

/-- Every run of the bot of a configuration. -/
def botSystem (runtime : BotRuntime) (config : BotConfig) : EventSystem ChannelBot BotEvent where
  Initial bot := ∃ repeatCheckTimeoutMs, bot = .new config repeatCheckTimeoutMs
  step := ChannelBot.step runtime

/-- What a bot keeps of its configuration. -/
structure ChannelBot.Configured (config : BotConfig) (bot : ChannelBot) : Prop where
  commands : bot.commands = commandMap config.commands
  minHops : bot.minHops = config.minHops
  enabled : bot.enabled = config.enabled
  ready : bot.ready = true → config.enabled = true

namespace ChannelBot

variable {runtime : BotRuntime} {config : BotConfig}

/-- The group text of a frame a bot reads: the frame decrypts on the channel the bot is ready on. -/
def heardGroupText (bot : ChannelBot) (runtime : BotRuntime) (push : RawPush) :
    Option (Packet × DecryptedGroupText) :=
  if bot.ready then
    match (normalizeRawPacketEvent push).bind runtime.fromBytes with
    | none => none
    | some packet =>
        if packet.payloadType ≠ payloadTypeGrpTxt ∨ packet.payload.length < 3 then none
        else if some (Text.hex (packet.payload.take 1)) ≠ bot.channelHash then none
        else
          (decryptGroupText runtime.cipher (packet.payload.drop 3)
            ((packet.payload.drop 1).take 2) bot.channelSecret).map fun decrypted =>
              (packet, decrypted)
  else none

section Frame

variable (bot : ChannelBot) (runtime : BotRuntime)

theorem handleRawPacket_eq_heard (push : RawPush) (repeatCheckedAt deduplicatedAt : Int) :
    bot.handleRawPacket runtime push repeatCheckedAt deduplicatedAt =
      match bot.heardGroupText runtime push with
      | none => (bot, none)
      | some heard =>
          bot.handleDecrypted runtime heard.1 heard.2 repeatCheckedAt deduplicatedAt := by
  rw [handleRawPacket, heardGroupText]
  by_cases ready : bot.ready = true
  · rw [if_pos ready, if_pos ready]
    cases (normalizeRawPacketEvent push).bind runtime.fromBytes with
    | none => rfl
    | some packet =>
        simp only
        by_cases short : packet.payloadType ≠ payloadTypeGrpTxt ∨ packet.payload.length < 3
        · rw [if_pos short, if_pos short]
        · rw [if_neg short, if_neg short]
          by_cases other : some (Text.hex (packet.payload.take 1)) ≠ bot.channelHash
          · rw [if_pos other, if_pos other]
          · rw [if_neg other, if_neg other]
            cases decryptGroupText runtime.cipher (packet.payload.drop 3)
              ((packet.payload.drop 1).take 2) bot.channelSecret with
            | none => rfl
            | some decrypted => rfl
  · rw [if_neg ready, if_neg ready]

variable {bot runtime} in
theorem heardGroupText_eq_some {push : RawPush} {packet : Packet}
    {decrypted : DecryptedGroupText} :
    bot.heardGroupText runtime push = some (packet, decrypted) ↔
      bot.ready = true ∧ (normalizeRawPacketEvent push).bind runtime.fromBytes = some packet ∧
        packet.payloadType = payloadTypeGrpTxt ∧ 3 ≤ packet.payload.length ∧
        some (Text.hex (packet.payload.take 1)) = bot.channelHash ∧
        decryptGroupText runtime.cipher (packet.payload.drop 3)
          ((packet.payload.drop 1).take 2) bot.channelSecret = some decrypted := by
  rw [heardGroupText]
  by_cases ready : bot.ready = true
  · rw [if_pos ready]
    cases (normalizeRawPacketEvent push).bind runtime.fromBytes with
    | none => simp
    | some received =>
        simp only [Option.some.injEq]
        constructor
        · intro heard
          rw [Option.ite_none_left_eq_some, Option.ite_none_left_eq_some,
            Option.map_eq_some_iff] at heard
          rcases heard with ⟨whole, channel, read, readable, same⟩
          cases same
          rw [not_or, not_not, Nat.not_lt] at whole
          exact ⟨ready, rfl, whole.1, whole.2, not_not.mp channel, readable⟩
        · rintro ⟨_, rfl, groupText, whole, channel, readable⟩
          rw [if_neg (by omega), if_neg (not_not.mpr channel), readable]
          rfl
  · rw [if_neg ready]
    simp [ready]

theorem checkForRepeat_eq (text : Text) (now : Int) :
    ∃ tracker confirmed unconfirmed, bot.checkForRepeat text now =
      { bot with
        repeatCheckTracker := tracker
        repeatsConfirmed := confirmed
        repeatsUnconfirmed := unconfirmed } :=
  ⟨_, _, _, rfl⟩

theorem acceptMatch_fst (packet : Packet) (sender : Text) (found : CommandMatch) (now : Int) :
    ∃ deduplicator, (bot.acceptMatch runtime packet sender found now).1 =
      { bot with deduplicator } := by
  simp only [acceptMatch]
  split
  · exact ⟨bot.deduplicator, rfl⟩
  · split
    · exact ⟨_, rfl⟩
    · exact ⟨_, rfl⟩

theorem handleDecrypted_fst (packet : Packet) (decrypted : DecryptedGroupText)
    (repeatCheckedAt deduplicatedAt : Int) :
    ∃ deduplicator tracker confirmed unconfirmed,
      (bot.handleDecrypted runtime packet decrypted repeatCheckedAt deduplicatedAt).1 =
        { bot with
          deduplicator
          repeatCheckTracker := tracker
          repeatsConfirmed := confirmed
          repeatsUnconfirmed := unconfirmed } := by
  rcases bot.checkForRepeat_eq decrypted.text repeatCheckedAt with
    ⟨tracker, confirmed, unconfirmed, checked⟩
  simp only [handleDecrypted, checked]
  split
  · exact ⟨_, _, _, _, rfl⟩
  · rename_i sender named
    split
    · rename_i found matched
      rcases acceptMatch_fst _ runtime packet sender found deduplicatedAt with
        ⟨deduplicator, accepted⟩
      exact ⟨deduplicator, _, _, _, accepted⟩
    · exact ⟨_, _, _, _, rfl⟩

/-- Handling a frame leaves everything else as it is. -/
theorem handleRawPacket_fst (push : RawPush) (repeatCheckedAt deduplicatedAt : Int) :
    ∃ deduplicator tracker confirmed unconfirmed,
      (bot.handleRawPacket runtime push repeatCheckedAt deduplicatedAt).1 =
        { bot with
          deduplicator
          repeatCheckTracker := tracker
          repeatsConfirmed := confirmed
          repeatsUnconfirmed := unconfirmed } := by
  simp only [handleRawPacket]
  repeat' split
  · exact ⟨_, _, _, _, rfl⟩
  · exact ⟨_, _, _, _, rfl⟩
  · exact ⟨_, _, _, _, rfl⟩
  · exact ⟨_, _, _, _, rfl⟩
  · apply handleDecrypted_fst
  · exact ⟨_, _, _, _, rfl⟩

end Frame

theorem configured_new (config : BotConfig) (repeatCheckTimeoutMs : Int) :
    (new config repeatCheckTimeoutMs).Configured config where
  commands := rfl
  minHops := rfl
  enabled := rfl
  ready ready := by cases ready

namespace Configured

theorem step {before after : ChannelBot} {event : BotEvent}
    (configured : before.Configured config) (stepped : before.step runtime event = some after) :
    after.Configured config := by
  rcases configured with ⟨commands, minHops, enabled, ready⟩
  cases event with
  | setupStarts =>
      simp only [ChannelBot.step, Option.ite_none_right_eq_some, Option.some.injEq] at stepped
      rcases stepped with ⟨_, rfl⟩
      exact ⟨commands, minHops, enabled, fun ready => by cases ready⟩
  | setupFinishes result =>
      simp only [ChannelBot.step, Option.ite_none_right_eq_some, Option.some.injEq] at stepped
      rcases stepped with ⟨subscribed, rfl⟩
      cases result with
      | none => exact ⟨commands, minHops, enabled, ready⟩
      | some result => exact ⟨commands, minHops, enabled, fun _ => enabled.symm.trans subscribed⟩
  | packet push repeatCheckedAt deduplicatedAt =>
      simp only [ChannelBot.step, Option.ite_none_right_eq_some, Option.some.injEq] at stepped
      rcases stepped with ⟨_, rfl⟩
      rcases before.handleRawPacket_fst runtime push repeatCheckedAt deduplicatedAt with
        ⟨deduplicator, tracker, confirmed, unconfirmed, handled⟩
      rw [handled]
      exact ⟨commands, minHops, enabled, ready⟩
  | replySent registry reporter item renderedAt sentAt =>
      simp only [ChannelBot.step] at stepped
      split at stepped
      · cases stepped
      · cases stepped
        exact ⟨commands, minHops, enabled, ready⟩
  | repeatChecksSwept now =>
      simp only [ChannelBot.step, sweepRepeatChecks, Option.some.injEq] at stepped
      subst after
      split
      · exact ⟨commands, minHops, enabled, ready⟩
      · exact ⟨commands, minHops, enabled, ready⟩

theorem of_leads {before after : ChannelBot} (configured : before.Configured config)
    (lead : (botSystem runtime config).Leads EventSystem.anyStep before after) :
    after.Configured config := by
  apply EventSystem.Leads.invariant _ lead configured
  intro before event after configured _ stepped
  exact configured.step stepped

end Configured

/-- A bot keeps its configuration along every run. -/
theorem configured_of_reachable {bot : ChannelBot}
    (reachable : (botSystem runtime config).Reachable bot) : bot.Configured config := by
  rcases reachable with ⟨initial, ⟨repeatCheckTimeoutMs, rfl⟩, lead⟩
  exact (configured_new config repeatCheckTimeoutMs).of_leads lead

variable {bot : ChannelBot} {packet : Packet} {push : RawPush}
  {repeatCheckedAt deduplicatedAt : Int}

theorem acceptMatch_snd {sender : Text} {found : CommandMatch} {now : Int} :
    (bot.acceptMatch runtime packet sender found now).2 = none ↔
      hopCountFor packet < bot.minHops ∨
        (bot.deduplicator.isDuplicate (calculatePacketHash runtime.sha256 packet.payloadType
          packet.pathLen packet.payload) now).2 = true := by
  simp only [acceptMatch]
  split
  · rename_i below
    simp [below]
  · rename_i enough
    split
    · rename_i duplicate
      simp [duplicate]
    · rename_i fresh
      simp [enough, fresh]

theorem handleDecrypted_snd {decrypted : DecryptedGroupText} :
    (bot.handleDecrypted runtime packet decrypted repeatCheckedAt deduplicatedAt).2 = none ↔
      ∀ sender found, decrypted.sender = some sender →
        matchCommand bot.commands decrypted.text = .ok (some found) →
          hopCountFor packet < bot.minHops ∨
            (bot.deduplicator.isDuplicate (calculatePacketHash runtime.sha256 packet.payloadType
              packet.pathLen packet.payload) deduplicatedAt).2 = true := by
  have kept : (bot.checkForRepeat decrypted.text repeatCheckedAt).commands = bot.commands := rfl
  simp only [handleDecrypted, kept]
  split
  · rename_i senderless
    simp [senderless]
  · rename_i sender named
    split
    · rename_i found matched
      rw [acceptMatch_snd]
      constructor
      · intro refused other otherFound otherNamed otherMatched
        exact refused
      · intro refused
        exact refused sender found named matched
    · rename_i unmatched
      refine iff_of_true rfl ?_
      intro other found _ matched
      exact absurd matched (unmatched found)

/-- A bot only enqueues a reply to a plaintext with a sender and a command, heard over enough
hops. -/
theorem plaintext_of_enqueued {reply : QueuedReply}
    (enqueued : (bot.handleRawPacket runtime push repeatCheckedAt deduplicatedAt).2 =
      some reply) :
    ∃ packet plaintext sender found, bot.ready = true ∧
      runtime.fromBytes push.raw = some packet ∧
      runtime.cipher.aes128EcbDecrypt bot.channelSecret (packet.payload.drop 3) = some plaintext ∧
      (parsePlaintext plaintext).sender = some sender ∧
      matchCommand bot.commands (parsePlaintext plaintext).text = .ok (some found) ∧
      bot.minHops ≤ hopCountFor packet := by
  simp only [handleRawPacket] at enqueued
  split at enqueued
  · rename_i ready
    split at enqueued
    · cases enqueued
    · rename_i packet read
      split at enqueued
      · cases enqueued
      · split at enqueued
        · cases enqueued
        · split at enqueued
          · cases enqueued
          · rename_i decrypted readable
            rcases plaintext_of_decryptGroupText readable with ⟨plaintext, decrypts, rfl⟩
            have parsed : runtime.fromBytes push.raw = some packet := by
              simp only [normalizeRawPacketEvent] at read
              split at read
              · exact read
              · cases read
            by_contra unanswered
            rw [handleDecrypted_snd.mpr] at enqueued
            · cases enqueued
            · intro sender found named matched
              by_contra accepted
              rw [not_or, Nat.not_lt] at accepted
              exact unanswered ⟨packet, plaintext, sender, found, ready, parsed, decrypts, named,
                matched, accepted.1⟩
  · cases enqueued

theorem handleRawPacket_eq {plaintext : List UInt8} (ready : bot.ready = true)
    (read : (normalizeRawPacketEvent push).bind runtime.fromBytes = some packet)
    (groupText : packet.payloadType = payloadTypeGrpTxt)
    (channel : some (Text.hex (packet.payload.take 1)) = bot.channelHash)
    (blocks : 16 ≤ (packet.payload.drop 3).length ∧ (packet.payload.drop 3).length % 16 = 0)
    (mac : calculateMac runtime.cipher (packet.payload.drop 3) bot.channelSecret =
      (packet.payload.drop 1).take 2)
    (decrypts : runtime.cipher.aes128EcbDecrypt bot.channelSecret (packet.payload.drop 3) =
      some plaintext)
    (long : 5 ≤ plaintext.length) :
    bot.handleRawPacket runtime push repeatCheckedAt deduplicatedAt =
      bot.handleDecrypted runtime packet (parsePlaintext plaintext) repeatCheckedAt
        deduplicatedAt := by
  have whole : ¬(packet.payloadType ≠ payloadTypeGrpTxt ∨ packet.payload.length < 3) := by
    rw [List.length_drop] at blocks
    omega
  have readable : decryptGroupText runtime.cipher (packet.payload.drop 3)
      ((packet.payload.drop 1).take 2) bot.channelSecret = some (parsePlaintext plaintext) := by
    apply decryptGroupText_eq blocks _ decrypts long
    rw [mac, List.take_take, Nat.min_self]
  simp only [handleRawPacket, if_pos ready, read, if_neg whole, channel, ne_eq, not_true,
    if_false, readable]

end ChannelBot

end MeshcoreObserver
