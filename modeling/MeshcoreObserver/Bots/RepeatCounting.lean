import MeshcoreObserver.Bots.GroupTextRoundTrip
import MeshcoreObserver.Bots.RepeatConfirmation

/-!
# Counting confirmations

Every reply a bot sends is one transmission with its own header, hence its own
payload, and the mesh repeats that payload unchanged. A confirmation should
stand for a reply of which a copy was heard; the tracker only compares texts,
however, so any frame with the text of a waiting reply is counted.

The count is right in the runs in which a frame that finds a waiting reply is a
copy of a transmission, and the first one to find any.
-/

namespace MeshcoreObserver

open Transition RepeatCheckTracker

/-- A bot with the payloads of its transmissions, of the frames it was given, and of the frames
that confirmed a reply. -/
structure RepeatWorld where
  bot : ChannelBot
  transmissions : List (List UInt8)
  heard : List (List UInt8)
  confirming : List (List UInt8)

inductive RepeatEvent where
  | setupStarts
  | setupFinishes (result : Option (Nat × List UInt8))
  | packet (push : RawPush) (repeatCheckedAt deduplicatedAt : Int)
  | replySent (registry : NodeRegistry) (reporter : StatsReporter) (item : QueuedReply)
      (renderedAt sentAt : Int) (header : List UInt8)
  | repeatChecksSwept (now : Int)

/-- The payload of a frame whose text is that of a waiting reply. -/
def ChannelBot.confirmingPayload (runtime : BotRuntime) (bot : ChannelBot) (push : RawPush)
    (now : Int) : Option (List UInt8) :=
  match bot.heardGroupText runtime push with
  | none => none
  | some (packet, decrypted) =>
      match bot.repeatCheckTracker.waiting decrypted.text now with
      | [] => none
      | _ :: _ => some packet.payload

namespace RepeatWorld

/-- The device encrypts a reply behind the header it gives it. -/
def transmission (runtime : BotRuntime) (encrypt : List UInt8 → List UInt8 → List UInt8)
    (world : RepeatWorld) (header : List UInt8) (message : Text) : List UInt8 :=
  groupTextPayload runtime encrypt world.bot.channelSecret (encodePlaintext header message)

def step (runtime : BotRuntime) (encrypt : List UInt8 → List UInt8 → List UInt8)
    (world : RepeatWorld) : RepeatEvent → Option RepeatWorld
  | .setupStarts =>
      (world.bot.step runtime .setupStarts).map fun after => { world with bot := after }
  | .setupFinishes result =>
      (world.bot.step runtime (.setupFinishes result)).map fun after => { world with bot := after }
  | .packet push repeatCheckedAt deduplicatedAt =>
      (world.bot.step runtime (.packet push repeatCheckedAt deduplicatedAt)).map fun after =>
        { world with
          bot := after
          heard := world.heard ++
            (((normalizeRawPacketEvent push).bind runtime.fromBytes).map Packet.payload).toList
          confirming := world.confirming ++
            (world.bot.confirmingPayload runtime push repeatCheckedAt).toList }
  | .replySent registry reporter item renderedAt sentAt header =>
      match world.bot.renderQueuedReply runtime registry reporter item renderedAt with
      | .error _ => none
      | .ok rendered =>
          let payload := world.transmission runtime encrypt header rendered.message
          if header.length = 5 ∧ world.transmissions.contains payload = false then
            some
              { world with
                bot := world.bot.replySent item rendered.message sentAt
                transmissions := world.transmissions ++ [payload] }
          else none
  | .repeatChecksSwept now =>
      (world.bot.step runtime (.repeatChecksSwept now)).map fun after => { world with bot := after }

/-- A frame that finds a waiting reply is a copy of a transmission, and no copy of it has found one
before. -/
def FirstCopy (runtime : BotRuntime) (world : RepeatWorld) : RepeatEvent → Prop
  | .packet push repeatCheckedAt _ =>
      ∀ payload ∈ world.bot.confirmingPayload runtime push repeatCheckedAt,
        payload ∈ world.transmissions ∧ payload ∉ world.confirming
  | _ => True

end RepeatWorld

/-- The runs of the bot of a configuration and of the mesh around it. -/
def repeatSystem (runtime : BotRuntime) (encrypt : List UInt8 → List UInt8 → List UInt8)
    (config : BotConfig) : EventSystem RepeatWorld RepeatEvent where
  Initial world := ∃ repeatCheckTimeoutMs, world = ⟨.new config repeatCheckTimeoutMs, [], [], []⟩
  step := RepeatWorld.step runtime encrypt

namespace RepeatWorld

/-- Every confirmation is that of a transmission of its own, of which a copy was heard. -/
structure Counted (world : RepeatWorld) : Prop where
  confirmed : world.bot.repeatsConfirmed = world.confirming.length
  distinct : world.confirming.Nodup
  transmitted : world.confirming ⊆ world.transmissions
  heard : world.confirming ⊆ world.heard

variable {runtime : BotRuntime} {encrypt : List UInt8 → List UInt8 → List UInt8}
  {config : BotConfig} {world : RepeatWorld}

theorem bot_step {after : RepeatWorld} {event : RepeatEvent}
    (stepped : world.step runtime encrypt event = some after) :
    ∃ botEvent, world.bot.step runtime botEvent = some after.bot := by
  cases event with
  | setupStarts =>
      rcases Option.map_eq_some_iff.mp stepped with ⟨bot, botStepped, rfl⟩
      exact ⟨_, botStepped⟩
  | setupFinishes result =>
      rcases Option.map_eq_some_iff.mp stepped with ⟨bot, botStepped, rfl⟩
      exact ⟨_, botStepped⟩
  | packet push repeatCheckedAt deduplicatedAt =>
      rcases Option.map_eq_some_iff.mp stepped with ⟨bot, botStepped, rfl⟩
      exact ⟨_, botStepped⟩
  | replySent registry reporter item renderedAt sentAt header =>
      refine ⟨.replySent registry reporter item renderedAt sentAt, ?_⟩
      simp only [step] at stepped
      split at stepped
      · cases stepped
      · rename_i rendered renders
        rw [Option.ite_none_right_eq_some, Option.some.injEq] at stepped
        rcases stepped with ⟨_, rfl⟩
        simp only [ChannelBot.step, renders]
  | repeatChecksSwept now =>
      simp only [step, ChannelBot.step, Option.map_some, Option.some.injEq] at stepped
      subst after
      exact ⟨.repeatChecksSwept now, rfl⟩

theorem bot_reachable {condition : RepeatWorld → RepeatEvent → Prop}
    (reachable : (repeatSystem runtime encrypt config).ReachableWhen condition world) :
    (botSystem runtime config).Reachable world.bot := by
  apply EventSystem.ReachableWhen.invariant _ _ reachable
  · rintro initial ⟨repeatCheckTimeoutMs, rfl⟩
    exact ⟨_, ⟨repeatCheckTimeoutMs, rfl⟩, Relation.ReflTransGen.refl⟩
  · intro before event after botReachable _ stepped
    rcases bot_step stepped with ⟨botEvent, botStepped⟩
    rcases botReachable with ⟨initial, starts, lead⟩
    exact ⟨initial, starts, lead.tail ⟨botEvent, trivial, botStepped⟩⟩

theorem received_of_confirmingPayload {bot : ChannelBot} {push : RawPush} {now : Int}
    {payload : List UInt8} (confirms : bot.confirmingPayload runtime push now = some payload) :
    ((normalizeRawPacketEvent push).bind runtime.fromBytes).map Packet.payload = some payload := by
  simp only [ChannelBot.confirmingPayload] at confirms
  split at confirms
  · cases confirms
  · rename_i packet decrypted heard
    split at confirms
    · cases confirms
    · cases confirms
      rw [(ChannelBot.heardGroupText_eq_some.mp heard).2.1]
      rfl

variable (runtime) in
/-- A frame is counted exactly when its text is that of a waiting reply. -/
theorem repeatsConfirmed_handleRawPacket {bot : ChannelBot}
    (wellFormed : bot.repeatCheckTracker.WellFormed) (push : RawPush) (now deduplicatedAt : Int) :
    (bot.handleRawPacket runtime push now deduplicatedAt).1.repeatsConfirmed =
      bot.repeatsConfirmed + (bot.confirmingPayload runtime push now).toList.length := by
  have checked := congrArg ChannelBot.RepeatChecks.repeatsConfirmed
    (bot.handleRawPacket_repeatChecks runtime push now deduplicatedAt)
  apply checked.trans
  rw [ChannelBot.confirmingPayload]
  cases bot.heardGroupText runtime push with
  | none => rfl
  | some heard =>
      have confirmed := isSome_checkAndConsume wellFormed heard.2.text now
      simp only [ChannelBot.repeatChecks, ChannelBot.checkForRepeat]
      cases queue : bot.repeatCheckTracker.waiting heard.2.text now with
      | nil =>
          have none : (bot.repeatCheckTracker.checkAndConsume heard.2.text now).2.1 = none := by
            rw [← Option.not_isSome_iff_eq_none, confirmed, queue]
            exact not_not.mpr rfl
          rw [none]
          rfl
      | cons entry entries =>
          rw [queue] at confirmed
          have found := confirmed.mpr (List.cons_ne_nil entry entries)
          rcases Option.isSome_iff_exists.mp found with ⟨confirmation, same⟩
          rw [same]
          rfl

namespace Counted

theorem step {after : RepeatWorld} {event : RepeatEvent} (counted : world.Counted)
    (wellFormed : world.bot.repeatCheckTracker.WellFormed) (first : world.FirstCopy runtime event)
    (stepped : world.step runtime encrypt event = some after) : after.Counted := by
  rcases counted with ⟨confirmed, distinct, transmitted, heard⟩
  cases event with
  | setupStarts =>
      rcases Option.map_eq_some_iff.mp stepped with ⟨bot, botStepped, rfl⟩
      simp only [ChannelBot.step, Option.ite_none_right_eq_some, Option.some.injEq] at botStepped
      rcases botStepped with ⟨_, rfl⟩
      exact ⟨confirmed, distinct, transmitted, heard⟩
  | setupFinishes result =>
      rcases Option.map_eq_some_iff.mp stepped with ⟨bot, botStepped, rfl⟩
      simp only [ChannelBot.step, Option.ite_none_right_eq_some, Option.some.injEq] at botStepped
      rcases botStepped with ⟨_, rfl⟩
      refine ⟨?_, distinct, transmitted, heard⟩
      cases result with
      | none => exact confirmed
      | some result => exact confirmed
  | packet push repeatCheckedAt deduplicatedAt =>
      rcases Option.map_eq_some_iff.mp stepped with ⟨bot, botStepped, rfl⟩
      simp only [ChannelBot.step, Option.ite_none_right_eq_some, Option.some.injEq] at botStepped
      rcases botStepped with ⟨_, rfl⟩
      have more := repeatsConfirmed_handleRawPacket runtime wellFormed push repeatCheckedAt
        deduplicatedAt
      cases confirms : world.bot.confirmingPayload runtime push repeatCheckedAt with
      | none =>
          rw [confirms] at more
          simp only [Option.toList_none, List.append_nil]
          exact ⟨more.trans confirmed, distinct, transmitted,
            List.Subset.trans heard (List.subset_append_left _ _)⟩
      | some payload =>
          rcases first payload confirms with ⟨sent, fresh⟩
          have received := received_of_confirmingPayload confirms
          rw [confirms] at more
          simp only [received, Option.toList_some]
          refine ⟨?_, ?_, ?_, ?_⟩
          · simp only [more, confirmed, Option.toList_some, List.length_append]
          · have concat : world.confirming ++ [payload] = world.confirming.concat payload :=
              List.concat_eq_append.symm
            rw [concat]
            exact distinct.concat fresh
          · rw [List.append_subset, List.cons_subset]
            exact ⟨transmitted, sent, List.nil_subset _⟩
          · rw [List.append_subset]
            exact ⟨List.Subset.trans heard (List.subset_append_left _ _),
              List.subset_append_right _ _⟩
  | replySent registry reporter item renderedAt sentAt header =>
      simp only [RepeatWorld.step] at stepped
      split at stepped
      · cases stepped
      · rw [Option.ite_none_right_eq_some, Option.some.injEq] at stepped
        rcases stepped with ⟨_, rfl⟩
        exact ⟨confirmed, distinct,
          List.Subset.trans transmitted (List.subset_append_left _ _), heard⟩
  | repeatChecksSwept now =>
      simp only [RepeatWorld.step, ChannelBot.step, ChannelBot.sweepRepeatChecks, Option.map_some,
        Option.some.injEq] at stepped
      subst after
      refine ⟨?_, distinct, transmitted, heard⟩
      split
      · exact confirmed
      · exact confirmed

end Counted

end RepeatWorld

end MeshcoreObserver
