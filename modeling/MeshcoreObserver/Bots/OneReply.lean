import MeshcoreObserver.Bots.OwnReplies

/-!
# One reply per message

A message reaches a bot many times, over different paths. The bot asks its
deduplicator only about deliveries it would answer, so a delivery over too few
hops leaves no trace, and of the others only the first is answered.

A run is looked at moment by moment: the bot as an event finds it, and the
event. Between its frames the bot may be set up, send replies and sweep its
repeat checks.
-/

namespace MeshcoreObserver

open Transition

/-- The hash of a group text, which does not depend on its path. -/
def groupTextHash (runtime : BotRuntime) (payload : List UInt8) : Text :=
  calculatePacketHash runtime.sha256 payloadTypeGrpTxt 0 payload

namespace BotEvent

/-- The frame of the event is a group text with this payload. -/
def Delivers (runtime : BotRuntime) (payload : List UInt8) (event : BotEvent) : Prop :=
  ∃ push repeatCheckedAt deduplicatedAt packet,
    event = .packet push repeatCheckedAt deduplicatedAt ∧
      (normalizeRawPacketEvent push).bind runtime.fromBytes = some packet ∧
      packet.payloadType = payloadTypeGrpTxt ∧ packet.payload = payload

end BotEvent

namespace ChannelBot

/-- A delivery of the payload that decrypts, has a sender, matches a command and came over enough
hops. -/
def Qualifies (runtime : BotRuntime) (bot : ChannelBot) (payload : List UInt8)
    (event : BotEvent) : Prop :=
  ∃ push repeatCheckedAt deduplicatedAt packet decrypted sender found,
    event = .packet push repeatCheckedAt deduplicatedAt ∧
      bot.heardGroupText runtime push = some (packet, decrypted) ∧ packet.payload = payload ∧
      decrypted.sender = some sender ∧
      matchCommand bot.commands decrypted.text = .ok (some found) ∧
      bot.minHops ≤ hopCountFor packet

/-- The call of `isDuplicate` that handling an event makes. -/
def acceptedCall (runtime : BotRuntime) (bot : ChannelBot) : BotEvent → Option (Text × Int)
  | .packet push _ deduplicatedAt =>
      match bot.heardGroupText runtime push with
      | none => none
      | some (packet, decrypted) =>
          match decrypted.sender, matchCommand bot.commands decrypted.text with
          | some _, .ok (some _) =>
              if hopCountFor packet < bot.minHops then none
              else some (groupTextHash runtime packet.payload, deduplicatedAt)
          | _, _ => none
  | _ => none

/-- What handling an event enqueues. -/
def enqueued (runtime : BotRuntime) (bot : ChannelBot) : BotEvent → Option QueuedReply
  | .packet push repeatCheckedAt deduplicatedAt =>
      (bot.handleRawPacket runtime push repeatCheckedAt deduplicatedAt).2
  | _ => none

/-- The moments of a run. A refused event ends it. -/
def moments (runtime : BotRuntime) :
    ChannelBot → List BotEvent → List (ChannelBot × BotEvent)
  | _, [] => []
  | bot, event :: events =>
      match bot.step runtime event with
      | none => []
      | some after => (bot, event) :: moments runtime after events

/-- The calls of `isDuplicate` in a run. -/
def acceptedCalls (runtime : BotRuntime) (moments : List (ChannelBot × BotEvent)) :
    List (Text × Int) :=
  moments.filterMap fun moment => moment.1.acceptedCall runtime moment.2

variable {runtime : BotRuntime} {bot : ChannelBot} {event : BotEvent}
  {payload : List UInt8}

theorem qualifies_of_acceptedCall {call : Text × Int}
    (accepted : bot.acceptedCall runtime event = some call) :
    ∃ payload, bot.Qualifies runtime payload event ∧ call.1 = groupTextHash runtime payload := by
  cases event with
  | packet push repeatCheckedAt deduplicatedAt =>
      simp only [acceptedCall] at accepted
      split at accepted
      · cases accepted
      · rename_i packet decrypted heard
        split at accepted
        · rename_i sender found named matched
          split at accepted
          · cases accepted
          · rename_i enough
            cases accepted
            refine ⟨packet.payload, ?_, rfl⟩
            exact ⟨push, repeatCheckedAt, deduplicatedAt, packet, decrypted, sender, found, rfl,
              heard, rfl, named, matched, Nat.not_lt.mp enough⟩
        · cases accepted
  | setupStarts => cases accepted
  | setupFinishes result => cases accepted
  | replySent registry reporter item renderedAt sentAt => cases accepted
  | repeatChecksSwept now => cases accepted

theorem Qualifies.acceptedCall (qualifies : bot.Qualifies runtime payload event) :
    ∃ now, bot.acceptedCall runtime event = some (groupTextHash runtime payload, now) := by
  rcases qualifies with ⟨push, repeatCheckedAt, deduplicatedAt, packet, decrypted, sender, found,
    rfl, heard, rfl, named, matched, enough⟩
  refine ⟨deduplicatedAt, ?_⟩
  simp only [ChannelBot.acceptedCall, heard, named, matched, if_neg (Nat.not_lt.mpr enough)]

theorem Qualifies.delivers (qualifies : bot.Qualifies runtime payload event) :
    event.Delivers runtime payload := by
  rcases qualifies with ⟨push, repeatCheckedAt, deduplicatedAt, packet, decrypted, sender, found,
    rfl, heard, rfl, named, matched, enough⟩
  rcases heardGroupText_eq_some.mp heard with ⟨_, received, groupText, _⟩
  exact ⟨push, repeatCheckedAt, deduplicatedAt, packet, rfl, received, groupText, rfl⟩

theorem calculatePacketHash_eq {packet : Packet}
    (groupText : packet.payloadType = payloadTypeGrpTxt) :
    calculatePacketHash runtime.sha256 packet.payloadType packet.pathLen packet.payload =
      groupTextHash runtime packet.payload := by
  have untraced : payloadTypeGrpTxt ≠ payloadTypeTrace := by decide
  simp only [groupTextHash, calculatePacketHash, groupText, if_neg untraced]

variable (bot runtime) in
/-- Handling a frame asks the deduplicator about an accepted delivery and nothing else, and
enqueues a reply unless it is told of a duplicate. -/
theorem handleRawPacket_accepted (push : RawPush) (repeatCheckedAt deduplicatedAt : Int) :
    (bot.handleRawPacket runtime push repeatCheckedAt deduplicatedAt).1.deduplicator =
        bot.deduplicator.after
          (bot.acceptedCall runtime (.packet push repeatCheckedAt deduplicatedAt)).toList ∧
      ((bot.handleRawPacket runtime push repeatCheckedAt deduplicatedAt).2.isSome = true ↔
        ∃ call, bot.acceptedCall runtime (.packet push repeatCheckedAt deduplicatedAt) =
            some call ∧ (bot.deduplicator.isDuplicate call.1 call.2).2 = false) := by
  rw [handleRawPacket_eq_heard]
  cases heard : bot.heardGroupText runtime push with
  | none => simp [acceptedCall, heard, PacketDeduplicator.after]
  | some group =>
      rcases group with ⟨packet, decrypted⟩
      have groupText := (heardGroupText_eq_some.mp heard).2.2.1
      have kept : (bot.checkForRepeat decrypted.text repeatCheckedAt).commands = bot.commands :=
        rfl
      have hops : (bot.checkForRepeat decrypted.text repeatCheckedAt).minHops = bot.minHops := rfl
      have same : (bot.checkForRepeat decrypted.text repeatCheckedAt).deduplicator =
          bot.deduplicator := rfl
      simp only [handleDecrypted, acceptedCall, heard, kept]
      cases decrypted.sender with
      | none => simp [same, PacketDeduplicator.after]
      | some sender =>
          simp only
          split
          · rename_i found matched
            rw [matched]
            simp only [acceptMatch, hops, same, calculatePacketHash_eq groupText]
            by_cases below : hopCountFor packet < bot.minHops
            · simp [below, same, PacketDeduplicator.after]
            · simp only [if_neg below, Option.toList_some, PacketDeduplicator.after,
                List.foldl_cons, List.foldl_nil, Option.some.injEq, exists_eq_left']
              cases duplicate : (bot.deduplicator.isDuplicate (groupTextHash runtime packet.payload)
                deduplicatedAt).2 with
              | true => simp
              | false => simp
          · rename_i unmatched
            cases matched : matchCommand bot.commands decrypted.text with
            | error message => simp [same, PacketDeduplicator.after]
            | ok found =>
                cases found with
                | none => simp [same, PacketDeduplicator.after]
                | some found => exact absurd matched (unmatched found)

theorem deduplicator_step {after : ChannelBot} (stepped : bot.step runtime event = some after) :
    after.deduplicator = bot.deduplicator.after (bot.acceptedCall runtime event).toList := by
  cases event with
  | setupStarts =>
      simp only [step, Option.ite_none_right_eq_some, Option.some.injEq] at stepped
      rcases stepped with ⟨_, rfl⟩
      rfl
  | setupFinishes result =>
      simp only [step, Option.ite_none_right_eq_some, Option.some.injEq] at stepped
      rcases stepped with ⟨_, rfl⟩
      cases result with
      | none => rfl
      | some result => rfl
  | packet push repeatCheckedAt deduplicatedAt =>
      simp only [step, Option.ite_none_right_eq_some, Option.some.injEq] at stepped
      rcases stepped with ⟨_, rfl⟩
      exact (bot.handleRawPacket_accepted runtime push repeatCheckedAt deduplicatedAt).1
  | replySent registry reporter item renderedAt sentAt =>
      simp only [step] at stepped
      split at stepped
      · cases stepped
      · cases stepped
        rfl
  | repeatChecksSwept now =>
      simp only [step, sweepRepeatChecks, Option.some.injEq] at stepped
      subst after
      split
      · rfl
      · rfl

theorem enqueued_isSome : (bot.enqueued runtime event).isSome = true ↔
    ∃ call, bot.acceptedCall runtime event = some call ∧
      (bot.deduplicator.isDuplicate call.1 call.2).2 = false := by
  cases event with
  | packet push repeatCheckedAt deduplicatedAt =>
      exact (bot.handleRawPacket_accepted runtime push repeatCheckedAt deduplicatedAt).2
  | setupStarts => simp [enqueued, acceptedCall]
  | setupFinishes result => simp [enqueued, acceptedCall]
  | replySent registry reporter item renderedAt sentAt => simp [enqueued, acceptedCall]
  | repeatChecksSwept now => simp [enqueued, acceptedCall]

/-- The deduplicator an event finds has seen the calls of the moments before. -/
theorem deduplicator_of_moments {events : List BotEvent} {current : ChannelBot}
    {before after : List (ChannelBot × BotEvent)}
    (run : bot.moments runtime events = before ++ (current, event) :: after) :
    current.deduplicator = bot.deduplicator.after (acceptedCalls runtime before) := by
  induction events generalizing bot before with
  | nil => exact absurd run.symm (List.append_ne_nil_of_right_ne_nil _ (List.cons_ne_nil _ _))
  | cons next events ih =>
      rw [moments] at run
      split at run
      · exact absurd run.symm (List.append_ne_nil_of_right_ne_nil _ (List.cons_ne_nil _ _))
      · rename_i later stepped
        cases before with
        | nil =>
            cases run
            rfl
        | cons first before =>
            rw [List.cons_append, List.cons.injEq] at run
            rcases run with ⟨rfl, run⟩
            rw [ih run, deduplicator_step stepped, ← PacketDeduplicator.after_append]
            congr 1
            simp only [acceptedCalls, List.filterMap_cons]
            cases bot.acceptedCall runtime next with
            | none => rfl
            | some call => rfl

/-- A reply is enqueued exactly for an accepted delivery which is the first with its hash. -/
theorem enqueued_of_moments {events : List BotEvent} {current : ChannelBot}
    {before after : List (ChannelBot × BotEvent)} (empty : bot.deduplicator.seenAt = [])
    (clock : ((acceptedCalls runtime (bot.moments runtime events)).map
      Prod.snd).Pairwise (· ≤ ·))
    (spaced : bot.deduplicator.Spaced (acceptedCalls runtime (bot.moments runtime events)))
    (run : bot.moments runtime events = before ++ (current, event) :: after) :
    (current.enqueued runtime event).isSome = true ↔
      ∃ call, current.acceptedCall runtime event = some call ∧
        call.1 ∉ (acceptedCalls runtime before).map Prod.fst := by
  have duplicate : ∀ call, current.acceptedCall runtime event = some call →
      ((current.deduplicator.isDuplicate call.1 call.2).2 = true ↔
        call.1 ∈ (acceptedCalls runtime before).map Prod.fst) := by
    intro call accepted
    have calls : acceptedCalls runtime (bot.moments runtime events) =
        (acceptedCalls runtime before ++ [call]) ++ acceptedCalls runtime after := by
      rw [run]
      simp [acceptedCalls, accepted]
    rw [calls] at clock spaced
    rw [List.map_append, List.pairwise_append] at clock
    rw [deduplicator_of_moments run]
    exact PacketDeduplicator.isDuplicate_after empty clock.1 spaced.of_append
  rw [enqueued_isSome]
  constructor
  · rintro ⟨call, accepted, fresh⟩
    refine ⟨call, accepted, ?_⟩
    rw [← duplicate call accepted, fresh]
    exact Bool.false_ne_true
  · rintro ⟨call, accepted, first⟩
    refine ⟨call, accepted, ?_⟩
    rw [← duplicate call accepted] at first
    exact Bool.not_eq_true _ ▸ first

/-- No two payloads that are delivered have the same hash. -/
def CollisionFree (runtime : BotRuntime) (moments : List (ChannelBot × BotEvent)) : Prop :=
  ∀ first ∈ moments, ∀ second ∈ moments, ∀ payload other,
    first.2.Delivers runtime payload → second.2.Delivers runtime other →
      groupTextHash runtime payload = groupTextHash runtime other → payload = other

theorem delivers_unique {other : List UInt8} (delivers : event.Delivers runtime payload)
    (again : event.Delivers runtime other) : payload = other := by
  rcases delivers with ⟨push, repeatCheckedAt, deduplicatedAt, packet, rfl, received, _, rfl⟩
  rcases again with ⟨_, _, _, second, same, receivedAgain, _, rfl⟩
  cases same
  rw [received] at receivedAgain
  cases receivedAgain
  rfl

/-- A delivery is answered exactly when it is the first of its message to qualify. -/
theorem enqueued_iff_first {events : List BotEvent} {moment : ChannelBot × BotEvent}
    {before after : List (ChannelBot × BotEvent)} (empty : bot.deduplicator.seenAt = [])
    (collisionFree : CollisionFree runtime (bot.moments runtime events))
    (clock : ((acceptedCalls runtime (bot.moments runtime events)).map
      Prod.snd).Pairwise (· ≤ ·))
    (spaced : bot.deduplicator.Spaced (acceptedCalls runtime (bot.moments runtime events)))
    (run : bot.moments runtime events = before ++ moment :: after)
    (delivers : moment.2.Delivers runtime payload) :
    (moment.1.enqueued runtime moment.2).isSome = true ↔
      moment.1.Qualifies runtime payload moment.2 ∧
        ∀ earlier ∈ before, ¬earlier.1.Qualifies runtime payload earlier.2 := by
  rw [enqueued_of_moments empty clock spaced run]
  constructor
  · rintro ⟨call, accepted, first⟩
    rcases qualifies_of_acceptedCall accepted with ⟨own, qualifies, hash⟩
    have same := delivers_unique delivers qualifies.delivers
    subst own
    refine ⟨qualifies, ?_⟩
    intro earlier earlierMem earlierQualifies
    rcases earlierQualifies.acceptedCall with ⟨now, earlierAccepted⟩
    have called : (groupTextHash runtime payload, now) ∈ acceptedCalls runtime before :=
      List.mem_filterMap.mpr ⟨earlier, earlierMem, earlierAccepted⟩
    apply first
    rw [hash]
    exact List.mem_map_of_mem called
  · rintro ⟨qualifies, first⟩
    rcases qualifies.acceptedCall with ⟨now, accepted⟩
    refine ⟨_, accepted, ?_⟩
    intro called
    rcases List.mem_map.mp called with ⟨call, callMem, hash⟩
    rcases List.mem_filterMap.mp callMem with ⟨earlier, earlierMem, earlierAccepted⟩
    rcases qualifies_of_acceptedCall earlierAccepted with ⟨other, otherQualifies, otherHash⟩
    have earlierRun : earlier ∈ bot.moments runtime events := by
      rw [run]
      exact List.mem_append_left _ earlierMem
    have momentRun : moment ∈ bot.moments runtime events := by
      rw [run]
      exact List.mem_append_right _ List.mem_cons_self
    have same : other = payload := collisionFree earlier earlierRun moment momentRun other payload
      otherQualifies.delivers delivers (otherHash.symm.trans hash)
    subst other
    exact first earlier earlierMem otherQualifies

/-- Every message is answered once, at the first delivery that qualifies, and a message without
such a delivery is not answered. -/
theorem one_reply_per_message {events : List BotEvent} (empty : bot.deduplicator.seenAt = [])
    (collisionFree : CollisionFree runtime (bot.moments runtime events))
    (clock : ((acceptedCalls runtime (bot.moments runtime events)).map
      Prod.snd).Pairwise (· ≤ ·))
    (spaced : bot.deduplicator.Spaced (acceptedCalls runtime (bot.moments runtime events)))
    (payload : List UInt8) :
    ((∃ moment ∈ bot.moments runtime events, moment.1.Qualifies runtime payload moment.2) →
      ∃ before moment after, bot.moments runtime events = before ++ moment :: after ∧
        moment.1.Qualifies runtime payload moment.2 ∧
        (∀ earlier ∈ before, ¬earlier.1.Qualifies runtime payload earlier.2) ∧
        (moment.1.enqueued runtime moment.2).isSome = true ∧
        ∀ other ∈ before ++ after, other.2.Delivers runtime payload →
          other.1.enqueued runtime other.2 = none) ∧
      ((∀ moment ∈ bot.moments runtime events, ¬moment.1.Qualifies runtime payload moment.2) →
        ∀ moment ∈ bot.moments runtime events, moment.2.Delivers runtime payload →
          moment.1.enqueued runtime moment.2 = none) := by
  have answered := fun {before moment after} =>
    @enqueued_iff_first runtime bot payload events moment before after empty collisionFree clock
      spaced
  constructor
  · rintro ⟨some, someMem, someQualifies⟩
    classical
    let qualifies := fun moment : ChannelBot × BotEvent =>
      decide (moment.1.Qualifies runtime payload moment.2)
    cases found : (bot.moments runtime events).find? qualifies with
    | none =>
        have refused := List.find?_eq_none.mp found some someMem
        exact absurd (decide_eq_true someQualifies) refused
    | some moment =>
        rcases List.find?_eq_some_iff_append.mp found with ⟨chosen, before, after, run, refused⟩
        have momentQualifies := of_decide_eq_true chosen
        have first : ∀ earlier ∈ before, ¬earlier.1.Qualifies runtime payload earlier.2 := by
          intro earlier earlierMem earlierQualifies
          have none := refused earlier earlierMem
          simp only [qualifies, earlierQualifies, decide_true, Bool.not_true] at none
          cases none
        refine ⟨before, moment, after, run, momentQualifies, first, ?_, ?_⟩
        · exact (answered run momentQualifies.delivers).mpr ⟨momentQualifies, first⟩
        · intro other otherMem delivers
          rw [← Option.not_isSome_iff_eq_none]
          intro enqueued
          rcases List.mem_append.mp otherMem with earlier | later
          · rcases List.append_of_mem earlier with ⟨front, behind, rfl⟩
            rw [List.append_assoc, List.cons_append] at run
            exact first other earlier ((answered run delivers).mp enqueued).1
          · rcases List.append_of_mem later with ⟨between, behind, rfl⟩
            rw [← List.cons_append, ← List.append_assoc] at run
            have refusedBefore := ((answered run delivers).mp enqueued).2 moment
              (List.mem_append_right _ List.mem_cons_self)
            exact refusedBefore momentQualifies
  · intro none moment momentMem delivers
    rcases List.append_of_mem momentMem with ⟨before, after, run⟩
    rw [← Option.not_isSome_iff_eq_none, answered run delivers]
    intro first
    exact none moment momentMem first.1

def usageDelivery (path : List UInt8) (now : Int) : BotEvent :=
  .packet ⟨some 6, some (-87), floodedGroupText path usagePayload⟩ now now

def usageDeliveries : List BotEvent :=
  [.setupStarts, .setupFinishes (some (0, echoKey)), usageDelivery [] 1000,
    usageDelivery [0xAB] 2000, usageDelivery [0xCD] 3000]

def usageMoments : List (ChannelBot × BotEvent) :=
  (ChannelBot.new statsBot 30000).moments echoRuntime usageDeliveries

theorem mem_of_mem_moments {events : List BotEvent} {moment : ChannelBot × BotEvent}
    (momentMem : moment ∈ bot.moments runtime events) : moment.2 ∈ events := by
  induction events generalizing bot with
  | nil => cases momentMem
  | cons event events ih =>
      rw [moments] at momentMem
      split at momentMem
      · cases momentMem
      · rcases List.mem_cons.mp momentMem with rfl | later
        · exact List.mem_cons_self
        · exact List.mem_cons_of_mem _ (ih later)

theorem usageDelivery_delivers {path : List UInt8} {now : Int}
    (short : path.length ≤ 63) (delivers : (usageDelivery path now).Delivers echoRuntime payload) :
    payload = usagePayload := by
  rcases delivers with ⟨push, repeatCheckedAt, deduplicatedAt, packet, same, received, _, rfl⟩
  cases same
  rcases echoRuntime_documented.fromBytes_flooded path usagePayload short with
    ⟨flooded, parsed, _, _, _, carried⟩
  have read : echoRuntime.fromBytes (floodedGroupText path usagePayload) = some packet := received
  rw [parsed] at read
  cases read
  exact carried

theorem usageDeliveries_delivers {event : BotEvent} (eventMem : event ∈ usageDeliveries)
    (delivers : event.Delivers echoRuntime payload) : payload = usagePayload := by
  simp only [usageDeliveries, List.mem_cons, List.not_mem_nil, or_false] at eventMem
  rcases eventMem with rfl | rfl | rfl | rfl | rfl
  · rcases delivers with ⟨_, _, _, _, same, _⟩
    cases same
  · rcases delivers with ⟨_, _, _, _, same, _⟩
    cases same
  · exact usageDelivery_delivers (by decide) delivers
  · exact usageDelivery_delivers (by decide) delivers
  · exact usageDelivery_delivers (by decide) delivers

theorem usage_heard : statsBotReady.heardGroupText echoRuntime usagePush =
    some (usagePacket, parsePlaintext usagePlaintext) := by
  rfl

theorem usageMoments_calls : acceptedCalls echoRuntime usageMoments =
    [(groupTextHash echoRuntime usagePayload, 2000),
      (groupTextHash echoRuntime usagePayload, 3000)] := by
  decide +kernel

theorem usageMoments_relayed :
    usageMoments[3]? = some (statsBotReady, usageDelivery [0xAB] 2000) := by
  rfl

theorem usageMoments_spaced : (ChannelBot.new statsBot 30000).deduplicator.Spaced
    (acceptedCalls echoRuntime usageMoments) := by
  rw [usageMoments_calls]
  intro before id time between now later split _
  have length := congrArg List.length split
  simp only [List.length_append, List.length_cons, List.length_nil] at length
  have none : before = [] ∧ between = [] ∧ later = [] := by
    refine ⟨?_, ?_, ?_⟩
    · exact List.eq_nil_of_length_eq_zero (by omega)
    · exact List.eq_nil_of_length_eq_zero (by omega)
    · exact List.eq_nil_of_length_eq_zero (by omega)
  rcases none with ⟨rfl, rfl, rfl⟩
  cases split
  exact ⟨by decide, by decide⟩

/-- Only the first of the two deliveries that came over a repeater is answered. -/
theorem usage_answered_once :
    ∃ before moment after, usageMoments = before ++ moment :: after ∧
      moment.1.Qualifies echoRuntime usagePayload moment.2 ∧
      (∀ earlier ∈ before, ¬earlier.1.Qualifies echoRuntime usagePayload earlier.2) ∧
      (moment.1.enqueued echoRuntime moment.2).isSome = true ∧
      ∀ other ∈ before ++ after, other.2.Delivers echoRuntime usagePayload →
        other.1.enqueued echoRuntime other.2 = none := by
  apply (one_reply_per_message rfl _ _ usageMoments_spaced usagePayload).1
  · refine ⟨(statsBotReady, usageDelivery [0xAB] 2000), ?_, usagePush, 2000, 2000, usagePacket,
      parsePlaintext usagePlaintext, "⚠️ usage".toList,
      ⟨statsCommand, ⟨.stats, some "<1h|6h|1d|3d|all>".toList⟩⟩, rfl, usage_heard, rfl, ?_, ?_, ?_⟩
    · exact List.mem_of_getElem? usageMoments_relayed
    · decide +kernel
    · decide +kernel
    · decide
  · intro first firstMem second secondMem payload other delivers otherDelivers _
    rw [usageDeliveries_delivers (mem_of_mem_moments firstMem) delivers,
      usageDeliveries_delivers (mem_of_mem_moments secondMem) otherDelivers]
  · rw [← usageMoments, usageMoments_calls]
    decide

end ChannelBot

end MeshcoreObserver
