import MeshcoreObserver.Bots.OwnReplies
import MeshcoreObserver.Bots.RepeatRegistrations

/-!
# The account of repeat checks

A ledger follows a bot and numbers the replies it sends. Beside the tracker of
the bot runs a second one whose registrations also carry these numbers, so that
what happened to each reply can be told apart even where replies agree in
everything else. The clock of every event is arbitrary.
-/

namespace MeshcoreObserver

open Transition

namespace ChannelBot

variable {runtime : BotRuntime} {bot : ChannelBot}

/-- The parts of a bot that repeat checks are about. -/
structure RepeatChecks where
  tracker : RepeatCheckTracker RepeatMeta
  repliesSent : Nat
  repeatsConfirmed : Nat
  repeatsUnconfirmed : Nat

def repeatChecks (bot : ChannelBot) : RepeatChecks :=
  ⟨bot.repeatCheckTracker, bot.repliesSent, bot.repeatsConfirmed, bot.repeatsUnconfirmed⟩

theorem acceptMatch_repeatChecks (packet : Packet) (sender : Text) (found : CommandMatch)
    (now : Int) :
    (bot.acceptMatch runtime packet sender found now).1.repeatChecks = bot.repeatChecks := by
  rcases bot.acceptMatch_fst runtime packet sender found now with ⟨deduplicator, accepted⟩
  rw [accepted]
  rfl

variable (bot runtime) in
/-- A frame the bot can read is checked for a repeat, whatever else becomes of it. -/
theorem handleRawPacket_repeatChecks (push : RawPush) (repeatCheckedAt deduplicatedAt : Int) :
    (bot.handleRawPacket runtime push repeatCheckedAt deduplicatedAt).1.repeatChecks =
      match bot.heardGroupText runtime push with
      | none => bot.repeatChecks
      | some heard => (bot.checkForRepeat heard.2.text repeatCheckedAt).repeatChecks := by
  rw [handleRawPacket_eq_heard]
  cases bot.heardGroupText runtime push with
  | none => rfl
  | some heard =>
      simp only [handleDecrypted]
      split
      · rfl
      · split
        · exact acceptMatch_repeatChecks _ _ _ _
        · rfl

end ChannelBot

structure RepeatLedger where
  bot : ChannelBot
  numbered : RepeatCheckTracker (Nat × RepeatMeta)
  confirmed : List Nat
  expired : List Nat
  evicted : List Nat

namespace RepeatLedger

def expires (ledger : RepeatLedger) (expired : List (Nat × RepeatMeta)) : List Nat :=
  ledger.expired ++ expired.map Prod.fst

/-- What the event of a bot does to the ledger: the reply that is sent gets the next number. -/
def record (runtime : BotRuntime) (ledger : RepeatLedger) (after : ChannelBot) :
    BotEvent → RepeatLedger
  | .setupStarts => { ledger with bot := after }
  | .setupFinishes _ => { ledger with bot := after }
  | .packet push repeatCheckedAt _ =>
      match ledger.bot.heardGroupText runtime push with
      | none => { ledger with bot := after }
      | some (_, decrypted) =>
          let (numbered, confirmed, expired) :=
            ledger.numbered.checkAndConsume decrypted.text repeatCheckedAt
          { ledger with
            bot := after
            numbered
            confirmed := ledger.confirmed ++ confirmed.toList.map fun found => found.info.1
            expired := ledger.expires expired }
  | .replySent registry reporter item renderedAt sentAt =>
      match ledger.bot.renderQueuedReply runtime registry reporter item renderedAt with
      | .error _ => { ledger with bot := after }
      | .ok rendered =>
          let (numbered, expired, evicted) :=
            ledger.numbered.register rendered.message
              (ledger.bot.repliesSent, ⟨item.sender, item.trigger, item.hash⟩) sentAt
          { ledger with
            bot := after
            numbered
            expired := ledger.expires expired
            evicted := ledger.evicted ++ evicted.map Prod.fst }
  | .repeatChecksSwept now =>
      if ledger.bot.enabled then
        let (numbered, expired) := ledger.numbered.evictExpired now
        { ledger with bot := after, numbered, expired := ledger.expires expired }
      else { ledger with bot := after }

def step (runtime : BotRuntime) (ledger : RepeatLedger) (event : BotEvent) :
    Option RepeatLedger :=
  (ledger.bot.step runtime event).map fun after => ledger.record runtime after event

end RepeatLedger

/-- The runs of a bot, with their account. -/
def ledgerSystem (runtime : BotRuntime) (config : BotConfig) :
    EventSystem RepeatLedger BotEvent where
  Initial ledger := ∃ repeatCheckTimeoutMs,
    ledger = ⟨.new config repeatCheckTimeoutMs, .new repeatCheckTimeoutMs 200, [], [], []⟩
  step := RepeatLedger.step runtime

namespace RepeatLedger

variable {runtime : BotRuntime} {config : BotConfig} {ledger : RepeatLedger}

/-- The numbered tracker is the tracker of the bot, the counters are what is on record, and every
reply that was sent is registered or on record under one heading, once. -/
structure Conserved (ledger : RepeatLedger) : Prop where
  numbered : ledger.numbered.mapInfo Prod.snd = ledger.bot.repeatCheckTracker
  wellFormed : ledger.bot.repeatCheckTracker.WellFormed
  accounted : (ledger.confirmed ++ (ledger.expired ++ (ledger.evicted ++
    ledger.numbered.entries.map fun entry => entry.info.1))).Perm
      (List.range ledger.bot.repliesSent)
  confirmed : ledger.bot.repeatsConfirmed = ledger.confirmed.length
  expired : ledger.bot.repeatsUnconfirmed = ledger.expired.length

namespace Conserved

theorem numbered_wellFormed (conserved : ledger.Conserved) : ledger.numbered.WellFormed := by
  apply RepeatCheckTracker.wellFormed_of_mapInfo Prod.snd
  rw [conserved.numbered]
  exact conserved.wellFormed

/-- A bot with the same repeat checks keeps the account. -/
theorem of_repeatChecks (conserved : ledger.Conserved) {after : ChannelBot}
    (same : after.repeatChecks = ledger.bot.repeatChecks) :
    Conserved { ledger with bot := after } := by
  simp only [ChannelBot.repeatChecks, ChannelBot.RepeatChecks.mk.injEq] at same
  rcases same with ⟨tracker, sent, counted, uncounted⟩
  rcases conserved with ⟨numbered, wellFormed, accounted, confirmed, expired⟩
  refine ⟨?_, ?_, ?_, ?_, ?_⟩
  · exact numbered.trans tracker.symm
  · simp only [tracker]
    exact wellFormed
  · simp only [sent]
    exact accounted
  · exact counted.trans confirmed
  · exact uncounted.trans expired

theorem check (conserved : ledger.Conserved) {after : ChannelBot} {text : Text} {now : Int}
    (checked : after.repeatChecks = (ledger.bot.checkForRepeat text now).repeatChecks) :
    Conserved
      { ledger with
        bot := after
        numbered := (ledger.numbered.checkAndConsume text now).1
        confirmed := ledger.confirmed ++
          (ledger.numbered.checkAndConsume text now).2.1.toList.map fun found => found.info.1
        expired := ledger.expires (ledger.numbered.checkAndConsume text now).2.2 } := by
  have perm := (RepeatCheckTracker.checkAndConsume_perm conserved.numbered_wellFormed text
    now).map Prod.fst
  have mapped := RepeatCheckTracker.checkAndConsume_mapInfo Prod.snd ledger.numbered text now
  rcases conserved with ⟨numbered, wellFormed, accounted, confirmed, expired⟩
  rw [numbered] at mapped
  simp only [ChannelBot.repeatChecks, ChannelBot.checkForRepeat, mapped,
    ChannelBot.RepeatChecks.mk.injEq] at checked
  rcases checked with ⟨tracker, sent, counted, uncounted⟩
  refine ⟨tracker.symm, ?_, ?_, ?_, ?_⟩
  · have kept := wellFormed.checkAndConsume text now
    rw [mapped] at kept
    simp only [tracker]
    exact kept
  · simp only [sent, expires]
    apply List.Perm.trans _ accounted
    rw [List.perm_iff_count] at perm ⊢
    intro number
    have own := perm number
    simp only [List.map_append, List.map_map, List.count_append] at own ⊢
    simp only [Function.comp_def] at own
    omega
  · simp only [counted, confirmed, List.length_append, List.length_map]
    cases (ledger.numbered.checkAndConsume text now).2.1 with
    | none => rfl
    | some found => rfl
  · simp only [uncounted, expired, expires, List.length_append, List.length_map]

theorem replySent (conserved : ledger.Conserved) (item : QueuedReply) (message : Text)
    (now : Int) :
    Conserved
      { ledger with
        bot := ledger.bot.replySent item message now
        numbered := (ledger.numbered.register message
          (ledger.bot.repliesSent, ⟨item.sender, item.trigger, item.hash⟩) now).1
        expired := ledger.expires (ledger.numbered.register message
          (ledger.bot.repliesSent, ⟨item.sender, item.trigger, item.hash⟩) now).2.1
        evicted := ledger.evicted ++ (ledger.numbered.register message
          (ledger.bot.repliesSent, ⟨item.sender, item.trigger, item.hash⟩) now).2.2.map
            Prod.fst } := by
  have perm := (ledger.numbered.register_perm message
    (ledger.bot.repliesSent, ⟨item.sender, item.trigger, item.hash⟩) now).map Prod.fst
  have mapped := RepeatCheckTracker.register_mapInfo Prod.snd ledger.numbered message
    (ledger.bot.repliesSent, ⟨item.sender, item.trigger, item.hash⟩) now
  rcases conserved with ⟨numbered, wellFormed, accounted, confirmed, expired⟩
  rw [numbered] at mapped
  refine ⟨?_, ?_, ?_, confirmed, ?_⟩
  · simp only [ChannelBot.replySent, mapped]
  · have kept := wellFormed.register message ⟨item.sender, item.trigger, item.hash⟩ now
    exact kept
  · simp only [expires]
    have sent : (ledger.bot.replySent item message now).repliesSent =
        ledger.bot.repliesSent + 1 := rfl
    rw [sent, List.range_succ]
    apply List.Perm.trans _ (accounted.append_right [ledger.bot.repliesSent])
    rw [List.perm_iff_count] at perm ⊢
    intro number
    have own := perm number
    simp only [List.map_append, List.map_map, List.map_singleton, List.count_append] at own ⊢
    simp only [Function.comp_def] at own
    omega
  · simp only [ChannelBot.replySent, mapped, expired, expires, List.length_append,
      List.length_map]

theorem sweep (conserved : ledger.Conserved) (now : Int) (enabled : ledger.bot.enabled = true) :
    Conserved
      { ledger with
        bot := ledger.bot.sweepRepeatChecks now
        numbered := (ledger.numbered.evictExpired now).1
        expired := ledger.expires (ledger.numbered.evictExpired now).2 } := by
  have perm := ((ledger.numbered.evictExpired_perm now).map RepeatEntry.info).map Prod.fst
  have mapped := RepeatCheckTracker.evictExpired_mapInfo Prod.snd ledger.numbered now
  rcases conserved with ⟨numbered, wellFormed, accounted, confirmed, expired⟩
  rw [numbered] at mapped
  have swept : ledger.bot.sweepRepeatChecks now =
      { ledger.bot with
        repeatCheckTracker := (ledger.numbered.evictExpired now).1.mapInfo Prod.snd
        repeatsUnconfirmed := ledger.bot.repeatsUnconfirmed +
          ((ledger.numbered.evictExpired now).2.map Prod.snd).length } := by
    simp only [ChannelBot.sweepRepeatChecks, if_pos enabled, mapped]
  rw [swept]
  refine ⟨rfl, ?_, ?_, confirmed, ?_⟩
  · have kept := wellFormed.evictExpired now
    rw [mapped] at kept
    exact kept
  · simp only [expires]
    apply List.Perm.trans _ accounted
    rw [List.perm_iff_count] at perm ⊢
    intro number
    have own := perm number
    simp only [RepeatCheckTracker.evictExpired, List.map_append, List.map_map,
      List.count_append] at own ⊢
    simp only [Function.comp_def] at own ⊢
    omega
  · simp only [expired, expires, List.length_append, List.length_map]

theorem step {after : RepeatLedger} {event : BotEvent} (conserved : ledger.Conserved)
    (stepped : ledger.step runtime event = some after) : after.Conserved := by
  rcases Option.map_eq_some_iff.mp stepped with ⟨bot, botStepped, rfl⟩
  cases event with
  | setupStarts =>
      simp only [ChannelBot.step, Option.ite_none_right_eq_some, Option.some.injEq] at botStepped
      rcases botStepped with ⟨_, rfl⟩
      exact conserved.of_repeatChecks rfl
  | setupFinishes result =>
      simp only [ChannelBot.step, Option.ite_none_right_eq_some, Option.some.injEq] at botStepped
      rcases botStepped with ⟨_, rfl⟩
      apply conserved.of_repeatChecks
      cases result with
      | none => rfl
      | some result => rfl
  | packet push repeatCheckedAt deduplicatedAt =>
      simp only [ChannelBot.step, Option.ite_none_right_eq_some, Option.some.injEq] at botStepped
      rcases botStepped with ⟨_, rfl⟩
      have checked := ledger.bot.handleRawPacket_repeatChecks runtime push repeatCheckedAt
        deduplicatedAt
      simp only [record]
      cases heard : ledger.bot.heardGroupText runtime push with
      | none =>
          rw [heard] at checked
          exact conserved.of_repeatChecks checked
      | some group =>
          rw [heard] at checked
          exact conserved.check checked
  | replySent registry reporter item renderedAt sentAt =>
      cases renders : ledger.bot.renderQueuedReply runtime registry reporter item renderedAt with
      | error message =>
          simp only [ChannelBot.step, renders] at botStepped
          cases botStepped
      | ok rendered =>
          simp only [ChannelBot.step, renders, Option.some.injEq] at botStepped
          subst bot
          simp only [record, renders]
          exact conserved.replySent item rendered.message sentAt
  | repeatChecksSwept now =>
      simp only [ChannelBot.step, Option.some.injEq] at botStepped
      subst bot
      simp only [record]
      by_cases enabled : ledger.bot.enabled = true
      · rw [if_pos enabled]
        exact conserved.sweep now enabled
      · rw [if_neg enabled]
        apply conserved.of_repeatChecks
        rw [ChannelBot.sweepRepeatChecks, if_neg enabled]

/-- Every reply that was sent is confirmed, expired, evicted or still registered. -/
theorem balanced (conserved : ledger.Conserved) :
    (ledger.bot.repliesSent : Int) = ledger.bot.repeatsConfirmed +
      ledger.bot.repeatsUnconfirmed + ledger.evicted.length +
        ledger.bot.repeatCheckTracker.totalPending := by
  have length := conserved.accounted.length_eq
  have size := conserved.numbered_wellFormed.size
  have same : ledger.bot.repeatCheckTracker.totalPending = ledger.numbered.totalPending := by
    rw [← conserved.numbered]
    rfl
  rw [List.length_range, List.length_append, List.length_append, List.length_append,
    List.length_map] at length
  rw [conserved.confirmed, conserved.expired, same, size]
  omega

end Conserved

theorem conserved_of_reachable (reachable : (ledgerSystem runtime config).Reachable ledger) :
    ledger.Conserved := by
  apply EventSystem.ReachableWhen.invariant _ _ reachable
  · rintro ledger ⟨repeatCheckTimeoutMs, rfl⟩
    exact ⟨rfl, RepeatCheckTracker.wellFormed_new repeatCheckTimeoutMs 200, List.Perm.refl _, rfl,
      rfl⟩
  · intro before event after conserved _ stepped
    exact conserved.step stepped

/-- What is on record stays there. -/
structure Extends (before after : RepeatLedger) : Prop where
  confirmed : before.confirmed <+: after.confirmed
  expired : before.expired <+: after.expired
  evicted : before.evicted <+: after.evicted

theorem Extends.refl (ledger : RepeatLedger) : ledger.Extends ledger :=
  ⟨List.prefix_refl _, List.prefix_refl _, List.prefix_refl _⟩

theorem Extends.trans {before middle after : RepeatLedger} (first : before.Extends middle)
    (second : middle.Extends after) : before.Extends after :=
  ⟨first.confirmed.trans second.confirmed, first.expired.trans second.expired,
    first.evicted.trans second.evicted⟩

theorem extends_bot (ledger : RepeatLedger) (after : ChannelBot) :
    ledger.Extends { ledger with bot := after } :=
  ⟨List.prefix_refl _, List.prefix_refl _, List.prefix_refl _⟩

theorem extends_step {after : RepeatLedger} {event : BotEvent}
    (stepped : ledger.step runtime event = some after) : ledger.Extends after := by
  rcases Option.map_eq_some_iff.mp stepped with ⟨bot, _, rfl⟩
  cases event with
  | setupStarts => exact ledger.extends_bot bot
  | setupFinishes result => exact ledger.extends_bot bot
  | packet push repeatCheckedAt deduplicatedAt =>
      simp only [record]
      split
      · exact ledger.extends_bot bot
      · exact ⟨List.prefix_append _ _, List.prefix_append _ _, List.prefix_refl _⟩
  | replySent registry reporter item renderedAt sentAt =>
      simp only [record]
      split
      · exact ledger.extends_bot bot
      · exact ⟨List.prefix_refl _, List.prefix_append _ _, List.prefix_append _ _⟩
  | repeatChecksSwept now =>
      simp only [record]
      split
      · exact ⟨List.prefix_refl _, List.prefix_append _ _, List.prefix_refl _⟩
      · exact ledger.extends_bot bot

theorem record_bot (ledger : RepeatLedger) (after : ChannelBot) (event : BotEvent) :
    (ledger.record runtime after event).bot = after := by
  cases event with
  | setupStarts => rfl
  | setupFinishes result => rfl
  | packet push repeatCheckedAt deduplicatedAt =>
      simp only [record]
      split
      · rfl
      · rfl
  | replySent registry reporter item renderedAt sentAt =>
      simp only [record]
      split
      · rfl
      · rfl
  | repeatChecksSwept now =>
      simp only [record]
      split
      · rfl
      · rfl

/-- Every run of a bot has its account. -/
theorem exists_ledger {bot : ChannelBot} (reachable : (botSystem runtime config).Reachable bot) :
    ∃ ledger, (ledgerSystem runtime config).Reachable ledger ∧ ledger.bot = bot := by
  rcases reachable with ⟨initial, ⟨repeatCheckTimeoutMs, rfl⟩, lead⟩
  induction lead with
  | refl => exact ⟨_, ⟨_, ⟨repeatCheckTimeoutMs, rfl⟩, Relation.ReflTransGen.refl⟩, rfl⟩
  | @tail _ after _ moved ih =>
      rcases ih with ⟨ledger, ⟨initial, starts, lead⟩, rfl⟩
      rcases moved with ⟨event, met, stepped⟩
      have recorded : ledger.step runtime event = some (ledger.record runtime after event) :=
        Option.map_eq_some_iff.mpr ⟨after, stepped, rfl⟩
      exact ⟨_, ⟨initial, starts, lead.tail ⟨event, met, recorded⟩⟩, ledger.record_bot after event⟩

/-- Along every run the repeat checks are conserved and in balance, and a reply which has left the
tracker has left it for good. -/
theorem repeat_checks_conserved {before : RepeatLedger}
    (reachable : (ledgerSystem runtime config).Reachable before)
    (lead : (ledgerSystem runtime config).Leads EventSystem.anyStep before ledger) :
    ledger.Conserved ∧ before.Extends ledger ∧
      (ledger.bot.repliesSent : Int) = ledger.bot.repeatsConfirmed +
        ledger.bot.repeatsUnconfirmed + ledger.evicted.length +
          ledger.bot.repeatCheckTracker.totalPending := by
  have conserved : ledger.Conserved := by
    apply lead.invariant _ (conserved_of_reachable reachable)
    intro before event after conserved _ stepped
    exact conserved.step stepped
  have extended : before.Extends ledger := by
    apply lead.invariant _ (Extends.refl before)
    intro middle event after extended _ stepped
    exact extended.trans (extends_step stepped)
  exact ⟨conserved, extended, conserved.balanced⟩

def silentRegistry : NodeRegistry :=
  ⟨fun query => ⟨.notFound, none, none, some query⟩, 0⟩

def usageLedger : RepeatLedger := ⟨.new statsBot 30000, .new 30000 200, [], [], []⟩

def usageEvents : List BotEvent :=
  [.setupStarts, .setupFinishes (some (0, echoKey)),
    .replySent silentRegistry ⟨none, fun _ => []⟩ statsItem 900 1000,
    .replySent silentRegistry ⟨none, fun _ => []⟩ statsItem 900 400,
    .repeatChecksSwept 30500, .repeatChecksSwept 31000]

theorem usage_ran : ((ledgerSystem echoRuntime statsBot).run EventSystem.anyStep usageLedger
    usageEvents).isSome := by
  decide +kernel

def usageLedgerSwept : RepeatLedger :=
  ((ledgerSystem echoRuntime statsBot).run EventSystem.anyStep usageLedger usageEvents).get
    usage_ran

theorem repeat_checks_conserved_of_equal_replies :
    usageLedgerSwept.Conserved ∧ usageLedger.Extends usageLedgerSwept ∧
      (usageLedgerSwept.bot.repliesSent : Int) = usageLedgerSwept.bot.repeatsConfirmed +
        usageLedgerSwept.bot.repeatsUnconfirmed + usageLedgerSwept.evicted.length +
          usageLedgerSwept.bot.repeatCheckTracker.totalPending := by
  have reachable : (ledgerSystem echoRuntime statsBot).Reachable usageLedger :=
    ⟨usageLedger, ⟨30000, rfl⟩, Relation.ReflTransGen.refl⟩
  exact repeat_checks_conserved reachable (EventSystem.leads_get usage_ran)

end RepeatLedger

end MeshcoreObserver
