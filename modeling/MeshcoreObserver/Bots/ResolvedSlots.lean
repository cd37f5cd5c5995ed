import MeshcoreObserver.Bots.ReplyDelivery

/-!
# Replies on resolved slots

`sendQueuedReply` looks neither at `#ready` nor at the connection its bot was set
up on, so a reply resumed from the table may be sent before the first setup, by
a disabled bot, or after a reconnect with the index of an older connection. What
it reads is the index of the last setup of the bot that has succeeded, whichever
setup began first. So in the runs in which a send starts only when that setup was
bound to the connection of the command, every reply goes out on the slot resolved
for it.
-/

namespace MeshcoreObserver

open Transition

/-- Every command of the successful setup was bound to the connection. -/
def Resolution.On (resolution : Resolution) (connection : Nat) : Prop :=
  resolution.listedOn = some connection ∧
    (resolution.createdOn = none ∨ resolution.createdOn = some connection)

instance (resolution : Resolution) (connection : Nat) :
    Decidable (resolution.On connection) :=
  inferInstanceAs (Decidable (_ ∧ _))

/-- The last setup of a bot that has succeeded. -/
def lastResolution (resolved : List Resolution) (name : Text) : Option Resolution :=
  resolved.reverse.find? fun resolution => resolution.name = name

namespace DeliveryWorld

/-- Every reply was sent by an enabled bot, on a slot that a successful setup of that bot had
resolved on the connection of the command. -/
def OnResolvedSlots (world : DeliveryWorld) : Prop :=
  ∀ reply ∈ world.sent, reply.enabled = true ∧ ∃ resolution ∈ world.resolved,
    resolution.name = reply.name ∧ reply.channelIdx = some resolution.channelIdx ∧
      resolution.On reply.connection

/-- A send starts only when the last setup of its bot that has succeeded was bound to the
connection of the command. -/
def Prepared (world : DeliveryWorld) : DeliveryEvent → Prop
  | .commandStarts =>
      match world.commands.waiting.head? with
      | some ⟨connection, .sendChannelTextMessage _ name⟩ =>
          (lastResolution world.resolved name).any fun resolution => resolution.On connection
      | _ => True
  | _ => True

instance (world : DeliveryWorld) (event : DeliveryEvent) : Decidable (world.Prepared event) := by
  simp only [Prepared]
  split
  · split <;> infer_instance
  · infer_instance

/-- The connections of this process are those from the first one on. A bot that has resolved a
slot on one of them is enabled and has the index of its last success. -/
structure Assigned (first : Nat) (world : DeliveryWorld) : Prop where
  stored : ∀ name bot resolution, world.findBot name = some bot →
    lastResolution world.resolved name = some resolution →
      (∃ connection, first ≤ connection ∧ resolution.listedOn = some connection) →
        bot.enabled = true ∧ bot.channelIdx = some resolution.channelIdx
  subscribed : ∀ name bot, world.findBot name = some bot → bot.subscribed = true →
    bot.enabled = true
  known : ∀ setup ∈ world.setups, ∀ bot, world.findBot setup.name = some bot →
    bot.enabled = true
  bound : ∀ command ∈ world.commands.tasks, first ≤ command.connection
  connected : ∀ connection, world.connection = some connection →
    first ≤ connection ∧ connection < world.connections
  started : first ≤ world.connections
  listed : ∀ setup ∈ world.setups, ∀ connection, setup.listedOn = some connection →
    connection < world.connections
  resolved : ∀ resolution ∈ world.resolved, ∀ connection, resolution.listedOn = some connection →
    connection < world.connections
  sent : world.OnResolvedSlots

variable {world after : DeliveryWorld} {first : Nat}

theorem findBot_update (world : DeliveryWorld) (change : DeliveryBot → DeliveryBot)
    (keeps : ∀ bot, (change bot).name = bot.name) (name other : Text) :
    (DeliveryBot.update world.bots name change).find? (fun bot => bot.name = other) =
      (world.findBot other).map fun bot => if bot.name = name then change bot else bot := by
  rw [DeliveryBot.update, List.find?_map, findBot]
  congr 2
  funext bot
  simp only [Function.comp_apply]
  split <;> simp [keeps]

theorem name_of_findBot {name : Text} {bot : DeliveryBot} (found : world.findBot name = some bot) :
    bot.name = name := by
  simpa using List.find?_some found

theorem Assigned.run (assigned : world.Assigned first) {commands : SerialQueue DeliveryCommand}
    (bound : ∀ command ∈ commands.tasks, first ≤ command.connection) :
    Assigned first { world with commands } :=
  { assigned with bound }

theorem Assigned.submit (assigned : world.Assigned first) {connection : Nat}
    (current : world.connection = some connection) (purpose : DeliveryPurpose) :
    Assigned first { world with commands := world.commands.submit ⟨connection, purpose⟩ } := by
  apply assigned.run
  intro command commandMem
  rw [SerialQueue.tasks_submit] at commandMem
  rcases List.mem_append.mp commandMem with old | new
  · exact assigned.bound command old
  · rw [List.mem_singleton.mp new]
    exact (assigned.connected connection current).1

theorem Assigned.settle (assigned : world.Assigned first) :
    Assigned first { world with commands := { world.commands with running := none } } := by
  apply assigned.run
  intro command commandMem
  exact assigned.bound command (List.mem_append_right _ commandMem)

/-- Setups that go on keep their bots and the connections of their listings. -/
theorem Assigned.advance (assigned : world.Assigned first) {setups : List BotSetup}
    (kept : ∀ setup ∈ setups, ∃ old ∈ world.setups,
      setup.name = old.name ∧ setup.listedOn = old.listedOn) :
    Assigned first { world with setups } :=
  { assigned with
    known := by
      intro setup setupMem bot found
      rcases kept setup setupMem with ⟨old, oldMem, named, _⟩
      apply assigned.known old oldMem bot
      rw [← named]
      exact found
    listed := by
      intro setup setupMem connection listedOn
      rcases kept setup setupMem with ⟨old, oldMem, _, same⟩
      exact assigned.listed old oldMem connection (same ▸ listedOn) }

theorem exists_of_mem_modify {setups : List BotSetup} {number : Nat}
    {change : BotSetup → BotSetup}
    (keeps : ∀ setup, (change setup).name = setup.name ∧
      (change setup).listedOn = setup.listedOn) :
    ∀ setup ∈ setups.modify number change, ∃ old ∈ setups,
      setup.name = old.name ∧ setup.listedOn = old.listedOn := by
  intro setup setupMem
  rcases List.mem_iff_getElem?.mp setupMem with ⟨other, found⟩
  simp only [List.getElem?_modify, Option.map_eq_map, Option.map_eq_some_iff] at found
  rcases found with ⟨old, oldFound, rfl⟩
  refine ⟨old, List.mem_of_getElem? oldFound, ?_⟩
  split
  · exact keeps old
  · exact ⟨rfl, rfl⟩

theorem Assigned.become (assigned : world.Assigned first) (number : Nat)
    (phase : BotSetupPhase) :
    Assigned first { world with setups := world.become number phase } :=
  assigned.advance (exists_of_mem_modify fun _ => ⟨rfl, rfl⟩)

/-- Bots keep what their setups have stored, and no bot subscribes. -/
theorem Assigned.update (assigned : world.Assigned first) (name : Text)
    {change : DeliveryBot → DeliveryBot}
    (keeps : ∀ bot, (change bot).name = bot.name ∧ (change bot).enabled = bot.enabled ∧
      (change bot).channelIdx = bot.channelIdx)
    (subscribes : ∀ bot, (change bot).subscribed = true → bot.subscribed = true) :
    Assigned first { world with bots := DeliveryBot.update world.bots name change } := by
  have findBot_old : ∀ {other bot}, (DeliveryBot.update world.bots name change).find?
      (fun bot => bot.name = other) = some bot →
      ∃ old, world.findBot other = some old ∧ bot.enabled = old.enabled ∧
        bot.channelIdx = old.channelIdx ∧ (bot.subscribed = true → old.subscribed = true) := by
    intro other bot found
    rw [world.findBot_update change (fun bot => (keeps bot).1), Option.map_eq_some_iff] at found
    rcases found with ⟨old, oldFound, rfl⟩
    refine ⟨old, oldFound, ?_⟩
    split
    · exact ⟨(keeps old).2.1, (keeps old).2.2, subscribes old⟩
    · exact ⟨rfl, rfl, id⟩
  exact
    { assigned with
      stored := by
        intro other bot resolution found isLast listedOn
        rcases findBot_old found with ⟨old, oldFound, enabled, index, _⟩
        rw [enabled, index]
        exact assigned.stored other old resolution oldFound isLast listedOn
      subscribed := by
        intro other bot found subscribed
        rcases findBot_old found with ⟨old, oldFound, enabled, _, same⟩
        rw [enabled]
        exact assigned.subscribed other old oldFound (same subscribed)
      known := by
        intro setup setupMem bot found
        rcases findBot_old found with ⟨old, oldFound, enabled, _⟩
        rw [enabled]
        exact assigned.known setup setupMem old oldFound }

theorem lastResolution_concat (resolved : List Resolution) (added : Resolution) (name : Text) :
    lastResolution (resolved ++ [added]) name =
      if added.name = name then some added else lastResolution resolved name := by
  simp only [lastResolution, List.reverse_append, List.reverse_cons, List.reverse_nil,
    List.nil_append, List.singleton_append, List.find?_cons]
  split
  · rename_i same
    rw [if_pos (of_decide_eq_true same)]
  · rename_i different
    rw [if_neg (of_decide_eq_false different)]

theorem Assigned.store (assigned : world.Assigned first) {number : Nat} {setup : BotSetup}
    (found : world.setups[number]? = some setup) (channelIdx : Nat) :
    (world.store number setup channelIdx).Assigned first := by
  have setupMem := List.mem_of_getElem? found
  have advanced := assigned.become number (.finished (some channelIdx))
  have findBot_old : ∀ {name bot},
      (world.store number setup channelIdx).findBot name = some bot →
      ∃ old, world.findBot name = some old ∧ bot.enabled = old.enabled ∧
        bot.subscribed = old.subscribed ∧
        bot.channelIdx = if setup.name = name then some channelIdx else old.channelIdx := by
    intro name bot botFound
    have same := world.findBot_update
      (fun bot => { bot with channelIdx := some channelIdx, ready := true }) (fun _ => rfl)
      setup.name name
    rw [findBot, DeliveryWorld.store, same, Option.map_eq_some_iff] at botFound
    rcases botFound with ⟨old, oldFound, rfl⟩
    refine ⟨old, oldFound, ?_⟩
    rw [name_of_findBot oldFound]
    simp only [eq_comm (a := name)]
    split
    · exact ⟨rfl, rfl, rfl⟩
    · exact ⟨rfl, rfl, rfl⟩
  exact
    { stored := by
        intro name bot resolution botFound isLast listedOn
        rcases findBot_old botFound with ⟨old, oldFound, enabled, _, index⟩
        rw [DeliveryWorld.store, lastResolution_concat] at isLast
        rw [enabled, index]
        split at isLast
        · rename_i own
          simp only at own
          subst name
          cases isLast
          exact ⟨assigned.known setup setupMem old oldFound, if_pos rfl⟩
        · rename_i other
          simp only at other
          rw [if_neg other]
          exact assigned.stored name old resolution oldFound isLast listedOn
      subscribed := by
        intro name bot botFound subscribed
        rcases findBot_old botFound with ⟨old, oldFound, enabled, same, _⟩
        rw [enabled]
        exact assigned.subscribed name old oldFound (same ▸ subscribed)
      known := by
        intro other otherMem bot botFound
        rcases findBot_old botFound with ⟨old, oldFound, enabled, _⟩
        rw [enabled]
        exact advanced.known other otherMem old oldFound
      bound := assigned.bound
      connected := assigned.connected
      started := assigned.started
      listed := advanced.listed
      resolved := by
        intro resolution resolutionMem connection listedOn
        rcases List.mem_append.mp resolutionMem with old | new
        · exact assigned.resolved resolution old connection listedOn
        · rw [List.mem_singleton.mp new] at listedOn
          exact assigned.listed setup setupMem connection listedOn
      sent := by
        intro reply replyMem
        rcases assigned.sent reply replyMem with ⟨enabled, resolution, resolutionMem, rest⟩
        exact ⟨enabled, resolution, List.mem_append_left _ resolutionMem, rest⟩ }

theorem Assigned.setupResumes {toLowerCase : Text → Text} (assigned : world.Assigned first)
    {number : Nat} (stepped : world.setupResumes toLowerCase number = some after) :
    after.Assigned first := by
  simp only [DeliveryWorld.setupResumes] at stepped
  split at stepped
  · cases stepped
  · rename_i setup found
    split at stepped
    · split at stepped
      · simp only [Option.some.injEq] at stepped
        subst after
        exact assigned.store found _
      · rename_i channelIdx connection _ current
        simp only [Option.some.injEq] at stepped
        subst after
        apply (assigned.submit current _).advance
        exact exists_of_mem_modify fun _ => ⟨rfl, rfl⟩
      · simp only [Option.some.injEq] at stepped
        subst after
        exact assigned.become number _
    · simp only [Option.some.injEq] at stepped
      subst after
      exact assigned.store found _
    · cases stepped

theorem Assigned.begin (assigned : world.Assigned first) (setup : BotSetup)
    (enabled : ∀ bot, world.findBot setup.name = some bot → bot.enabled = true)
    (listedOn : ∀ connection, setup.listedOn = some connection →
      connection < world.connections) :
    Assigned first { world with setups := world.setups ++ [setup] } :=
  { assigned with
    known := by
      intro other otherMem
      rcases List.mem_append.mp otherMem with old | new
      · exact assigned.known other old
      · rw [List.mem_singleton.mp new]
        exact enabled
    listed := by
      intro other otherMem
      rcases List.mem_append.mp otherMem with old | new
      · exact assigned.listed other old
      · rw [List.mem_singleton.mp new]
        exact listedOn }

theorem Assigned.setup (assigned : world.Assigned first) {name : Text}
    (stepped : world.setup name = some after) : after.Assigned first := by
  simp only [DeliveryWorld.setup] at stepped
  split at stepped
  · cases stepped
  · rename_i bot found
    simp only [Option.ite_none_right_eq_some] at stepped
    rcases stepped with ⟨subscribed, stepped⟩
    have enabled : ∀ other, world.findBot name = some other → other.enabled = true := by
      intro other otherFound
      rw [found] at otherFound
      cases otherFound
      exact assigned.subscribed name bot found subscribed
    split at stepped
    · rename_i connection current
      simp only [Option.some.injEq] at stepped
      subst after
      have below := (assigned.connected connection current).2
      have begun := (assigned.submit current (.getChannels world.setups.length)).begin
        ⟨name, bot.channelName, some connection, none, .listing⟩ enabled
        (fun other listedOn => Option.some.inj listedOn ▸ below)
      exact begun.update name (fun _ => ⟨rfl, rfl, rfl⟩) (fun _ => id)
    · simp only [Option.some.injEq] at stepped
      subst after
      have begun := assigned.begin ⟨name, bot.channelName, none, none, .finished none⟩ enabled
        nofun
      exact begun.update name (fun _ => ⟨rfl, rfl, rfl⟩) (fun _ => id)

theorem Assigned.commandStarts (assigned : world.Assigned first)
    (prepared : world.Prepared .commandStarts) (stepped : world.commandStarts = some after) :
    after.Assigned first := by
  simp only [DeliveryWorld.commandStarts, Option.map_eq_some_iff] at stepped
  rcases stepped with ⟨commands, started, rfl⟩
  have bound : ∀ command ∈ commands.tasks, first ≤ command.connection := by
    rw [SerialQueue.tasks_start started]
    exact assigned.bound
  rcases SerialQueue.start_eq_some started with ⟨command, waiting, idle, rfl⟩
  simp only [Prepared, idle, List.head?_cons] at prepared
  rcases command with ⟨connection, purpose⟩
  cases purpose with
  | sendChannelTextMessage number name =>
      simp only [Option.any_eq_true, decide_eq_true_eq] at prepared
      rcases prepared with ⟨resolution, isLast, on⟩
      have named : resolution.name = name := by simpa using List.find?_some isLast
      have resolutionMem : resolution ∈ world.resolved :=
        List.mem_reverse.mp (List.mem_of_find?_eq_some isLast)
      have own : first ≤ connection := bound ⟨connection, _⟩ List.mem_cons_self
      exact
        { assigned.run bound with
          sent := by
            intro reply replyMem
            rcases List.mem_append.mp replyMem with old | new
            · exact assigned.sent reply old
            · rcases List.mem_map.mp new with ⟨bot, botMem, rfl⟩
              rw [Option.mem_toList] at botMem
              rcases assigned.stored name bot resolution botMem isLast ⟨connection, own, on.1⟩
                with ⟨enabled, index⟩
              exact ⟨enabled, resolution, resolutionMem, named, index, on⟩ }
  | getChannels number => exact assigned.run bound
  | setChannel number channelIdx => exact assigned.run bound
  | other => exact assigned.run bound

theorem Assigned.commandSettles (assigned : world.Assigned first) {outcome : Outcome}
    {channels : List ChannelSlot} (stepped : world.commandSettles outcome channels = some after) :
    after.Assigned first := by
  have settled := assigned.settle
  simp only [DeliveryWorld.commandSettles] at stepped
  split at stepped
  · cases stepped
  · simp only [Option.some.injEq] at stepped
    subst after
    exact settled.become _ _
  · simp only [Option.some.injEq] at stepped
    subst after
    exact settled.become _ _
  · simp only [Option.map_eq_some_iff] at stepped
    rcases stepped with ⟨replies, _, rfl⟩
    exact { settled with }
  · simp only [Option.some.injEq] at stepped
    subst after
    exact settled

theorem Assigned.executeSettles (assigned : world.Assigned first) {number : Nat}
    {outcome : Outcome} (stepped : world.executeSettles number outcome = some after) :
    after.Assigned first := by
  simp only [DeliveryWorld.executeSettles] at stepped
  split at stepped
  · cases stepped
  · split at stepped
    · rename_i connection current
      simp only [Option.some.injEq] at stepped
      subst after
      exact { assigned.submit current _ with }
    · simp only [Option.some.injEq] at stepped
      subst after
      exact { assigned with }

theorem findBot_new {configuration : List BotConfig} {name : Text} {bot : DeliveryBot}
    (found : (configuration.map DeliveryBot.new).find? (fun bot => bot.name = name) = some bot) :
    bot.subscribed = true → bot.enabled = true := by
  rcases List.mem_map.mp (List.mem_of_find?_eq_some found) with ⟨config, _, rfl⟩
  exact id

/-- No slot has been resolved on a connection that is still to come. -/
theorem assigned_start (configuration : List BotConfig)
    (bots : world.bots = configuration.map DeliveryBot.new) (setups : world.setups = [])
    (commands : world.commands = .empty) (connection : world.connection = none)
    (resolved : ∀ resolution ∈ world.resolved, ∀ connection,
      resolution.listedOn = some connection → connection < world.connections)
    (sent : world.OnResolvedSlots) : world.Assigned world.connections where
  stored := by
    rintro name bot resolution _ isLast ⟨connection, later, listedOn⟩
    have resolutionMem := List.mem_reverse.mp (List.mem_of_find?_eq_some isLast)
    exact absurd (resolved resolution resolutionMem connection listedOn) (Nat.not_lt.mpr later)
  subscribed := by
    intro name bot found
    rw [findBot, bots] at found
    exact findBot_new found
  known := by simp [setups]
  bound := by simp [commands]
  connected := by simp [connection]
  started := Nat.le_refl _
  listed := by simp [setups]
  resolved := resolved
  sent := sent

theorem Assigned.step {toLowerCase : Text → Text} {event : DeliveryEvent}
    (assigned : world.Assigned first) (prepared : world.Prepared event)
    (stepped : world.step toLowerCase event = some after) : ∃ first, after.Assigned first := by
  cases event with
  | reply event =>
      simp only [DeliveryWorld.step, Option.ite_none_right_eq_some,
        Option.map_eq_some_iff] at stepped
      rcases stepped with ⟨_, replies, _, rfl⟩
      exact ⟨first, { assigned with }⟩
  | dispatchStarts number =>
      simp only [DeliveryWorld.step, DeliveryWorld.dispatchStarts] at stepped
      split at stepped
      · cases stepped
      · simp only [Option.map_eq_some_iff] at stepped
        rcases stepped with ⟨replies, _, rfl⟩
        split
        · exact ⟨first, { assigned with }⟩
        · exact ⟨first, { assigned with }⟩
  | executeSettles number outcome => exact ⟨first, assigned.executeSettles stepped⟩
  | dispatchRejects number =>
      simp only [DeliveryWorld.step, DeliveryWorld.dispatchRejects, Option.ite_none_right_eq_some,
        Option.map_eq_some_iff] at stepped
      rcases stepped with ⟨_, replies, _, rfl⟩
      exact ⟨first, { assigned with }⟩
  | connects =>
      simp only [DeliveryWorld.step, Option.some.injEq] at stepped
      subst after
      exact ⟨first,
        { assigned with
          connected := by
            rintro _ ⟨⟩
            exact ⟨assigned.started, Nat.lt_succ_self _⟩
          started := Nat.le_succ_of_le assigned.started
          listed := fun setup setupMem connection listedOn =>
            Nat.lt_succ_of_lt (assigned.listed setup setupMem connection listedOn)
          resolved := fun resolution resolutionMem connection listedOn =>
            Nat.lt_succ_of_lt (assigned.resolved resolution resolutionMem connection listedOn) }⟩
  | connectionLost =>
      simp only [DeliveryWorld.step, Option.map_eq_some_iff] at stepped
      rcases stepped with ⟨_, _, rfl⟩
      exact ⟨first, { assigned with connected := nofun }⟩
  | setup name => exact ⟨first, assigned.setup stepped⟩
  | setupResumes number => exact ⟨first, assigned.setupResumes stepped⟩
  | stopBot name =>
      simp only [DeliveryWorld.step, Option.some.injEq] at stepped
      subst after
      exact ⟨first, assigned.update name (fun _ => ⟨rfl, rfl, rfl⟩) nofun⟩
  | runCommand =>
      simp only [DeliveryWorld.step, Option.map_eq_some_iff] at stepped
      rcases stepped with ⟨connection, current, rfl⟩
      exact ⟨first, assigned.submit current _⟩
  | commandStarts => exact ⟨first, assigned.commandStarts prepared stepped⟩
  | commandSettles outcome channels => exact ⟨first, assigned.commandSettles stepped⟩
  | processStarts configuration ttlMs quietMs now =>
      simp only [DeliveryWorld.step, Option.ite_none_right_eq_some, Option.some.injEq] at stepped
      rcases stepped with ⟨_, rfl⟩
      exact ⟨_, assigned_start configuration rfl rfl rfl rfl assigned.resolved assigned.sent⟩

/-- In every prepared run, in every state: each reply was sent by an enabled bot, on the slot that
a successful setup of the bot had resolved on the connection of the command. -/
theorem on_resolved_slots_of_prepared {toLowerCase : Text → Text}
    (reachable : (deliverySystem toLowerCase).ReachableWhen Prepared world) :
    world.OnResolvedSlots := by
  have assigned : ∃ first, world.Assigned first := by
    apply reachable.invariant
    · rintro initial ⟨configuration, ttlMs, quietMs, now, rfl⟩
      exact ⟨_, assigned_start configuration rfl rfl rfl rfl nofun nofun⟩
    · rintro before event next ⟨first, assigned⟩ prepared stepped
      exact assigned.step prepared stepped
  rcases assigned with ⟨first, assigned⟩
  exact assigned.sent

def sendsReply (timer : Nat) : List DeliveryEvent :=
  [.reply (.tick timer 20 20 20), .dispatchStarts 0, .executeSettles 0 .resolved, .commandStarts]

theorem on_resolved_slots_of_restart :
    OnResolvedSlots (((deliverySystem id).run Prepared (.new (echoBot true) 60 10 0)
      (connectsAndSetsUp 0 0 ++ [.reply (.enqueue "echo".toList 5),
        .processStarts (echoBot true) 60 10 6, .reply .start] ++ connectsAndSetsUp 0 3 ++
        [.setup "echo".toList, .reply (.tick 1 20 20 20), .dispatchStarts 0,
          .executeSettles 0 .resolved, .stopBot "echo".toList, .commandStarts,
          .commandSettles .rejected [], .commandStarts, .commandSettles .resolved [],
          .reply (.tickResumes 0 25)])).get rfl) := by
  apply on_resolved_slots_of_prepared
  refine EventSystem.reachableWhen_get ?_ _
  exact ⟨echoBot true, 60, 10, 0, rfl⟩

/-- A reply is accepted, and the next process connects before any setup. -/
def resumesBeforeSetup (enabled : Bool) : List DeliveryEvent :=
  connectsAndSetsUp 0 0 ++ [.reply (.enqueue "echo".toList 5),
    .processStarts (echoBot enabled) 60 10 6, .reply .start, .connects] ++ sendsReply 1

/-- A reply is accepted on one connection and sent on the next one, before its setup. -/
def reconnectsBeforeSetup : List DeliveryEvent :=
  connectsAndSetsUp 0 0 ++ [.reply (.enqueue "echo".toList 5), .connectionLost, .connects] ++
    sendsReply 0

/-- A reply goes out without an index, with the index of an older connection, and from a bot that
is disabled. -/
theorem sent_off_resolved_slots :
    (∃ world, (deliverySystem id).Reachable world ∧
      world.sent = [⟨"echo".toList, true, 1, none⟩] ∧ ¬world.OnResolvedSlots) ∧
    (∃ world, (deliverySystem id).Reachable world ∧
      world.sent = [⟨"echo".toList, true, 1, some 0⟩] ∧ ¬world.OnResolvedSlots) ∧
    ∃ world, (deliverySystem id).Reachable world ∧
      world.sent = [⟨"echo".toList, false, 1, none⟩] ∧ ¬world.OnResolvedSlots := by
  refine ⟨⟨((deliverySystem id).run EventSystem.anyStep (.new (echoBot true) 60 10 0)
      (resumesBeforeSetup true)).get rfl, ?_, rfl, ?_⟩,
    ⟨((deliverySystem id).run EventSystem.anyStep (.new (echoBot true) 60 10 0)
      reconnectsBeforeSetup).get rfl, ?_, rfl, ?_⟩,
    ⟨((deliverySystem id).run EventSystem.anyStep (.new (echoBot true) 60 10 0)
      (resumesBeforeSetup false)).get rfl, ?_, rfl, ?_⟩⟩
  · refine EventSystem.reachableWhen_get ?_ _
    exact ⟨echoBot true, 60, 10, 0, rfl⟩
  · intro resolved
    rcases resolved _ List.mem_cons_self with ⟨_, resolution, _, _, index, _⟩
    cases index
  · refine EventSystem.reachableWhen_get ?_ _
    exact ⟨echoBot true, 60, 10, 0, rfl⟩
  · intro resolved
    rcases resolved _ List.mem_cons_self with ⟨_, resolution, resolutionMem, _, _, on⟩
    rcases List.mem_singleton.mp resolutionMem with rfl
    cases on.1
  · refine EventSystem.reachableWhen_get ?_ _
    exact ⟨echoBot true, 60, 10, 0, rfl⟩
  · intro resolved
    cases (resolved _ List.mem_cons_self).1

end DeliveryWorld

end MeshcoreObserver
