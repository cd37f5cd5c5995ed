import MeshcoreObserver.Web.MetricsServer

/-!
# Totals of the bots

The counts of the configured triggers are those of the sent replies, both where
one query is made for each bot and where one query is grouped by bot. The total
of a bot is the sum of these counts, so it leaves out every reply whose trigger
has been configured once and is no longer.
-/

namespace MeshcoreObserver

open Counting Sqlite

section Counts

variable {Key Row Value : Type} [DecidableEq Key]

theorem perm_orderBy (before : Row → Row → Bool) (rows : List Row) :
    (orderBy before rows).Perm rows :=
  List.perm_insertionSort _ _

theorem find?_orderBy (before : Key × Value → Key × Value → Bool) {entries : List (Key × Value)}
    (nodup : (entries.map Prod.fst).Nodup) (key : Key) :
    find? key (orderBy before entries) = find? key entries :=
  (find?_perm nodup (perm_orderBy before entries).symm).symm

omit [DecidableEq Key] in
theorem nodup_orderBy (before : Key × Value → Key × Value → Bool) {entries : List (Key × Value)}
    (nodup : (entries.map Prod.fst).Nodup) : ((orderBy before entries).map Prod.fst).Nodup :=
  ((perm_orderBy before entries).map Prod.fst).nodup_iff.mpr nodup

theorem nodup_countBy (key : Row → Key) (rows : List Row) :
    ((countBy key rows).map Prod.fst).Nodup :=
  nodup_sumBy key _ rows

theorem count_countBy (key : Row → Key) (rows : List Row) (group : Key) :
    count group (countBy key rows) = (rows.filter fun row => key row = group).length := by
  have summed := count_sumBy key (fun _ => 1) rows group
  rw [countBy, summed]
  simp

end Counts

section Bot

variable {tables : StoreTables} {window : Window}

namespace StoreTables

/-- The replies of a bot which were sent in a window. -/
def sentBy (tables : StoreTables) (window : Window) (botName : Text) : BotReplies QueuedReply :=
  (tables.sentIn window).filter fun row => row.item.botName = botName

/-- Those of them to one trigger. -/
def sentTo (tables : StoreTables) (window : Window) (botName trigger : Text) :
    BotReplies QueuedReply :=
  (tables.sentBy window botName).filter fun row => row.item.trigger = trigger

end StoreTables

theorem nodup_queryBotCommandCounts (botName : Text) :
    ((tables.queryBotCommandCounts botName window).map Prod.fst).Nodup :=
  nodup_orderBy _ (nodup_countBy _ _)

theorem nodup_queryBotCommandCountsByBot :
    ((tables.queryBotCommandCountsByBot window).map Prod.fst).Nodup :=
  nodup_orderBy _ (nodup_countBy _ _)

theorem count_queryBotCommandCounts (botName trigger : Text) :
    count trigger (tables.queryBotCommandCounts botName window) =
      (tables.sentTo window botName trigger).length := by
  rw [count, StoreTables.queryBotCommandCounts, find?_orderBy _ (nodup_countBy _ _)]
  exact count_countBy _ _ trigger

theorem count_queryBotCommandCountsByBot (botName trigger : Text) :
    count (botName, trigger) (tables.queryBotCommandCountsByBot window) =
      (tables.sentTo window botName trigger).length := by
  rw [count, StoreTables.queryBotCommandCountsByBot, find?_orderBy _ (nodup_countBy _ _)]
  refine (count_countBy _ _ (botName, trigger)).trans ?_
  rw [StoreTables.sentTo, StoreTables.sentBy, List.filter_filter]
  congr 3
  funext row
  simp [Prod.ext_iff, Bool.and_comm]

/-- The rows which a bot's replies of the outcome `sent` are counted from. -/
theorem count_queryBotReplyOutcomeTotals_sent (botName : Text) :
    count (botName, ReplyStatus.sent.name) (tables.queryBotReplyOutcomeTotals window) =
      (tables.sentBy window botName).length := by
  have sent : ∀ status : ReplyStatus, status.name = ReplyStatus.sent.name ↔ status = .sent := by
    intro status
    cases status <;> decide
  rw [count, StoreTables.queryBotReplyOutcomeTotals, find?_orderBy _ (nodup_countBy _ _)]
  refine (count_countBy _ _ (botName, ReplyStatus.sent.name)).trans ?_
  rw [StoreTables.sentBy, StoreTables.sentIn, StoreTables.resolvedRepliesIn, List.filter_filter,
    List.filter_filter]
  congr 3
  funext row
  by_cases isSent : row.status = .sent
  · simp [Prod.ext_iff, isSent]
  · simp [Prod.ext_iff, sent, isSent]

end Bot

theorem mapOf_eq {entries : List (Text × Int)} (nodup : (entries.map Prod.fst).Nodup) :
    mapOf entries = entries := by
  refine (foldl_update_of_nodup Prod.fst Prod.snd nodup).trans ?_
  simp

/-- The counts of a bot are its rows of the grouped query, in their order. -/
theorem find?_countsByBot (rows : List ((Text × Text) × Int)) (botName : Text) :
    (find? botName (countsByBot rows)).getD [] =
      (rows.filter fun row => row.1.1 = botName).map fun row => (row.1.2, row.2) := by
  have appended : ∀ (rows : List ((Text × Text) × Int)) (counts : Option (List (Text × Int))),
      (rows.foldl (fun counts row => some (counts.getD [] ++ [(row.1.2, row.2)])) counts).getD [] =
        counts.getD [] ++ rows.map fun row => (row.1.2, row.2) := by
    intro rows
    induction rows with
    | nil =>
        intro counts
        simp
    | cons row rows ih =>
        intro counts
        rw [List.foldl_cons, ih]
        simp
  have found := find?_foldl_update (fun row : (Text × Text) × Int => row.1.1)
    (fun row counts => counts.getD [] ++ [(row.1.2, row.2)]) botName rows []
  rw [countsByBot, found, appended]
  rfl

/-- A bot with the number of replies sent to each of its triggers. -/
def countedBot (tables : StoreTables) (window : Window) (botConfig : BotConfig) : BotCommands :=
  let commands := botConfig.commands.map fun command =>
    { trigger := command.trigger
      count := (tables.sentTo window botConfig.name command.trigger).length : CommandCount }
  { botName := botConfig.name, commands, totalReplies := (commands.map CommandCount.count).sum }

section Answers

variable {server : MetricsServer} {tables : StoreTables} {window : Window}

theorem botCommands_eq {botConfig : BotConfig} {counts : List (Text × Int)}
    (nodup : (counts.map Prod.fst).Nodup)
    (counted : ∀ trigger,
      count trigger counts = (tables.sentTo window botConfig.name trigger).length) :
    botCommands botConfig counts = countedBot tables window botConfig := by
  have same : bucketBotCommandCounts botConfig.commands counts =
      botConfig.commands.map fun command =>
        { trigger := command.trigger
          count := (tables.sentTo window botConfig.name command.trigger).length } := by
    simp only [bucketBotCommandCounts, mapOf_eq nodup]
    apply List.map_congr_left
    intro command _
    rw [← counted command.trigger]
    rfl
  simp only [botCommands, same, countedBot]

theorem handleBotCommands_eq :
    server.handleBotCommands tables window =
      server.botsConfig.map (countedBot tables window) := by
  apply List.map_congr_left
  intro botConfig _
  apply botCommands_eq
  · exact nodup_queryBotCommandCounts botConfig.name
  · exact count_queryBotCommandCounts botConfig.name

/-- The grouped query and the queries bot by bot give the same answer. -/
theorem queryDashboardBotCommands_eq :
    server.queryDashboardBotCommands tables window =
      server.botsConfig.map (countedBot tables window) := by
  apply List.map_congr_left
  intro botConfig _
  simp only [find?_countsByBot]
  apply botCommands_eq
  · rw [List.map_map]
    exact nodup_filter_fst nodup_queryBotCommandCountsByBot
  · intro trigger
    rw [count, find?_filter_fst]
    exact count_queryBotCommandCountsByBot botConfig.name trigger

end Answers

/-- The answer lists every configured bot once, in the order of the configuration, with the number
of replies sent to each of its triggers and with the number of replies it has sent. -/
structure TellsBotTotals (tables : StoreTables) (window : Window) (botsConfig : List BotConfig)
    (bots : List BotCommands) : Prop where
  inOrder : bots.map BotCommands.botName = botsConfig.map BotConfig.name
  once : (bots.map BotCommands.botName).Nodup
  commands : List.Forall₂
    (fun botConfig bot => bot.commands = botConfig.commands.map fun command =>
      { trigger := command.trigger
        count := (tables.sentTo window botConfig.name command.trigger).length : CommandCount })
    botsConfig bots
  totalReplies : ∀ bot ∈ bots, bot.totalReplies = (tables.sentBy window bot.botName).length
  outcomes : ∀ bot ∈ bots, bot.totalReplies =
    count (bot.botName, ReplyStatus.sent.name) (tables.queryBotReplyOutcomeTotals window)

section Totals

variable {server : MetricsServer} {tables : StoreTables} {window : Window}
  {botsConfig : List BotConfig}

/-- The total counts the replies to the triggers that are configured. -/
theorem totalReplies_countedBot {botConfig : BotConfig}
    (triggers : (botConfig.commands.map CommandConfig.trigger).Nodup) :
    (countedBot tables window botConfig).totalReplies =
      ((tables.sentBy window botConfig.name).filter fun row =>
        row.item.trigger ∈ botConfig.commands.map CommandConfig.trigger).length := by
  have summed := sum_length_filter (fun row : ReplyRow QueuedReply => row.item.trigger)
    (tables.sentBy window botConfig.name) triggers
  simp only [List.map_map] at summed
  simp only [countedBot, List.map_map]
  convert summed
  rfl

theorem totalReplies_eq_iff {botConfig : BotConfig}
    (triggers : (botConfig.commands.map CommandConfig.trigger).Nodup) :
    (countedBot tables window botConfig).totalReplies =
        (tables.sentBy window botConfig.name).length ↔
      ∀ row ∈ tables.sentIn window, row.item.botName = botConfig.name →
        row.item.trigger ∈ botConfig.commands.map CommandConfig.trigger := by
  rw [totalReplies_countedBot triggers, Int.ofNat_inj, length_filter_eq_iff]
  simp [StoreTables.sentBy]

theorem tellsBotTotals_iff (names : (botsConfig.map BotConfig.name).Nodup)
    (triggers : ∀ botConfig ∈ botsConfig,
      (botConfig.commands.map CommandConfig.trigger).Nodup) :
    TellsBotTotals tables window botsConfig (botsConfig.map (countedBot tables window)) ↔
      ∀ botConfig ∈ botsConfig, ∀ row ∈ tables.sentIn window,
        row.item.botName = botConfig.name →
          row.item.trigger ∈ botConfig.commands.map CommandConfig.trigger := by
  have order : (botsConfig.map (countedBot tables window)).map BotCommands.botName =
      botsConfig.map BotConfig.name := by
    rw [List.map_map]
    rfl
  constructor
  · intro tells botConfig configured
    apply (totalReplies_eq_iff (triggers botConfig configured)).mp
    exact tells.totalReplies _ (List.mem_map_of_mem configured)
  · intro all
    have totals : ∀ bot ∈ botsConfig.map (countedBot tables window),
        bot.totalReplies = (tables.sentBy window bot.botName).length := by
      intro bot botMem
      rcases List.mem_map.mp botMem with ⟨botConfig, configured, rfl⟩
      exact (totalReplies_eq_iff (triggers botConfig configured)).mpr (all botConfig configured)
    exact
      { inOrder := order
        once := by
          rw [order]
          exact names
        commands := by
          rw [List.forall₂_map_right_iff, List.forall₂_same]
          intro botConfig _
          rfl
        totalReplies := totals
        outcomes := by
          intro bot botMem
          rw [count_queryBotReplyOutcomeTotals_sent]
          exact totals bot botMem }

/-- Both answers tell the totals of the bots exactly where no reply that was sent in the window
belongs to a trigger its bot is no longer configured with. -/
theorem bot_totals_iff (names : (server.botsConfig.map BotConfig.name).Nodup)
    (triggers : ∀ botConfig ∈ server.botsConfig,
      (botConfig.commands.map CommandConfig.trigger).Nodup) :
    (TellsBotTotals tables window server.botsConfig (server.handleBotCommands tables window) ∧
        TellsBotTotals tables window server.botsConfig
          (server.queryDashboardBotCommands tables window)) ↔
      ∀ botConfig ∈ server.botsConfig, ∀ row ∈ tables.sentIn window,
        row.item.botName = botConfig.name →
          row.item.trigger ∈ botConfig.commands.map CommandConfig.trigger := by
  rw [handleBotCommands_eq, queryDashboardBotCommands_eq, and_self]
  exact tellsBotTotals_iff names triggers

end Totals

/-- Two bots, the first of which was configured with `!old` before. -/
def renamedTrigger : MetricsServer where
  botsConfig :=
    [{ name := "echo".toList, channel := "test".toList, enabled := true, minHops := 0
       maxMessageBytes := none
       commands := [.bare "!new".toList none, .bare "!ping".toList none] },
      { name := "weather".toList, channel := "public".toList, enabled := true, minHops := 1
        maxMessageBytes := none, commands := [.bare "!rain".toList none] }]
  brokerIds := []
  sampleIntervalMs := 60000
  maxChartBuckets := 200

def resolvedReply (id : Nat) (botName trigger : Text) (status : ReplyStatus) (resolvedAt : Int) :
    ReplyRow QueuedReply where
  id := id
  item := { botName, channel := "test".toList, trigger, sender := [], hopCount := 0, path := []
            hash := [], handlerState := ⟨.exact, none⟩ }
  enqueuedAt := 10
  expiresAt := 70
  status := status
  resolvedAt := some resolvedAt
  queuedMs := some (resolvedAt - 10)

/-- Replies of both bots and of one that is no longer configured, and one to the former trigger. -/
def formerReplies (former : ReplyStatus) : StoreTables where
  samples := []
  packetTypes := []
  brokerDeliveries := []
  botReplies :=
    [resolvedReply 1 "echo".toList "!old".toList former 20,
      resolvedReply 2 "echo".toList "!new".toList .sent 30,
      resolvedReply 3 "weather".toList "!rain".toList .sent 30,
      resolvedReply 4 "echo".toList "!ping".toList .sent 40,
      resolvedReply 5 "echo".toList "!new".toList .sent 50,
      resolvedReply 6 "weather".toList "!rain".toList .expired 60,
      resolvedReply 7 "removed".toList "!old".toList .sent 60,
      resolvedReply 8 "echo".toList "!old".toList .sent 200]
  nodes := []
  floodAdvertState := .new

/-- The reply to the former trigger is missing from the total. -/
theorem formerTrigger_not_counted :
    ¬TellsBotTotals (formerReplies .sent) ⟨0, 100⟩ renamedTrigger.botsConfig
      (renamedTrigger.handleBotCommands (formerReplies .sent) ⟨0, 100⟩) := by
  intro tells
  rw [handleBotCommands_eq] at tells
  have total := (tellsBotTotals_iff (by decide) (by decide)).mp tells
  have configured := total _ List.mem_cons_self
    ((formerReplies .sent).botReplies.get ⟨0, by decide⟩) (by decide +kernel) (by decide)
  exact absurd configured (by decide)

theorem bot_totals_iff_of_renamed :
    (TellsBotTotals (formerReplies .failed) ⟨0, 100⟩ renamedTrigger.botsConfig
          (renamedTrigger.handleBotCommands (formerReplies .failed) ⟨0, 100⟩) ∧
        TellsBotTotals (formerReplies .failed) ⟨0, 100⟩ renamedTrigger.botsConfig
          (renamedTrigger.queryDashboardBotCommands (formerReplies .failed) ⟨0, 100⟩)) ↔
      ∀ botConfig ∈ renamedTrigger.botsConfig,
        ∀ row ∈ (formerReplies .failed).sentIn ⟨0, 100⟩, row.item.botName = botConfig.name →
          row.item.trigger ∈ botConfig.commands.map CommandConfig.trigger :=
  bot_totals_iff (by decide) (by decide)

end MeshcoreObserver
