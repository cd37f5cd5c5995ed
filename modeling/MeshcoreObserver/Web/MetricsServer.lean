import MeshcoreObserver.Metrics.StoreQueries
import MeshcoreObserver.Nodes.NodeTotals

/-!
# The metrics server

The views of the aggregate dashboard endpoint and the dedicated endpoints, over
the tables of the store and a resolved window. The brokers are those of the
health snapshot, in the order of its keys.

`none` stands for a view whose history query throws.
-/

namespace MeshcoreObserver

open Counting

/-- The enumeration of `dashboardQuerySchema`. -/
inductive DashboardView where
  | overview
  | packets
  | brokers
  | bots
  | repeaters
  deriving DecidableEq, Repr

structure CommandCount where
  trigger : Text
  count : Int
  deriving DecidableEq, Repr

structure BotCommands where
  botName : Text
  commands : List CommandCount
  totalReplies : Int
  deriving DecidableEq, Repr

/-- `new Map(entries)`. -/
def mapOf (entries : List (Text × Int)) : List (Text × Int) :=
  entries.foldl (fun map entry => update entry.1 (fun _ => entry.2) map) []

def bucketBotCommandCounts (commands : List CommandConfig) (counts : List (Text × Int)) :
    List CommandCount :=
  let countsByTrigger := mapOf counts
  commands.map fun command =>
    { trigger := command.trigger, count := (find? command.trigger countsByTrigger).getD 0 }

def botCommands (botConfig : BotConfig) (counts : List (Text × Int)) : BotCommands :=
  let commands := bucketBotCommandCounts botConfig.commands counts
  { botName := botConfig.name
    commands
    totalReplies := (commands.map fun row => row.count).sum }

/-- The counts of each bot, in the order of the rows. -/
def countsByBot (rows : List ((Text × Text) × Int)) : List (Text × List (Text × Int)) :=
  rows.foldl
    (fun countsByBot row =>
      update row.1.1 (fun counts => counts.getD [] ++ [(row.1.2, row.2)]) countsByBot)
    []

structure BrokerDeliveries where
  brokerId : Text
  counts : Deliveries
  deriving DecidableEq, Repr

/-- `counts[outcome] = total`. The check of the table admits no other outcome. -/
def Deliveries.setOutcome (counts : Deliveries) (outcome : Text) (total : Int) : Deliveries :=
  if outcome = "sent".toList then { counts with sent := total }
  else if outcome = "skipped".toList then { counts with skipped := total }
  else if outcome = "failed".toList then { counts with failed := total }
  else counts

def countsByBroker (rows : List ((Text × Text) × Int)) : List (Text × Deliveries) :=
  rows.foldl
    (fun countsByBroker row =>
      update row.1.1 (fun counts => (counts.getD .zero).setOutcome row.1.2 row.2) countsByBroker)
    []

/-- The totals of the types over some buckets, the largest first. -/
def packetTypeTotalsFromHistory (buckets : List PacketBucket) : List (Text × Int) :=
  orderBy totalAfter
    (buckets.foldl
      (fun counts bucket =>
        bucket.countsByType.foldl (fun counts entry => add entry.1 entry.2 counts) counts)
      [])

/-- The two sums over the buckets of a history. -/
def packetTotalsFromHistory (buckets : List PacketBucket) : PacketTotals where
  received := (buckets.map fun bucket => bucket.packetsReceived).sum
  decoded := (buckets.map fun bucket => bucket.packetsDecoded).sum

/-- The totals of the brokers of the overview, without their `skipped`. -/
structure BrokerTotals where
  sent : Int
  failed : Int
  deriving DecidableEq, Repr

def currentBrokerTotals (brokers : List BrokerDeliveries) : BrokerTotals :=
  brokers.foldl
    (fun totals broker =>
      { sent := totals.sent + broker.counts.sent, failed := totals.failed + broker.counts.failed })
    { sent := 0, failed := 0 }

/-- The totals of the window before, of the brokers which are configured now. -/
def previousBrokerTotals (currentBrokerIds : List Text) (rows : List ((Text × Text) × Int)) :
    BrokerTotals :=
  rows.foldl
    (fun totals row =>
      if currentBrokerIds.contains row.1.1 then
        if row.1.2 = "sent".toList then { totals with sent := totals.sent + row.2 }
        else if row.1.2 = "failed".toList then { totals with failed := totals.failed + row.2 }
        else totals
      else totals)
    { sent := 0, failed := 0 }

structure Trends where
  packetsReceived : Int
  packetsDecoded : Int
  repliesSent : Int
  repliesExpired : Int
  repliesFailed : Int
  brokerSent : Int
  brokerFailed : Int
  repeatersAdded : Int
  repeatersUpdated : Int
  deriving DecidableEq, Repr

structure Comparison where
  window : Window
  durationMs : ℚ
  deriving DecidableEq

structure OverviewData where
  packets : PacketTotals
  byType : List (Text × Int)
  outcomes : ReplyOutcomeTotals
  brokers : List BrokerDeliveries
  repeaters : NodeTotals
  comparison : Option Comparison
  trends : Option Trends
  deriving DecidableEq

inductive DashboardData where
  | overview (data : OverviewData)
  | packets (history : List PacketBucket) (totals : List (Text × Int))
  | brokers (brokers : List BrokerDeliveries)
  | bots (replyOutcomes : ReplyOutcomeTotals) (bots : List BotCommands)
  | repeaters (totals : NodeTotals)
  deriving DecidableEq

/-- What a `MetricsServer` is constructed with, and the keys of `snapshot().mqtt`. -/
structure MetricsServer where
  botsConfig : List BotConfig
  brokerIds : List Text
  sampleIntervalMs : ℚ
  maxChartBuckets : Nat
  deriving DecidableEq

namespace MetricsServer

variable (server : MetricsServer) (tables : StoreTables) (window : Window)

def queryDashboardBotCommands : List BotCommands :=
  let countsByBot := countsByBot (tables.queryBotCommandCountsByBot window)
  server.botsConfig.map fun botConfig =>
    botCommands botConfig ((find? botConfig.name countsByBot).getD [])

def queryDashboardBrokers : List BrokerDeliveries :=
  let countsByBroker := countsByBroker (tables.queryBrokerDeliveryTotals window)
  server.brokerIds.map fun brokerId =>
    { brokerId, counts := (find? brokerId countsByBroker).getD .zero }

def queryPacketHistory (maxBuckets : Nat) : Option (List PacketBucket) :=
  tables.queryPacketHistory window maxBuckets server.sampleIntervalMs

/-- The differences to the window before, with its sums over the buckets. -/
def trends (packets : PacketTotals) (replies : ReplyOutcomeTotals)
    (brokers : List BrokerDeliveries) (repeaters : NodeTotals) (previous : Window)
    (previousPackets : PacketTotals) : Trends :=
  let previousReplies := tables.queryReplyOutcomeTotals previous
  let previousBrokers := previousBrokerTotals (brokers.map BrokerDeliveries.brokerId)
    (tables.queryBrokerDeliveryTotals previous)
  let previousRepeaters := queryNodeTotals tables.nodes previous repeaterType
  let currentBrokers := currentBrokerTotals brokers
  { packetsReceived := packets.received - previousPackets.received
    packetsDecoded := packets.decoded - previousPackets.decoded
    repliesSent := replies.sent - previousReplies.sent
    repliesExpired := replies.expired - previousReplies.expired
    repliesFailed := replies.failed - previousReplies.failed
    brokerSent := currentBrokers.sent - previousBrokers.sent
    brokerFailed := currentBrokers.failed - previousBrokers.failed
    repeatersAdded := (repeaters.added : Int) - previousRepeaters.added
    repeatersUpdated := (repeaters.updated : Int) - previousRepeaters.updated }

def queryOverview (maxBuckets : Nat) (comparisonWindow : Option Window) : Option OverviewData :=
  (server.queryPacketHistory tables window maxBuckets).bind fun buckets =>
    let packets := packetTotalsFromHistory buckets
    let outcomes := tables.queryReplyOutcomeTotals window
    let brokers := server.queryDashboardBrokers tables window
    let repeaters := queryNodeTotals tables.nodes window repeaterType
    let overview (trends : Option Trends) : OverviewData :=
      { packets
        byType := packetTypeTotalsFromHistory buckets
        outcomes
        brokers
        repeaters
        comparison := comparisonWindow.map fun previous =>
          { window := previous, durationMs := window.finish - window.start }
        trends }
    match comparisonWindow with
    | none => some (overview none)
    | some previous =>
        (server.queryPacketHistory tables previous maxBuckets).map fun previousBuckets =>
          overview (some (trends tables packets outcomes brokers repeaters previous
            (packetTotalsFromHistory previousBuckets)))

def queryDashboardView (view : DashboardView) (maxBuckets : Nat)
    (comparisonWindow : Option Window) : Option DashboardData :=
  match view with
  | .overview =>
      (server.queryOverview tables window maxBuckets comparisonWindow).map .overview
  | .packets =>
      (server.queryPacketHistory tables window maxBuckets).map fun buckets =>
        .packets buckets (packetTypeTotalsFromHistory buckets)
  | .brokers => some (.brokers (server.queryDashboardBrokers tables window))
  | .bots =>
      some (.bots (tables.queryReplyOutcomeTotals window)
        (server.queryDashboardBotCommands tables window))
  | .repeaters => some (.repeaters (queryNodeTotals tables.nodes window repeaterType))

/-- The `totals` of `/api/metrics/packet-types`. -/
def handlePacketTypes : List (Text × Int) := tables.queryPacketTypeTotals window

/-- The `totals` of `/api/metrics/reply-queue`. -/
def handleReplyQueue : ReplyOutcomeTotals := tables.queryReplyOutcomeTotals window

/-- The `bots` of `/api/metrics/bots/commands`. -/
def handleBotCommands : List BotCommands :=
  server.botsConfig.map fun botConfig =>
    botCommands botConfig (tables.queryBotCommandCounts botConfig.name window)

/-- The `brokers` of `/api/metrics/brokers`. -/
def handleBrokerDeliveries : List BrokerDeliveries := server.queryDashboardBrokers tables window

end MetricsServer

end MeshcoreObserver
