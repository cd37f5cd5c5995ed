import MeshcoreObserver.Json.JsonValues
import MeshcoreObserver.Metrics.SampleRows
import MeshcoreObserver.Transition.Memo
import MeshcoreObserver.Web.MetricsServer

/-!
# The cards of the dashboard

The tables and charts which the page renders again only when `JSON.stringify` of
their data has changed. The two packet charts are created when the packets are first
shown, and the chart of a bot when its card comes near the viewport, so that data is
rendered before there is a chart for it.

Colors are left out, and so are the tiles that are written at every response. Times
are formatted for the locale of the browser.
-/

namespace MeshcoreObserver

open Counting JsonText Transition

/-- An entry of `snapshot.mqtt`, in JSON. -/
structure BrokerStatus where
  connected : Bool
  lastConnectedAt : Option Text
  deliveries : Deliveries
  deriving DecidableEq, Repr

structure BotStatus where
  enabled : Bool
  ready : Bool
  deriving DecidableEq, Repr

structure LiveSnapshot where
  mqtt : List (Text × BrokerStatus)
  bots : List (Text × BotStatus)
  deriving DecidableEq, Repr

structure ChartBucket where
  bucketStart : Int
  bucketWidthMs : Int
  packetsReceived : Int
  packetsDecoded : Int
  countsByType : List (Text × Int)
  deriving DecidableEq, Repr

/-- `commands` and `totalReplies` of a bot. -/
structure BotCounts where
  commands : List CommandCount
  totalReplies : Int
  deriving DecidableEq, Repr

/-- `result.data` of a response, as far as cards are rendered from it. -/
inductive PageData where
  | overview
  | packets (buckets : List ChartBucket) (totals : List (Text × Int))
  | brokers (brokers : List BrokerDeliveries)
  | bots (bots : List (Text × BotCounts))
  | repeaters
  deriving DecidableEq, Repr

def PageData.view : PageData → DashboardView
  | .overview => .overview
  | .packets _ _ => .packets
  | .brokers _ => .brokers
  | .bots _ => .bots
  | .repeaters => .repeaters

def integer (value : Int) : Json := .number value 0

def optionalText : Option Text → Json
  | none => .null
  | some text => .string text

def Deliveries.json (deliveries : Deliveries) : Json :=
  objectOf integer
    [("sent".toList, deliveries.sent), ("skipped".toList, deliveries.skipped),
      ("failed".toList, deliveries.failed)]

def BrokerStatus.json (state : BrokerStatus) : Json :=
  .object
    (membersOf
      [("connected".toList, .bool state.connected),
        ("lastConnectedAt".toList, optionalText state.lastConnectedAt),
        ("deliveries".toList, state.deliveries.json)])

def ChartBucket.json (bucket : ChartBucket) : Json :=
  .object
    (membersOf
      [("bucketStart".toList, integer bucket.bucketStart),
        ("bucketWidthMs".toList, integer bucket.bucketWidthMs),
        ("packetsReceived".toList, integer bucket.packetsReceived),
        ("packetsDecoded".toList, integer bucket.packetsDecoded),
        ("countsByType".toList, objectOf integer bucket.countsByType)])

def typeTotalJson (total : Text × Int) : Json :=
  .object
    (membersOf [("packetTypeBucket".toList, .string total.1), ("total".toList, integer total.2)])

def BrokerDeliveries.json (broker : BrokerDeliveries) : Json :=
  .object
    (membersOf
      [("brokerId".toList, .string broker.brokerId), ("sent".toList, integer broker.counts.sent),
        ("skipped".toList, integer broker.counts.skipped),
        ("failed".toList, integer broker.counts.failed)])

def CommandCount.json (row : CommandCount) : Json :=
  .object (membersOf [("trigger".toList, .string row.trigger), ("count".toList, integer row.count)])

def BotCounts.json (counts : BotCounts) : Json :=
  .object
    (membersOf
      [("commands".toList, arrayOf CommandCount.json counts.commands),
        ("totalReplies".toList, integer counts.totalReplies)])

theorem integer_injective : Function.Injective integer := by
  intro first second same
  simpa [integer] using same

theorem optionalText_injective : Function.Injective optionalText := by
  intro first second same
  cases first with
  | none =>
      cases second with
      | none => rfl
      | some text => cases same
  | some text =>
      cases second with
      | none => cases same
      | some other => simpa [optionalText] using same

theorem Deliveries.json_injective : Function.Injective Deliveries.json := by
  intro first second same
  have entries := objectOf_injective integer_injective same
  cases first
  cases second
  simp_all

theorem BrokerStatus.json_injective : Function.Injective BrokerStatus.json := by
  intro first second same
  simp only [json, Json.object.injEq] at same
  have members := membersOf_injective same
  simp only [List.cons.injEq, Prod.mk.injEq, true_and, and_true, Json.bool.injEq] at members
  cases first
  cases second
  rw [BrokerStatus.mk.injEq]
  exact ⟨members.1, optionalText_injective members.2.1, Deliveries.json_injective members.2.2⟩

theorem ChartBucket.json_injective : Function.Injective ChartBucket.json := by
  intro first second same
  simp only [json, Json.object.injEq] at same
  have members := membersOf_injective same
  simp only [List.cons.injEq, Prod.mk.injEq, true_and, and_true, integer_injective.eq_iff,
    (objectOf_injective integer_injective).eq_iff] at members
  cases first
  cases second
  simp_all

theorem typeTotalJson_injective : Function.Injective typeTotalJson := by
  intro first second same
  simp only [typeTotalJson, Json.object.injEq] at same
  have members := membersOf_injective same
  simp only [List.cons.injEq, Prod.mk.injEq, true_and, and_true, Json.string.injEq,
    integer_injective.eq_iff] at members
  exact Prod.ext members.1 members.2

theorem BrokerDeliveries.json_injective : Function.Injective BrokerDeliveries.json := by
  intro first second same
  simp only [json, Json.object.injEq] at same
  have members := membersOf_injective same
  simp only [List.cons.injEq, Prod.mk.injEq, true_and, and_true, Json.string.injEq,
    integer_injective.eq_iff] at members
  rcases first with ⟨brokerId, sent, skipped, failed⟩
  rcases second with ⟨otherId, otherSent, otherSkipped, otherFailed⟩
  simp_all

theorem CommandCount.json_injective : Function.Injective CommandCount.json := by
  intro first second same
  simp only [json, Json.object.injEq] at same
  have members := membersOf_injective same
  simp only [List.cons.injEq, Prod.mk.injEq, true_and, and_true, Json.string.injEq,
    integer_injective.eq_iff] at members
  cases first
  cases second
  simp_all

theorem BotCounts.json_injective : Function.Injective BotCounts.json := by
  intro first second same
  simp only [json, Json.object.injEq] at same
  have members := membersOf_injective same
  simp only [List.cons.injEq, Prod.mk.injEq, true_and, and_true, integer_injective.eq_iff,
    (arrayOf_injective CommandCount.json_injective).eq_iff] at members
  cases first
  cases second
  simp_all

/-- `toLocaleString`, `toLocaleTimeString` and `toLocaleDateString`, as the cards call them. -/
structure Formats where
  timestamp : Text → Text
  timeOfDay : Int → Text
  dayOfYear : Int → Text

def formatTimestamp (formats : Formats) : Option Text → Text
  | none => "never".toList
  | some value => if value = [] then "never".toList else formats.timestamp value

def formatBucketLabel (formats : Formats) (bucketStartMs bucketWidthMs : Int) : Text :=
  if bucketWidthMs < 86400000 then formats.timeOfDay bucketStartMs
  else formats.dayOfYear bucketStartMs

/-- `Math.round(value / unit)`. -/
def roundedQuotient (value unit : Int) : Int := (2 * value + unit) / (2 * unit)

def formatBucketWidthLabel (widthMs : Int) : Text :=
  if widthMs < 60000 then Text.ofInt (roundedQuotient widthMs 1000) ++ ['s']
  else if widthMs < 3600000 then Text.ofInt (roundedQuotient widthMs 60000) ++ ['m']
  else if widthMs < 86400000 then Text.ofInt (roundedQuotient widthMs 3600000) ++ ['h']
  else Text.ofInt (roundedQuotient widthMs 86400000) ++ ['d']

def chartNoteForBuckets : List ChartBucket → Text
  | [] => "No data recorded for this range yet.".toList
  | bucket :: buckets =>
      "Bucketed into ".toList ++ formatBucketWidthLabel bucket.bucketWidthMs ++
        " windows (".toList ++ Text.ofInt (bucket :: buckets).length ++
        " buckets), computed on the server.".toList

structure Cell where
  text : Text
  className : Text
  colSpan : Nat
  deriving DecidableEq, Repr

def Cell.plain (text : Text) : Cell := ⟨text, [], 1⟩

def brokerStatusRow (formats : Formats) (entry : Text × BrokerStatus) : List Cell :=
  [.plain entry.1,
    if entry.2.connected then ⟨"Connected".toList, "ok".toList, 1⟩
    else ⟨"Disconnected".toList, "bad".toList, 1⟩,
    .plain (formatTimestamp formats entry.2.lastConnectedAt)]

def brokerStatusRows (formats : Formats) (mqtt : List (Text × BrokerStatus)) : List (List Cell) :=
  if mqtt = [] then [[⟨"No MQTT brokers are configured.".toList, [], 3⟩]]
  else mqtt.map (brokerStatusRow formats)

def deliveriesRow (broker : BrokerDeliveries) : List Cell :=
  [.plain broker.brokerId, .plain (Text.ofInt broker.counts.sent),
    .plain (Text.ofInt broker.counts.skipped), .plain (Text.ofInt broker.counts.failed)]

def deliveriesRows (brokers : List BrokerDeliveries) : List (List Cell) :=
  if brokers = [] then [[⟨"No MQTT broker delivery data is configured.".toList, [], 4⟩]]
  else brokers.map deliveriesRow

def brokerStatusRenderer (formats : Formats) :
    Renderer (List (Text × BrokerStatus)) Text (List (List Cell)) where
  signature mqtt := (objectOf BrokerStatus.json mqtt).text
  render mqtt _ := brokerStatusRows formats mqtt
  injective := text_injective.comp (objectOf_injective BrokerStatus.json_injective)
  again _ _ := rfl

def deliveriesRenderer : Renderer (List BrokerDeliveries) Text (List (List Cell)) where
  signature brokers := (arrayOf BrokerDeliveries.json brokers).text
  render brokers _ := deliveriesRows brokers
  injective := text_injective.comp (arrayOf_injective BrokerDeliveries.json_injective)
  again _ _ := rfl

/-- The data of the line chart. -/
structure HistoryChart where
  labels : List Text
  receivedData : List Int
  typeSeriesData : List (List Int)
  deriving DecidableEq, Repr

def bucketKeys : List Text := packetTypeBuckets.map fun bucket => bucket.1.key

def PacketTypeBucket.label : PacketTypeBucket → Text
  | .advert => "Advert".toList
  | .txtMsg => "Text message".toList
  | .grpTxt => "Group text".toList
  | .ack => "Ack".toList
  | .path => "Path".toList
  | .trace => "Trace".toList
  | .grpData => "Group data".toList
  | .other => "Other".toList

def buildHistoryChartData (formats : Formats) (buckets : List ChartBucket) : HistoryChart :=
  { labels := buckets.map fun bucket =>
      formatBucketLabel formats bucket.bucketStart bucket.bucketWidthMs
    receivedData := buckets.map ChartBucket.packetsReceived
    typeSeriesData := bucketKeys.map fun key =>
      buckets.map fun bucket => (find? key bucket.countsByType).getD 0 }

structure HistoryView where
  chart : Option HistoryChart
  note : Text
  summary : Text
  deriving DecidableEq, Repr

/-- What `renderChart` writes, once there is a chart. -/
def fillHistory (formats : Formats) (buckets : List ChartBucket) : HistoryView :=
  { chart := some (buildHistoryChartData formats buckets)
    note := chartNoteForBuckets buckets
    summary :=
      "Packets received: ".toList ++ Text.ofInt (buckets.map ChartBucket.packetsReceived).sum ++
        "; packets decoded: ".toList ++ Text.ofInt (buckets.map ChartBucket.packetsDecoded).sum ++
        ". Exact packet-type totals are listed in the table below.".toList }

def historyRenderer (formats : Formats) : Renderer (List ChartBucket) Text HistoryView where
  signature buckets := (arrayOf ChartBucket.json buckets).text
  render buckets _ := fillHistory formats buckets
  injective := text_injective.comp (arrayOf_injective ChartBucket.json_injective)
  again _ _ := rfl

def buildPacketTypeTotals (totals : List (Text × Int)) : List Int :=
  let totalsByKey := mapOf totals
  bucketKeys.map fun key => (find? key totalsByKey).getD 0

structure PacketTypesView where
  rows : List (List Cell)
  summary : Text
  pie : Option (List Int)
  deriving DecidableEq, Repr

def packetTypeRows (counts : List Int) : List (List Cell) :=
  List.zipWith
    (fun label count => [.plain label, ⟨Text.ofInt count, "count".toList, 1⟩])
    (packetTypeBuckets.map fun bucket => bucket.1.label) counts

def packetTypesSummary (counts : List Int) : Text :=
  "Packet type distribution across ".toList ++ Text.ofInt counts.length ++
    " categories; ".toList ++ Text.ofInt counts.sum ++
    " decoded packets. Exact per-type counts are listed in the adjacent table.".toList

def fillPacketTypes (totals : List (Text × Int)) (view : PacketTypesView) : PacketTypesView :=
  let counts := buildPacketTypeTotals totals
  { rows := packetTypeRows counts
    summary := packetTypesSummary counts
    pie := view.pie.map fun _ => counts }

def packetTypesRenderer : Renderer (List (Text × Int)) Text PacketTypesView where
  signature totals := (arrayOf typeTotalJson totals).text
  render := fillPacketTypes
  injective := text_injective.comp (arrayOf_injective typeTotalJson_injective)
  again totals view := by
    simp only [fillPacketTypes, Option.map_map]
    rfl

/-- `botChartObserver` observes the card while `observed`. -/
structure BotCard where
  rows : List (List Cell)
  total : Text
  emptyNote : Text
  emptyNoteHidden : Bool
  chartSummary : Text
  chartData : List CommandCount
  chart : Option (List CommandCount)
  statusBadge : Option Cell
  observed : Bool
  deriving DecidableEq, Repr

namespace BotCard

/-- `buildBotCommandBlock`. -/
def build : BotCard :=
  { rows := []
    total := []
    emptyNote := []
    emptyNoteHidden := true
    chartSummary := "Command reply distribution; exact counts are in the adjacent table.".toList
    chartData := []
    chart := none
    statusBadge := none
    observed := false }

def commandRow (row : CommandCount) : List Cell :=
  [.plain row.trigger, ⟨Text.ofInt row.count, "count".toList, 1⟩]

def summary (counts : BotCounts) : Text :=
  if counts.totalReplies = 0 then
    "No command replies in this range; exact counts are in the adjacent table.".toList
  else
    "Total replies: ".toList ++ Text.ofInt counts.totalReplies ++ " across ".toList ++
      Text.ofInt (counts.commands.filter fun row => 0 < row.count).length ++
      " commands; exact counts are in the adjacent table.".toList

/-- The part of `renderBotCommands` behind the signature. -/
def fill (counts : BotCounts) (card : BotCard) : BotCard :=
  { card with
    rows := counts.commands.map commandRow
    total := "Total replies: ".toList ++ Text.ofInt counts.totalReplies
    emptyNote := "No commands recorded in this range.".toList
    emptyNoteHidden := counts.totalReplies ≠ 0
    chartSummary := summary counts
    chartData := counts.commands
    chart := card.chart.map fun _ => counts.commands }

def initializeBotChart (card : BotCard) : BotCard :=
  match card.chart with
  | some _ => card
  | none => { card with chart := some card.chartData }

def statusLabel (status : BotStatus) : Text :=
  if !status.enabled then "Disabled".toList
  else if status.ready then "Ready".toList
  else "Not ready".toList

def statusCell (status : BotStatus) : Cell :=
  ⟨statusLabel status,
    if status.enabled && status.ready then "status-badge ok".toList else "status-badge bad".toList,
    1⟩

def applyBadge (status : Option BotStatus) (card : BotCard) : BotCard :=
  match status with
  | none => card
  | some status => { card with statusBadge := some (statusCell status) }

end BotCard

def botCardRenderer : Renderer BotCounts Text BotCard where
  signature counts := counts.json.text
  render := BotCard.fill
  injective := text_injective.comp BotCounts.json_injective
  again counts card := by
    simp only [BotCard.fill, Option.map_map]
    rfl

end MeshcoreObserver
