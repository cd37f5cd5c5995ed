import MeshcoreObserver.Bots.ChannelBot
import MeshcoreObserver.Metrics.BotReplies
import MeshcoreObserver.Metrics.MetricsSample
import MeshcoreObserver.Metrics.MetricsWindow
import MeshcoreObserver.Nodes.NodeTable
import MeshcoreObserver.Radio.FloodAdvertScheduler
import MeshcoreObserver.Sqlite.GroupBy
import Mathlib.Data.Rat.Floor

/-!
# Queries of the metrics store

The tables of the store with their rows, and the queries over a window: the
totals of packets, types, deliveries and replies, and the packet history in
buckets. Arithmetic is exact, and a bound number is an SQL real.

`countsByType` of a bucket is a plain object: assigning to `__proto__` makes no
key of it.
-/

namespace MeshcoreObserver

open Counting Sqlite

structure SampleRow extends SampleColumns where
  id : Nat
  deriving DecidableEq, Repr

structure PacketTypeRow where
  sampleId : Nat
  packetTypeBucket : Text
  count : Int
  deriving DecidableEq, Repr

structure BrokerDeliveryRow where
  sampleId : Nat
  brokerId : Text
  outcome : Text
  count : Int
  deriving DecidableEq, Repr

structure StoreTables where
  samples : List SampleRow
  packetTypes : List PacketTypeRow
  brokerDeliveries : List BrokerDeliveryRow
  botReplies : BotReplies QueuedReply
  nodes : NodeTable
  floodAdvertState : FloodAdvertState
  deriving DecidableEq, Repr

def orderBy {Row : Type} (before : Row → Row → Bool) (rows : List Row) : List Row :=
  rows.insertionSort fun first second => before first second = true

/-- The order of texts as SQLite collates them. -/
def textBefore : Text → Text → Bool
  | [], _ => true
  | _ :: _, [] => false
  | first :: firsts, second :: seconds =>
      first.toNat < second.toNat || (first = second && textBefore firsts seconds)

/-- `ORDER BY first, second`. -/
def pairBefore {Value : Type} (first second : (Text × Text) × Value) : Bool :=
  (first.1.1 ≠ second.1.1 && textBefore first.1.1 second.1.1) ||
    (first.1.1 = second.1.1 && textBefore first.1.2 second.1.2)

/-- `ORDER BY total DESC`. -/
def totalAfter {Key : Type} (first second : Key × Int) : Bool := second.2 ≤ first.2

/-- `SELECT key, COUNT(*) … GROUP BY key`. -/
def countBy {Key Row : Type} [DecidableEq Key] (key : Row → Key) (rows : List Row) :
    List (Key × Int) :=
  sumBy key (fun _ => 1) rows

/-- `CAST(value AS INTEGER)`. -/
def castToInteger (value : ℚ) : Int := if 0 ≤ value then ⌊value⌋ else ⌈value⌉

/-- The samples with the rows of another table that refer to them. -/
def joinSamples {Row : Type} (sampleId : Row → Nat) (samples : List SampleRow) (rows : List Row) :
    List (SampleRow × Row) :=
  samples.flatMap fun sample =>
    (rows.filter fun row => sampleId row = sample.id).map fun row => (sample, row)

def bucketWidthLadderMs : List ℚ :=
  [60000, 300000, 900000, 3600000, 10800000, 21600000, 43200000, 86400000, 604800000, 2592000000]

def resolveBucketWidthMs (rangeMs : ℚ) (maxBuckets : Nat) (sampleIntervalMs : ℚ) : ℚ :=
  let safeRangeMs := max 0 rangeMs
  let idealWidth := safeRangeMs / max 1 (maxBuckets : ℚ)
  let rungs := bucketWidthLadderMs.filter fun rung => sampleIntervalMs < rung
  let ladder := sampleIntervalMs :: rungs
  match ladder.find? fun rung => idealWidth ≤ rung with
  | some rung => rung
  | none =>
      let largestRung := rungs.getLast?.getD sampleIntervalMs
      ⌈idealWidth / largestRung⌉ * largestRung

structure PacketBucket where
  bucketStart : ℚ
  bucketWidthMs : ℚ
  packetsReceived : Int
  packetsDecoded : Int
  countsByType : List (Text × Int)
  deriving DecidableEq

/-- `countsByType[key] = total`. -/
def setCount (key : Text) (total : Int) (countsByType : List (Text × Int)) : List (Text × Int) :=
  if key = protoKey then countsByType else update key (fun _ => total) countsByType

structure PacketTotals where
  received : Int
  decoded : Int
  deriving DecidableEq, Repr

def packetTotals (samples : List SampleRow) : PacketTotals where
  received := (samples.map fun sample => sample.packetsReceived).sum
  decoded := (samples.map fun sample => sample.packetsDecoded).sum

namespace StoreTables

/-- `WHERE sample_at >= ? AND sample_at < ?`. -/
def samplesIn (tables : StoreTables) (window : Window) : List SampleRow :=
  tables.samples.filter fun sample => window.contains sample.sampleAt

def packetTypesIn (tables : StoreTables) (window : Window) : List (SampleRow × PacketTypeRow) :=
  joinSamples PacketTypeRow.sampleId (tables.samplesIn window) tables.packetTypes

end StoreTables

def bucketIdx (start bucketWidthMs : ℚ) (sample : SampleRow) : Int :=
  castToInteger ((sample.sampleAt - start) / bucketWidthMs)

def totalsRows (start bucketWidthMs : ℚ) (samples : List SampleRow) : List (Int × PacketTotals) :=
  orderBy (fun first second => decide (first.1 ≤ second.1))
    ((groupBy (bucketIdx start bucketWidthMs) samples).map fun group =>
      (group.1, packetTotals group.2))

def typeRows (start bucketWidthMs : ℚ) (rows : List (SampleRow × PacketTypeRow)) :
    List ((Int × Text) × Int) :=
  orderBy (fun first second => decide (first.1.1 ≤ second.1.1))
    (sumBy (fun row => (bucketIdx start bucketWidthMs row.1, row.2.packetTypeBucket))
      (fun row => row.2.count) rows)

def newBucket (start bucketWidthMs : ℚ) (row : Int × PacketTotals) : PacketBucket :=
  { bucketStart := start + row.1 * bucketWidthMs
    bucketWidthMs
    packetsReceived := row.2.received
    packetsDecoded := row.2.decoded
    countsByType := [] }

def PacketBucket.setType (bucket : PacketBucket) (row : (Int × Text) × Int) : PacketBucket :=
  { bucket with countsByType := setCount row.1.2 row.2 bucket.countsByType }

/-- One round of the second loop, which throws where the map has no bucket. -/
def addTypeRow (bucketsByIdx : List (Int × PacketBucket)) (row : (Int × Text) × Int) :
    Option (List (Int × PacketBucket)) :=
  (find? row.1.1 bucketsByIdx).map fun bucket =>
    update row.1.1 (fun _ => bucket.setType row) bucketsByIdx

namespace StoreTables

/-- `none` where it throws. -/
def queryPacketHistory (tables : StoreTables) (window : Window) (maxBuckets : Nat)
    (sampleIntervalMs : ℚ) : Option (List PacketBucket) :=
  let bucketWidthMs := resolveBucketWidthMs (window.finish - window.start) maxBuckets
    sampleIntervalMs
  let totals := totalsRows window.start bucketWidthMs (tables.samplesIn window)
  let types := typeRows window.start bucketWidthMs (tables.packetTypesIn window)
  let bucketsByIdx := totals.foldl
    (fun buckets row => update row.1 (fun _ => newBucket window.start bucketWidthMs row) buckets)
    []
  (types.foldlM addTypeRow bucketsByIdx).map fun buckets =>
    orderBy (fun first second => decide (first.bucketStart ≤ second.bucketStart))
      (buckets.map Prod.snd)

def queryPacketTypeTotals (tables : StoreTables) (window : Window) : List (Text × Int) :=
  orderBy totalAfter
    (sumBy (fun row => row.2.packetTypeBucket) (fun row => row.2.count)
      (tables.packetTypesIn window))

def queryPacketTotals (tables : StoreTables) (window : Window) : PacketTotals :=
  packetTotals (tables.samplesIn window)

def queryBrokerDeliveryTotals (tables : StoreTables) (window : Window) :
    List ((Text × Text) × Int) :=
  orderBy pairBefore
    (sumBy (fun row => (row.2.brokerId, row.2.outcome)) (fun row => row.2.count)
      (joinSamples BrokerDeliveryRow.sampleId (tables.samplesIn window) tables.brokerDeliveries))

end StoreTables

def ReplyStatus.name : ReplyStatus → Text
  | .pending => ['p', 'e', 'n', 'd', 'i', 'n', 'g']
  | .sent => ['s', 'e', 'n', 't']
  | .failed => ['f', 'a', 'i', 'l', 'e', 'd']
  | .expired => ['e', 'x', 'p', 'i', 'r', 'e', 'd']
  | .cancelled => ['c', 'a', 'n', 'c', 'e', 'l', 'l', 'e', 'd']

/-- `resolved_at >= ? AND resolved_at < ?`, which is not true of a reply without one. -/
def ReplyRow.resolvedIn (window : Window) (row : ReplyRow QueuedReply) : Bool :=
  row.resolvedAt.any fun resolvedAt => window.contains resolvedAt

structure ReplyOutcomeTotals where
  sent : Int
  failed : Int
  expired : Int
  cancelled : Int
  deriving DecidableEq, Repr

/-- `totals[outcome] = total`. No row of the query is pending. -/
def ReplyOutcomeTotals.set (totals : ReplyOutcomeTotals) :
    ReplyStatus × Int → ReplyOutcomeTotals
  | (.sent, total) => { totals with sent := total }
  | (.failed, total) => { totals with failed := total }
  | (.expired, total) => { totals with expired := total }
  | (.cancelled, total) => { totals with cancelled := total }
  | (.pending, _) => totals

namespace StoreTables

def sentIn (tables : StoreTables) (window : Window) : BotReplies QueuedReply :=
  tables.botReplies.filter fun row => row.status = .sent && row.resolvedIn window

def resolvedRepliesIn (tables : StoreTables) (window : Window) : BotReplies QueuedReply :=
  tables.botReplies.filter fun row => row.status ≠ .pending && row.resolvedIn window

def queryBotCommandCounts (tables : StoreTables) (botName : Text) (window : Window) :
    List (Text × Int) :=
  orderBy totalAfter
    (countBy (fun row => row.item.trigger)
      ((tables.sentIn window).filter fun row => row.item.botName = botName))

def queryBotCommandCountsByBot (tables : StoreTables) (window : Window) :
    List ((Text × Text) × Int) :=
  orderBy pairBefore
    (countBy (fun row => (row.item.botName, row.item.trigger)) (tables.sentIn window))

def queryReplyOutcomeTotals (tables : StoreTables) (window : Window) : ReplyOutcomeTotals :=
  (countBy ReplyRow.status (tables.resolvedRepliesIn window)).foldl ReplyOutcomeTotals.set
    { sent := 0, failed := 0, expired := 0, cancelled := 0 }

def queryBotReplyOutcomeTotals (tables : StoreTables) (window : Window) :
    List ((Text × Text) × Int) :=
  orderBy pairBefore
    (countBy (fun row => (row.item.botName, row.status.name)) (tables.resolvedRepliesIn window))

end StoreTables

end MeshcoreObserver
