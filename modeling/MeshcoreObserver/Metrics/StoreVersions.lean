import MeshcoreObserver.Metrics.StoreMigrations
import Mathlib.Algebra.BigOperators.Group.List.Basic
import Mathlib.Data.List.Sort

/-!
# The versions of the metrics store

A database of a version has the tables its migrations make, with any lawful
rows. What it says is read by the queries of that version: the packet totals,
the replies with an outcome, and the pending replies, oldest first.
-/

namespace MeshcoreObserver

open Sqlite JsonText

/-- A new database of a version. -/
def schemaOf (version : Nat) : StoreDatabase :=
  (Migration.migrateAll (storeMigrations.take version) emptyDatabase).getD emptyDatabase

/-- A database of a version with these rows. -/
def databaseOf (version : Nat) (rows : StoreTable → List StoreRow) : StoreDatabase :=
  { userVersion := version
    tables := fun name =>
      ((schemaOf version).tables name).map fun table => { table with rows := rows name }
    indexes := (schemaOf version).indexes }

/-- What `lookup_outcome`, `match_count` and `repeater_count` may say. -/
structure LookupLaw (row : StoreRow) : Prop where
  outcome : row .lookupOutcome = .null ∨
    ∃ outcome ∈ lookupOutcomes, row .lookupOutcome = .text outcome
  matchCount : 0 ≤ (row .matchCount).toInt
  repeaterCount : 0 ≤ (row .repeaterCount).toInt

/-- What the code of a version can have written. -/
structure Written (version : Nat) (db : StoreDatabase) : Prop where
  rows : ∃ rows, db = databaseOf version rows
  lawful : db.Lawful
  queued : ∀ table ∈ db.tables .replyQueueItems, ∀ row ∈ table.rows, LookupLaw row
  replies : ∀ table ∈ db.tables .botReplies, ∀ row ∈ table.rows, LookupLaw row

def rowsOf (db : StoreDatabase) (name : StoreTable) : List StoreRow :=
  match db.tables name with
  | none => []
  | some table => table.rows

def inWindow (start finish : Int) : Value → Bool
  | .integer time => start ≤ time && time < finish
  | _ => false

structure SampledPackets where
  id : Value
  sampleAt : Value
  received : Value
  decoded : Value
  deriving DecidableEq, Repr

/-- Before version 2 the decoded packets were counted under another name. -/
def samples (db : StoreDatabase) : List SampledPackets :=
  (rowsOf db .metricsSamples).map fun row =>
    { id := row .id
      sampleAt := row .sampleAt
      received := row .packetsReceived
      decoded := if db.userVersion = 1 then row .packetsPublished else row .packetsDecoded }

structure PacketTypeCount where
  sampleId : Value
  bucket : Value
  count : Value
  deriving DecidableEq, Repr

def packetTypes (db : StoreDatabase) : List PacketTypeCount :=
  (rowsOf db .metricsSamplePacketTypes).map fun row =>
    { sampleId := row .sampleId, bucket := row .packetTypeBucket, count := row .count }

/-- `queryPacketTotals({ start, end })`: received and decoded. -/
def queryPacketTotals (db : StoreDatabase) (start finish : Int) : Int × Int :=
  let selected := (samples db).filter fun sample => inWindow start finish sample.sampleAt
  ((selected.map fun sample => sample.received.toInt).sum,
    (selected.map fun sample => sample.decoded.toInt).sum)

/-- `queryPacketTypeTotals({ start, end })`, for one bucket. -/
def queryPacketTypeTotal (db : StoreDatabase) (bucket : Value) (start finish : Int) : Int :=
  ((packetTypes db).map fun counted =>
    (((samples db).filter fun sample =>
      counted.bucket = bucket ∧ sample.id = counted.sampleId ∧
        inWindow start finish sample.sampleAt).map fun _ => counted.count.toInt).sum).sum

structure ReplyOutcome where
  botName : Value
  outcome : Value
  resolvedAt : Value
  deriving DecidableEq, Repr

def pendingStatus : Value := .text "pending".toList

/-- The replies with an outcome. Version 1 has a row for each reply that was sent. -/
def replyOutcomes (db : StoreDatabase) : List ReplyOutcome :=
  if db.userVersion = 1 then
    (rowsOf db .botCommandEvents).map fun row =>
      { botName := row .botName, outcome := .text "sent".toList, resolvedAt := row .occurredAt }
  else if db.userVersion ≤ 4 then
    (rowsOf db .botReplyEvents).map fun row =>
      { botName := row .botName, outcome := row .outcome, resolvedAt := row .occurredAt }
  else
    ((rowsOf db .botReplies).filter fun row => row .status ≠ pendingStatus).map fun row =>
      { botName := row .botName, outcome := row .status, resolvedAt := row .resolvedAt }

/-- `queryBotReplyOutcomeTotals({ start, end })`, for one bot and one outcome. -/
def queryBotReplyOutcomeTotal (db : StoreDatabase) (botName outcome : Value)
    (start finish : Int) : Nat :=
  (replyOutcomes db).countP fun reply =>
    reply.botName = botName ∧ reply.outcome = outcome ∧ inWindow start finish reply.resolvedAt

/-- The order of `enqueued_at`; null comes first. -/
def enqueuedBefore (first second : StoreRow) : Bool :=
  match first .enqueuedAt, second .enqueuedAt with
  | .null, _ => true
  | .integer earlier, .integer later => earlier ≤ later
  | _, _ => false

/-- The pending replies in ascending `id`. Before version 4 they were not kept. -/
def pendingRows (db : StoreDatabase) : List StoreRow :=
  if db.userVersion ≤ 4 then rowsOf db .replyQueueItems
  else (rowsOf db .botReplies).filter fun row => row .status = pendingStatus

/-- The pending replies, oldest first. -/
def pendingReplies (db : StoreDatabase) : List StoreRow :=
  (pendingRows db).insertionSort fun first second => enqueuedBefore first second

/-- The handler whose reply a row is. -/
def kindOf (row : StoreRow) : CommandKind :=
  if row .lookupOutcome ≠ .null then .lookup
  else if row .query ≠ .null then .stats
  else .exact

def textOf : Value → Option Text
  | .text text => some text
  | _ => none

/-- The query a row was queued with. A lookup without one has the empty query. -/
def queuedQuery (row : StoreRow) : Option Text :=
  if kindOf row = .lookup then some ((textOf (row .query)).getD []) else textOf (row .query)

/-- The state of a row is small enough to be restored. -/
def Restorable (row : StoreRow) : Prop :=
  (Text.utf8 (handlerStateOf row).text).length ≤ maxHandlerStateBytes

instance (row : StoreRow) : Decidable (Restorable row) := inferInstanceAs (Decidable (_ ≤ _))

def replyColumns : List StoreColumn :=
  [.botName, .channel, .trigger, .sender, .hopCount, .path, .hash, .enqueuedAt, .expiresAt]

/-- The state of the new row is restored, with the query of the old one. -/
def Restored (old new : StoreRow) : Prop :=
  ∃ data, restoreSerialized (kindOf old) (textOf (new .handlerStateJson)) = .ok data ∧
    queryOf data = queuedQuery old

/-- A pending reply of an old database as it stands in the new one. -/
structure CarriedOver (old new : StoreRow) : Prop where
  columns : ∀ column ∈ replyColumns, new column = old column
  restored : Restorable old → Restored old new
  refused : ¬ Restorable old →
    restoreSerialized (kindOf old) (textOf (new .handlerStateJson)) =
      .error "queued command handler state exceeds the maximum serialized size".toList

/-- The meaning of an old database in the new one. -/
structure Preserves (db opened : StoreDatabase) : Prop where
  replies : ∀ botName outcome start finish,
    queryBotReplyOutcomeTotal opened botName outcome start finish =
      queryBotReplyOutcomeTotal db botName outcome start finish
  packets : ∀ start finish,
    queryPacketTotals opened start finish = queryPacketTotals db start finish
  packetTypes : ∀ bucket start finish,
    queryPacketTypeTotal opened bucket start finish = queryPacketTypeTotal db bucket start finish
  pending : List.Forall₂ CarriedOver (pendingReplies db) (pendingReplies opened)

end MeshcoreObserver
