import MeshcoreObserver.Bots.HandlerStateCodec
import MeshcoreObserver.Sqlite.Migrations

/-!
# The migrations of the metrics store

`MIGRATIONS`, statement by statement, and `#runMigrations`. Keys and references
of tables into which no migration inserts are left out.
-/

namespace MeshcoreObserver

open Sqlite JsonText

inductive StoreTable where
  | metricsSamples
  | metricsSamplePacketTypes
  | botCommandEvents
  | metricsSampleBrokerDeliveries
  | botReplyEvents
  | nodes
  | replyQueueItems
  | botReplies
  | floodAdvertState
  | botRepliesNew
  deriving DecidableEq, Repr

inductive StoreColumn where
  | id | sampleAt | intervalMs | packetsReceived | packetsPublished | packetsDecoded
  | radioConnected | brokersConnected | brokersTotal | botsReady | botsTotal | replyQueueSize
  | sampleId | packetTypeBucket | count
  | occurredAt | botName | trigger | sender | hash | outcome | queuedMs
  | brokerId
  | publicKeyHex | name | type | firstHeardAt | lastHeardAt
  | channel | hopCount | path | query | lookupOutcome | matchCount | enqueuedAt | expiresAt
  | status | resolvedAt
  | nodePrefix | repeaterCount
  | requestedAt | attemptStartedAt | lastAttemptAt | lastSentAt | nextDueAt
  | handlerStateJson
  deriving DecidableEq, Repr

inductive StoreIndex where
  | metricsSamplesAt
  | botCommandEventsBotTime
  | botReplyEventsBotTime
  | botReplyEventsOutcomeTime
  | nodesFirstHeardAt
  | nodesLastHeardAt
  | replyQueueItemsEnqueuedAt
  | replyQueueItemsExpiresAt
  | botRepliesStatusEnqueued
  | botRepliesStatusResolved
  | botRepliesBotStatusResolved
  deriving DecidableEq, Repr

abbrev StoreDatabase := Database StoreColumn StoreTable StoreIndex
abbrev StoreRow := Row StoreColumn
abbrev StoreSchema := Schema StoreColumn
abbrev StoreMigration := Migration StoreColumn StoreTable StoreIndex

def integerColumn (column : StoreColumn) : Column StoreColumn := .plain column .integer

def textColumn (column : StoreColumn) : Column StoreColumn := .plain column .text

def notNull (column : Column StoreColumn) : Column StoreColumn := { column with notNull := true }

def isOneOf (values : List String) (value : Value) : Bool :=
  values.any fun allowed => value = .text allowed.toList

/-- `json_valid(value)`. -/
def jsonValid : Value → Bool
  | .text text => (parse text).isSome
  | _ => false

def checked (check : Value → Bool) (column : Column StoreColumn) : Column StoreColumn :=
  { column with check }

def idColumn : Column StoreColumn := integerColumn .id

def replyStatuses : List String := ["pending", "sent", "failed", "expired", "cancelled"]

def statusColumn : Column StoreColumn :=
  notNull (checked (isOneOf replyStatuses) (textColumn .status))

def metricsSamplesSchema : StoreSchema :=
  .keyedBy idColumn
    [notNull (integerColumn .sampleAt), notNull (integerColumn .intervalMs),
      notNull (integerColumn .packetsReceived), notNull (integerColumn .packetsPublished),
      notNull (integerColumn .radioConnected), notNull (integerColumn .brokersConnected),
      notNull (integerColumn .brokersTotal), notNull (integerColumn .botsReady),
      notNull (integerColumn .botsTotal)]

def metricsSamplePacketTypesSchema : StoreSchema :=
  .keyless
    [notNull (integerColumn .sampleId), notNull (textColumn .packetTypeBucket),
      notNull (integerColumn .count)]

def botCommandEventsSchema : StoreSchema :=
  .keyedBy idColumn
    [notNull (integerColumn .occurredAt), notNull (textColumn .botName),
      notNull (textColumn .trigger)]

def replyQueueSizeColumn : Column StoreColumn :=
  { notNull (integerColumn .replyQueueSize) with default := .integer 0 }

def metricsSampleBrokerDeliveriesSchema : StoreSchema :=
  .keyless
    [notNull (integerColumn .sampleId), notNull (textColumn .brokerId),
      notNull (checked (isOneOf ["sent", "skipped", "failed"]) (textColumn .outcome)),
      notNull (integerColumn .count)]

def botReplyEventsSchema : StoreSchema :=
  .keyedBy idColumn
    [notNull (integerColumn .occurredAt), notNull (textColumn .botName),
      notNull (textColumn .trigger), textColumn .sender, textColumn .hash,
      notNull (checked (isOneOf ["sent", "failed", "expired", "cancelled"]) (textColumn .outcome)),
      integerColumn .queuedMs]

def nodesSchema : StoreSchema :=
  .keyless
    [textColumn .publicKeyHex, notNull (textColumn .name), textColumn .type,
      notNull (integerColumn .firstHeardAt), notNull (integerColumn .lastHeardAt)]

def replyQueueItemsSchema : StoreSchema :=
  .keyedBy idColumn
    [notNull (textColumn .botName), notNull (textColumn .channel), notNull (textColumn .trigger),
      notNull (textColumn .sender), notNull (integerColumn .hopCount), notNull (textColumn .path),
      notNull (textColumn .hash), textColumn .query, textColumn .lookupOutcome, textColumn .name,
      integerColumn .matchCount, notNull (integerColumn .enqueuedAt),
      notNull (integerColumn .expiresAt)]

def botRepliesSchema : StoreSchema :=
  .keyedBy idColumn
    [notNull (textColumn .botName), textColumn .channel, notNull (textColumn .trigger),
      textColumn .sender, integerColumn .hopCount, textColumn .path, textColumn .hash,
      textColumn .query, textColumn .lookupOutcome, textColumn .name, integerColumn .matchCount,
      integerColumn .enqueuedAt, integerColumn .expiresAt, statusColumn, integerColumn .resolvedAt,
      integerColumn .queuedMs]

def floodAdvertStateSchema : StoreSchema :=
  .keyedBy (checked (fun value => value = .integer 1) idColumn)
    [notNull (checked (isOneOf ["idle", "pending", "sending"]) (textColumn .status)),
      integerColumn .requestedAt, integerColumn .attemptStartedAt, integerColumn .lastAttemptAt,
      integerColumn .lastSentAt, integerColumn .nextDueAt]

def botRepliesNewSchema : StoreSchema :=
  .keyedBy idColumn
    [notNull (textColumn .botName), textColumn .channel, notNull (textColumn .trigger),
      textColumn .sender, integerColumn .hopCount, textColumn .path, textColumn .hash,
      notNull (checked jsonValid (textColumn .handlerStateJson)), integerColumn .enqueuedAt,
      integerColumn .expiresAt, statusColumn, integerColumn .resolvedAt, integerColumn .queuedMs]

def carry (columns : List StoreColumn) (row : StoreRow) : Cells StoreColumn :=
  columns.map fun column => (column, row column)

def sentEventOf (row : StoreRow) : Cells StoreColumn :=
  carry [.occurredAt, .botName, .trigger] row ++
    [(.sender, .null), (.hash, .null), (.outcome, .text "sent".toList), (.queuedMs, .null)]

def pendingReplyOf (row : StoreRow) : Cells StoreColumn :=
  carry [.botName, .channel, .trigger, .sender, .hopCount, .path, .hash, .query, .lookupOutcome,
    .name, .matchCount, .enqueuedAt, .expiresAt] row ++ [(.status, .text "pending".toList)]

def resolvedReplyOf (row : StoreRow) : Cells StoreColumn :=
  carry [.botName, .trigger, .sender, .hash] row ++
    [(.status, row .outcome), (.resolvedAt, row .occurredAt), (.queuedMs, row .queuedMs)]

/-- A value among the arguments of `json_object`. -/
def jsonOf : Value → Json
  | .null => .null
  | .integer value => .number value 0
  | .text text => .string text

def jsonObject : List (String × Json) → Members
  | [] => .nil
  | (name, value) :: members => .cons name.toList value (jsonObject members)

/-- `COALESCE(value, '')`. -/
def orEmpty (value : Value) : Value := if value = .null then .text [] else value

/-- The `CASE` expression of the last migration. -/
def handlerStateOf (row : StoreRow) : Json :=
  if row .lookupOutcome ≠ .null then
    .object (jsonObject
      [("kind", .string "lookup".toList), ("version", .number 1 0),
        ("data", .object (jsonObject
          [("query", jsonOf (orEmpty (row .query))), ("outcome", jsonOf (row .lookupOutcome)),
            ("name", jsonOf (row .name)), ("matchCount", jsonOf (row .matchCount)),
            ("lastHeardAt", jsonOf (row .lastHeardAt)), ("nodePrefix", jsonOf (row .nodePrefix)),
            ("repeaterCount", jsonOf (row .repeaterCount))]))])
  else if row .query ≠ .null then
    .object (jsonObject
      [("kind", .string "stats".toList), ("version", .number 1 0),
        ("data", .object (jsonObject [("query", jsonOf (row .query))]))])
  else
    .object (jsonObject
      [("kind", .string "exact".toList), ("version", .number 1 0), ("data", .object .nil)])

def convertedReplyOf (row : StoreRow) : Cells StoreColumn :=
  carry [.id, .botName, .channel, .trigger, .sender, .hopCount, .path, .hash] row ++
    (.handlerStateJson, .text (handlerStateOf row).text) ::
      carry [.enqueuedAt, .expiresAt, .status, .resolvedAt, .queuedMs] row

def migration1 : StoreMigration where
  version := 1
  statements :=
    [.createTable .metricsSamples metricsSamplesSchema,
      .createIndex .metricsSamplesAt .metricsSamples [.sampleAt],
      .createTable .metricsSamplePacketTypes metricsSamplePacketTypesSchema,
      .createTable .botCommandEvents botCommandEventsSchema,
      .createIndex .botCommandEventsBotTime .botCommandEvents [.botName, .occurredAt]]

def migration2 : StoreMigration where
  version := 2
  statements :=
    [.renameColumn .metricsSamples .packetsPublished .packetsDecoded,
      .addColumn .metricsSamples replyQueueSizeColumn,
      .createTable .metricsSampleBrokerDeliveries metricsSampleBrokerDeliveriesSchema,
      .createTable .botReplyEvents botReplyEventsSchema,
      .createIndex .botReplyEventsBotTime .botReplyEvents [.botName, .occurredAt],
      .createIndex .botReplyEventsOutcomeTime .botReplyEvents [.outcome, .occurredAt],
      .insertSelect .botReplyEvents .botCommandEvents sentEventOf,
      .dropTable .botCommandEvents]

def migration3 : StoreMigration where
  version := 3
  statements :=
    [.createTable .nodes nodesSchema,
      .createIndex .nodesFirstHeardAt .nodes [.firstHeardAt],
      .createIndex .nodesLastHeardAt .nodes [.lastHeardAt]]

def migration4 : StoreMigration where
  version := 4
  statements :=
    [.createTable .replyQueueItems replyQueueItemsSchema,
      .createIndex .replyQueueItemsEnqueuedAt .replyQueueItems [.enqueuedAt],
      .createIndex .replyQueueItemsExpiresAt .replyQueueItems [.expiresAt]]

def botRepliesIndexes : List (Statement StoreColumn StoreTable StoreIndex) :=
  [.createIndex .botRepliesStatusEnqueued .botReplies [.status, .enqueuedAt],
    .createIndex .botRepliesStatusResolved .botReplies [.status, .resolvedAt],
    .createIndex .botRepliesBotStatusResolved .botReplies [.botName, .status, .resolvedAt]]

def migration5 : StoreMigration where
  version := 5
  statements :=
    .createTable .botReplies botRepliesSchema :: botRepliesIndexes ++
      [.insertSelect .botReplies .replyQueueItems pendingReplyOf,
        .insertSelect .botReplies .botReplyEvents resolvedReplyOf,
        .dropTable .replyQueueItems,
        .dropTable .botReplyEvents]

def migration6 : StoreMigration where
  version := 6
  statements :=
    [.addColumn .botReplies (integerColumn .lastHeardAt),
      .addColumn .botReplies (textColumn .nodePrefix),
      .addColumn .botReplies (integerColumn .repeaterCount)]

def migration7 : StoreMigration where
  version := 7
  statements :=
    [.createTable .floodAdvertState floodAdvertStateSchema,
      .insert .floodAdvertState [(.id, .integer 1), (.status, .text "idle".toList)]]

def migration8 : StoreMigration where
  version := 8
  statements :=
    [.createTable .botRepliesNew botRepliesNewSchema,
      .insertSelect .botRepliesNew .botReplies convertedReplyOf,
      .dropTable .botReplies,
      .renameTable .botRepliesNew .botReplies] ++ botRepliesIndexes

def storeMigrations : List StoreMigration :=
  [migration1, migration2, migration3, migration4, migration5, migration6, migration7, migration8]

/-- The file before the store has opened it. -/
def emptyDatabase : StoreDatabase := { userVersion := 0, tables := fun _ => none, indexes := [] }

/-- `#runMigrations()`: the database it leaves, and whether it throws. -/
def runMigrations (faults : Nat → Nat → Fault) (db : StoreDatabase) : StoreDatabase × Bool :=
  let ran := (Connection.idle db).runMigrations faults (Migration.pending storeMigrations db)
  (ran.1.committed, ran.2)

end MeshcoreObserver
