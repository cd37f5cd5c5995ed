import MeshcoreObserver.Metrics.StoreVersions

/-!
# What the migrations keep

Each migration retains what the database says to the tables of the next version.
Those up to version 7 keep what the queries read as it is; the last one writes
the handler state of every reply as a JSON text.
-/

namespace MeshcoreObserver

open Sqlite JsonText

theorem eq_databaseOf {db : StoreDatabase} {version : Nat} {rows : StoreTable → List StoreRow}
    (userVersion : db.userVersion = version) (indexes : db.indexes = (schemaOf version).indexes)
    (tables : ∀ name, db.tables name = (databaseOf version rows).tables name) :
    db = databaseOf version rows := by
  cases db
  simp only at userVersion indexes tables
  subst userVersion indexes
  rw [databaseOf]
  congr 1
  funext name
  exact tables name

/-- The columns of a handler's state before the last migration. -/
def stateColumns : List StoreColumn :=
  [.query, .lookupOutcome, .name, .matchCount, .lastHeardAt, .nodePrefix, .repeaterCount]

def Agrees (old new : StoreRow) : Prop :=
  ∀ column ∈ replyColumns ++ stateColumns, new column = old column

/-- What the queries read is the same in two databases. -/
structure Retains (before after : StoreDatabase) : Prop where
  samples : samples after = samples before
  packetTypes : packetTypes after = packetTypes before
  replyOutcomes : replyOutcomes after = replyOutcomes before
  pending : List.Forall₂ Agrees (pendingRows before) (pendingRows after)

theorem Agrees.refl (row : StoreRow) : Agrees row row := fun _ _ => rfl

theorem agrees_refl (rows : List StoreRow) : List.Forall₂ Agrees rows rows :=
  List.forall₂_same.mpr fun row _ => Agrees.refl row

theorem Retains.refl (db : StoreDatabase) : Retains db db :=
  ⟨rfl, rfl, rfl, agrees_refl _⟩

theorem Retains.trans {first second third : StoreDatabase} (before : Retains first second)
    (after : Retains second third) : Retains first third where
  samples := after.samples.trans before.samples
  packetTypes := after.packetTypes.trans before.packetTypes
  replyOutcomes := after.replyOutcomes.trans before.replyOutcomes
  pending := by
    refine forall₂_comp ?_ before.pending after.pending
    intro old middle new earlier later column columnMem
    rw [later column columnMem, earlier column columnMem]

theorem admitted_at {schema : StoreSchema} {row : StoreRow}
    (admitted : ∀ column ∈ schema.columns, column.admits (row column.name)) (position : Nat)
    {column : Column StoreColumn} (found : schema.columns[position]? = some column) :
    column.admits (row column.name) :=
  admitted column (List.mem_of_getElem? found)

theorem admits_of_notNull {column : Column StoreColumn} {value : Value}
    (optional : column.notNull = false) (admitted : (notNull column).admits value) :
    column.admits value := by
  simp only [Column.admits, notNull, Bool.and_eq_true, optional, Bool.false_and, Bool.not_false]
    at admitted ⊢
  exact ⟨⟨admitted.1.1, trivial⟩, admitted.2⟩

theorem anyKey_keyedBy {columns : List (Column StoreColumn)}
    (others : ∀ column ∈ columns, column.name ≠ .id) :
    (Schema.keyedBy idColumn columns).AnyKey := by
  rintro key ⟨⟩ column columnMem same value
  rcases List.mem_cons.mp columnMem with rfl | other
  · rfl
  · exact absurd same (others column other)

theorem accepts_sentEventOf {row : StoreRow}
    (admitted : ∀ column ∈ botCommandEventsSchema.columns, column.admits (row column.name)) :
    botReplyEventsSchema.Accepts (sentEventOf row) where
  named := rfl
  admitted := by
    refine List.forall_iff_forall_mem.mp ?_
    exact ⟨rfl, admitted_at admitted 1 rfl, admitted_at admitted 2 rfl, admitted_at admitted 3 rfl,
      rfl, rfl, rfl, rfl⟩

theorem accepts_pendingReplyOf {row : StoreRow}
    (admitted : ∀ column ∈ replyQueueItemsSchema.columns, column.admits (row column.name)) :
    botRepliesSchema.Accepts (pendingReplyOf row) where
  named := rfl
  admitted := by
    refine List.forall_iff_forall_mem.mp ?_
    exact ⟨rfl, admitted_at admitted 1 rfl, admits_of_notNull rfl (admitted_at admitted 2 rfl),
      admitted_at admitted 3 rfl, admits_of_notNull rfl (admitted_at admitted 4 rfl),
      admits_of_notNull rfl (admitted_at admitted 5 rfl),
      admits_of_notNull rfl (admitted_at admitted 6 rfl),
      admits_of_notNull rfl (admitted_at admitted 7 rfl), admitted_at admitted 8 rfl,
      admitted_at admitted 9 rfl, admitted_at admitted 10 rfl, admitted_at admitted 11 rfl,
      admits_of_notNull rfl (admitted_at admitted 12 rfl),
      admits_of_notNull rfl (admitted_at admitted 13 rfl), rfl, rfl, rfl⟩

theorem isOneOf_iff {values : List String} {value : Value} :
    isOneOf values value = true ↔ ∃ allowed ∈ values, value = .text allowed.toList := by
  simp only [isOneOf, List.any_eq_true, decide_eq_true_eq]

theorem statuses_of_outcomes : ∀ outcome ∈ ["sent", "failed", "expired", "cancelled"],
    statusColumn.admits (.text outcome.toList) ∧ Value.text outcome.toList ≠ pendingStatus := by
  decide +kernel

/-- An outcome of a reply is one of its statuses, and not the one of a pending reply. -/
theorem status_of_outcome {value : Value}
    (admitted : (notNull (checked (isOneOf ["sent", "failed", "expired", "cancelled"])
      (textColumn .outcome))).admits value) :
    statusColumn.admits value ∧ value ≠ pendingStatus := by
  simp only [Column.admits, notNull, checked, Bool.and_eq_true, Bool.or_eq_true, Bool.not_eq_true',
    Bool.true_and, decide_eq_true_eq, decide_eq_false_iff_not, isOneOf_iff] at admitted
  rcases admitted with ⟨⟨_, present⟩, absent | ⟨outcome, outcomeMem, rfl⟩⟩
  · exact absurd absent present
  · exact statuses_of_outcomes outcome outcomeMem

theorem accepts_resolvedReplyOf {row : StoreRow}
    (admitted : ∀ column ∈ botReplyEventsSchema.columns, column.admits (row column.name)) :
    botRepliesSchema.Accepts (resolvedReplyOf row) where
  named := rfl
  admitted := by
    refine List.forall_iff_forall_mem.mp ?_
    exact ⟨rfl, admitted_at admitted 2 rfl, rfl, admitted_at admitted 3 rfl,
      admitted_at admitted 4 rfl, rfl, rfl, admitted_at admitted 5 rfl, rfl, rfl, rfl, rfl, rfl,
      rfl, (status_of_outcome (admitted_at admitted 6 rfl)).1,
      admits_of_notNull rfl (admitted_at admitted 1 rfl), admitted_at admitted 7 rfl⟩

variable {rows : StoreTable → List StoreRow}

/-- A migration with one table copied into another: what precedes, the copy, and the rest. -/
theorem migrate_insertSelect {migration : StoreMigration} {db begun : StoreDatabase}
    (before rest : List (Statement StoreColumn StoreTable StoreIndex))
    {target source : StoreTable} {select : StoreRow → Cells StoreColumn}
    {selected table inserted : Table StoreColumn}
    (split : migration.statements = before ++ .insertSelect target source select :: rest)
    (begins : db.execAll before = some begun) (read : begun.tables source = some selected)
    (written : begun.tables target = some table)
    (inserts : table.insertAll (selected.rows.map select) = some inserted) :
    migration.migrate db = ((begun.set target (some inserted)).execAll rest).map fun after =>
      { after with userVersion := migration.version } := by
  rw [Migration.migrate, split, Database.execAll_append begins, Database.execAll,
    Database.exec_insertSelect read written inserts, Option.bind_some]

theorem migrate2 (lawful : (databaseOf 1 rows).Lawful) :
    ∃ next, migration2.migrate (databaseOf 1 rows) = some (databaseOf 2 next) ∧
      Retains (databaseOf 1 rows) (databaseOf 2 next) := by
  have source := lawful .botCommandEvents ⟨botCommandEventsSchema, rows .botCommandEvents⟩ rfl
  rcases (Table.lawful_empty botReplyEventsSchema).insertSelect_unkeyed
    (anyKey_keyedBy (by decide))
    (fun row rowMem => accepts_sentEventOf (source.admitted row rowMem))
    (by rintro row key ⟨⟩; rfl) with ⟨events, inserted, same⟩
  let next : StoreTable → List StoreRow
    | .metricsSamples => ((rows .metricsSamples).map fun row =>
        row.rename .packetsPublished .packetsDecoded).map fun row =>
          row.set .replyQueueSize (.integer 0)
    | .metricsSampleBrokerDeliveries => []
    | .botReplyEvents => events
    | table => rows table
  refine ⟨next, ?_, ?_⟩
  · rw [migrate_insertSelect (migration2.statements.take 6) [.dropTable .botCommandEvents] rfl rfl
      rfl rfl inserted]
    refine congrArg some (eq_databaseOf rfl rfl fun name => ?_)
    cases name <;> rfl
  · refine ⟨?_, rfl, ?_, .nil⟩
    · change List.map _ (List.map _ (List.map _ (rows .metricsSamples))) = List.map _ _
      rw [List.map_map, List.map_map]
      rfl
    · change List.map _ events = List.map _ (rows .botCommandEvents)
      refine (map_eq_of_forall₂ ?_ same).symm
      rintro row event ⟨_, _, selects⟩
      rw [selects .botName (by rintro ⟨⟩), selects .outcome (by rintro ⟨⟩),
        selects .occurredAt (by rintro ⟨⟩)]
      rfl

theorem migrate3 (rows : StoreTable → List StoreRow) :
    ∃ next, migration3.migrate (databaseOf 2 rows) = some (databaseOf 3 next) ∧
      Retains (databaseOf 2 rows) (databaseOf 3 next) := by
  have ran : migration3.migrate (databaseOf 2 rows) =
      some (databaseOf 3 fun name => if name = .nodes then [] else rows name) := by
    refine congrArg some (eq_databaseOf rfl rfl fun name => ?_)
    cases name <;> rfl
  exact ⟨_, ran, rfl, rfl, rfl, .nil⟩

theorem migrate4 (rows : StoreTable → List StoreRow) :
    ∃ next, migration4.migrate (databaseOf 3 rows) = some (databaseOf 4 next) ∧
      Retains (databaseOf 3 rows) (databaseOf 4 next) := by
  have ran : migration4.migrate (databaseOf 3 rows) =
      some (databaseOf 4 fun name => if name = .replyQueueItems then [] else rows name) := by
    refine congrArg some (eq_databaseOf rfl rfl fun name => ?_)
    cases name <;> rfl
  exact ⟨_, ran, rfl, rfl, rfl, .nil⟩

theorem migrate5 (lawful : (databaseOf 4 rows).Lawful) :
    ∃ next, migration5.migrate (databaseOf 4 rows) = some (databaseOf 5 next) ∧
      Retains (databaseOf 4 rows) (databaseOf 5 next) := by
  have items := lawful .replyQueueItems ⟨replyQueueItemsSchema, rows .replyQueueItems⟩ rfl
  have events := lawful .botReplyEvents ⟨botReplyEventsSchema, rows .botReplyEvents⟩ rfl
  have anyKey : botRepliesSchema.AnyKey := anyKey_keyedBy (by decide)
  have empty := Table.lawful_empty botRepliesSchema
  rcases empty.insertSelect_unkeyed anyKey
    (fun row rowMem => accepts_pendingReplyOf (items.admitted row rowMem))
    (by rintro row key ⟨⟩; rfl) with ⟨queued, first, sameItems⟩
  rcases (empty.insertAll first).insertSelect_unkeyed anyKey
    (fun row rowMem => accepts_resolvedReplyOf (events.admitted row rowMem))
    (by rintro row key ⟨⟩; rfl) with ⟨resolved, second, sameEvents⟩
  have waiting : ∀ row ∈ queued, row .status = pendingStatus := by
    intro row rowMem
    rcases exists_of_forall₂ sameItems rowMem with ⟨item, _, _, _, selects⟩
    rw [selects .status (by rintro ⟨⟩)]
    rfl
  have settled : ∀ row ∈ resolved, row .status ≠ pendingStatus := by
    intro row rowMem
    rcases exists_of_forall₂ sameEvents rowMem with ⟨event, eventMem, _, _, selects⟩
    rw [selects .status (by rintro ⟨⟩)]
    exact (status_of_outcome (admitted_at (events.admitted event eventMem) 6 rfl)).2
  let next : StoreTable → List StoreRow
    | .botReplies => queued ++ resolved
    | table => rows table
  refine ⟨next, ?_, rfl, rfl, ?_, ?_⟩
  · rw [migrate_insertSelect (migration5.statements.take 4) (.insertSelect .botReplies
      .botReplyEvents resolvedReplyOf :: migration5.statements.drop 6) rfl rfl rfl rfl first,
      Database.execAll, Database.exec_insertSelect rfl rfl second]
    refine congrArg some (eq_databaseOf rfl rfl fun name => ?_)
    cases name <;> rfl
  · change List.map _ (List.filter _ (queued ++ resolved)) = List.map _ (rows .botReplyEvents)
    have none : queued.filter (fun row => row .status ≠ pendingStatus) = [] := by
      rw [List.filter_eq_nil_iff]
      intro row rowMem other
      exact of_decide_eq_true other (waiting row rowMem)
    have all : resolved.filter (fun row => row .status ≠ pendingStatus) = resolved := by
      rw [List.filter_eq_self]
      exact fun row rowMem => decide_eq_true (settled row rowMem)
    rw [List.filter_append, none, all, List.nil_append]
    refine (map_eq_of_forall₂ ?_ sameEvents).symm
    rintro event row ⟨_, _, selects⟩
    rw [selects .botName (by rintro ⟨⟩), selects .status (by rintro ⟨⟩),
      selects .resolvedAt (by rintro ⟨⟩)]
    rfl
  · change List.Forall₂ Agrees (rows .replyQueueItems) (List.filter _ (queued ++ resolved))
    have all : queued.filter (fun row => row .status = pendingStatus) = queued := by
      rw [List.filter_eq_self]
      exact fun row rowMem => decide_eq_true (waiting row rowMem)
    have none : resolved.filter (fun row => row .status = pendingStatus) = [] := by
      rw [List.filter_eq_nil_iff]
      intro row rowMem other
      exact settled row rowMem (of_decide_eq_true other)
    rw [List.filter_append, none, all, List.append_nil]
    refine sameItems.imp ?_
    rintro item row ⟨itemMem, _, selects⟩
    have absent := items.absent item itemMem
    refine List.forall_iff_forall_mem.mp ?_
    exact ⟨selects .botName (by rintro ⟨⟩), selects .channel (by rintro ⟨⟩),
      selects .trigger (by rintro ⟨⟩), selects .sender (by rintro ⟨⟩),
      selects .hopCount (by rintro ⟨⟩), selects .path (by rintro ⟨⟩),
      selects .hash (by rintro ⟨⟩), selects .enqueuedAt (by rintro ⟨⟩),
      selects .expiresAt (by rintro ⟨⟩), selects .query (by rintro ⟨⟩),
      selects .lookupOutcome (by rintro ⟨⟩), selects .name (by rintro ⟨⟩),
      selects .matchCount (by rintro ⟨⟩),
      (selects .lastHeardAt (by rintro ⟨⟩)).trans (absent .lastHeardAt rfl).symm,
      (selects .nodePrefix (by rintro ⟨⟩)).trans (absent .nodePrefix rfl).symm,
      (selects .repeaterCount (by rintro ⟨⟩)).trans (absent .repeaterCount rfl).symm⟩

theorem migrate6 (lawful : (databaseOf 5 rows).Lawful) :
    ∃ next, migration6.migrate (databaseOf 5 rows) = some (databaseOf 6 next) ∧
      Retains (databaseOf 5 rows) (databaseOf 6 next) := by
  have replies := lawful .botReplies ⟨botRepliesSchema, rows .botReplies⟩ rfl
  let widen : StoreRow → StoreRow := fun row =>
    ((row.set .lastHeardAt .null).set .nodePrefix .null).set .repeaterCount .null
  have ran : migration6.migrate (databaseOf 5 rows) =
      some (databaseOf 6 fun name =>
        if name = .botReplies then (rows .botReplies).map widen else rows name) := by
    refine congrArg some (eq_databaseOf rfl rfl fun name => ?_)
    cases name with
    | botReplies =>
        change some (Table.mk _ (List.map _ (List.map _ (List.map _ (rows .botReplies))))) =
          some (Table.mk _ (List.map widen (rows .botReplies)))
        rw [List.map_map, List.map_map]
        rfl
    | _ => rfl
  refine ⟨_, ran, rfl, rfl, ?_, ?_⟩
  · change List.map _ (List.filter _ (List.map widen (rows .botReplies))) =
      List.map _ (List.filter _ (rows .botReplies))
    rw [List.filter_map, List.map_map]
    rfl
  · change List.Forall₂ Agrees (List.filter _ (rows .botReplies))
      (List.filter _ (List.map widen (rows .botReplies)))
    rw [List.filter_map, List.forall₂_map_right_iff]
    refine List.forall₂_same.mpr fun row rowMem => ?_
    have present := (List.mem_filter.mp rowMem).1
    have absent := replies.absent row present
    refine List.forall_iff_forall_mem.mp ?_
    exact ⟨rfl, rfl, rfl, rfl, rfl, rfl, rfl, rfl, rfl, rfl, rfl, rfl, rfl,
      (absent .lastHeardAt rfl).symm, (absent .nodePrefix rfl).symm,
      (absent .repeaterCount rfl).symm⟩

theorem migrate7 (rows : StoreTable → List StoreRow) :
    ∃ next, migration7.migrate (databaseOf 6 rows) = some (databaseOf 7 next) ∧
      Retains (databaseOf 6 rows) (databaseOf 7 next) := by
  have ran : migration7.migrate (databaseOf 6 rows) =
      some (databaseOf 7 fun name =>
        if name = .floodAdvertState then
          [floodAdvertStateSchema.row [(.id, .integer 1), (.status, .text "idle".toList)]]
        else rows name) := by
    refine congrArg some (eq_databaseOf rfl rfl fun name => ?_)
    cases name <;> rfl
  exact ⟨_, ran, rfl, rfl, rfl, agrees_refl _⟩

/-- The table of replies before the last migration. -/
def botReplies7Schema : StoreSchema :=
  ((botRepliesSchema.add (integerColumn .lastHeardAt)).add (textColumn .nodePrefix)).add
    (integerColumn .repeaterCount)

/-- The types of the columns a handler's state is made of. -/
structure StateTypes (row : StoreRow) : Prop where
  query : Affinity.text.admits (row .query)
  name : Affinity.text.admits (row .name)
  matchCount : Affinity.integer.admits (row .matchCount)
  lastHeardAt : Affinity.integer.admits (row .lastHeardAt)
  nodePrefix : Affinity.text.admits (row .nodePrefix)
  repeaterCount : Affinity.integer.admits (row .repeaterCount)

theorem affinity_of_admits {column : Column StoreColumn} {value : Value}
    (admitted : column.admits value) : column.affinity.admits value := by
  simp only [Column.admits, Bool.and_eq_true] at admitted
  exact admitted.1.1

theorem stateTypes_of_admitted {row : StoreRow}
    (admitted : ∀ column ∈ botReplies7Schema.columns, column.admits (row column.name)) :
    StateTypes row where
  query := affinity_of_admits (admitted_at admitted 8 rfl)
  name := affinity_of_admits (admitted_at admitted 10 rfl)
  matchCount := affinity_of_admits (admitted_at admitted 11 rfl)
  lastHeardAt := affinity_of_admits (admitted_at admitted 17 rfl)
  nodePrefix := affinity_of_admits (admitted_at admitted 18 rfl)
  repeaterCount := affinity_of_admits (admitted_at admitted 19 rfl)

/-- A pending reply before and after the last migration. -/
structure Converts (old new : StoreRow) : Prop where
  columns : ∀ column ∈ replyColumns, new column = old column
  state : new .handlerStateJson = .text (handlerStateOf old).text
  types : StateTypes old

theorem jsonValid_text (value : Json) : jsonValid (.text value.text) = true := by
  rw [jsonValid, parse_text]
  rfl

theorem accepts_convertedReplyOf {row : StoreRow}
    (admitted : ∀ column ∈ botReplies7Schema.columns, column.admits (row column.name)) :
    botRepliesNewSchema.Accepts (convertedReplyOf row) where
  named := rfl
  admitted := by
    refine List.forall_iff_forall_mem.mp ?_
    exact ⟨admitted_at admitted 0 rfl, admitted_at admitted 1 rfl, admitted_at admitted 2 rfl,
      admitted_at admitted 3 rfl, admitted_at admitted 4 rfl, admitted_at admitted 5 rfl,
      admitted_at admitted 6 rfl, admitted_at admitted 7 rfl, jsonValid_text (handlerStateOf row),
      admitted_at admitted 12 rfl, admitted_at admitted 13 rfl, admitted_at admitted 14 rfl,
      admitted_at admitted 15 rfl, admitted_at admitted 16 rfl⟩

theorem migrate8 (lawful : (databaseOf 7 rows).Lawful) :
    ∃ next, migration8.migrate (databaseOf 7 rows) = some (databaseOf 8 next) ∧
      samples (databaseOf 8 next) = samples (databaseOf 7 rows) ∧
      packetTypes (databaseOf 8 next) = packetTypes (databaseOf 7 rows) ∧
      replyOutcomes (databaseOf 8 next) = replyOutcomes (databaseOf 7 rows) ∧
      List.Forall₂ Converts (pendingRows (databaseOf 7 rows))
        (pendingRows (databaseOf 8 next)) := by
  have replies := lawful .botReplies ⟨botReplies7Schema, rows .botReplies⟩ rfl
  let convert : StoreRow → StoreRow := fun row => botRepliesNewSchema.row (convertedReplyOf row)
  have inserted : ({ schema := botRepliesNewSchema, rows := [] } : Table StoreColumn).insertAll
      ((rows .botReplies).map convertedReplyOf) =
        some { schema := botRepliesNewSchema, rows := (rows .botReplies).map convert } := by
    refine (Table.insertAll_keyed ?_ ?_ ?_).trans ?_
    · intro cells cellsMem
      rcases List.mem_map.mp cellsMem with ⟨row, rowMem, rfl⟩
      exact accepts_convertedReplyOf (replies.admitted row rowMem)
    · rintro cells cellsMem key ⟨⟩
      rcases List.mem_map.mp cellsMem with ⟨row, rowMem, rfl⟩
      exact replies.keys .id rfl row rowMem
    · rintro key ⟨⟩
      rw [List.map_map]
      exact List.pairwise_map.mpr (replies.ascending .id rfl)
    · rw [List.map_map]
      rfl
  let next : StoreTable → List StoreRow
    | .botReplies => (rows .botReplies).map convert
    | table => rows table
  refine ⟨next, ?_, rfl, rfl, ?_, ?_⟩
  · rw [migrate_insertSelect (migration8.statements.take 1) (migration8.statements.drop 2) rfl rfl
      rfl rfl inserted]
    refine congrArg some (eq_databaseOf rfl rfl fun name => ?_)
    cases name <;> rfl
  · change List.map _ (List.filter _ (List.map convert (rows .botReplies))) =
      List.map _ (List.filter _ (rows .botReplies))
    rw [List.filter_map, List.map_map]
    rfl
  · change List.Forall₂ Converts (List.filter _ (rows .botReplies))
      (List.filter _ (List.map convert (rows .botReplies)))
    rw [List.filter_map, List.forall₂_map_right_iff]
    refine List.forall₂_same.mpr fun row rowMem => ?_
    have admitted := replies.admitted row (List.mem_filter.mp rowMem).1
    refine ⟨List.forall_iff_forall_mem.mp ?_, rfl, stateTypes_of_admitted admitted⟩
    exact ⟨rfl, rfl, rfl, rfl, rfl, rfl, rfl, rfl, rfl⟩

end MeshcoreObserver
