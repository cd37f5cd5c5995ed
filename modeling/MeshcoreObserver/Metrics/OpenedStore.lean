import MeshcoreObserver.Metrics.MigratedStore

/-!
# Opening an old metrics store

The state that the last migration writes is one of the handler whose reply the
row is, and satisfies its schema, so that it is restored unless it is too large.
The migrations from any version lead through the databases of each later one. An
open that is interrupted commits whole migrations, and the next open continues
after them.
-/

namespace MeshcoreObserver

open Sqlite JsonText

/-- The data of the state that the last migration writes. -/
def handlerDataOf (row : StoreRow) : Json :=
  match kindOf row with
  | .lookup =>
      .object (jsonObject
        [("query", jsonOf (orEmpty (row .query))), ("outcome", jsonOf (row .lookupOutcome)),
          ("name", jsonOf (row .name)), ("matchCount", jsonOf (row .matchCount)),
          ("lastHeardAt", jsonOf (row .lastHeardAt)), ("nodePrefix", jsonOf (row .nodePrefix)),
          ("repeaterCount", jsonOf (row .repeaterCount))])
  | .stats => .object (jsonObject [("query", jsonOf (row .query))])
  | .exact => .object .nil

theorem kind_cases (row : StoreRow) :
    (row .lookupOutcome ≠ .null ∧ kindOf row = .lookup) ∨
      (row .lookupOutcome = .null ∧ row .query ≠ .null ∧ kindOf row = .stats) ∨
        (row .lookupOutcome = .null ∧ row .query = .null ∧ kindOf row = .exact) := by
  rw [kindOf]
  split
  · rename_i resolved
    exact .inl ⟨resolved, rfl⟩
  · rename_i unresolved
    have outcome := not_not.mp unresolved
    split
    · rename_i asked
      exact .inr (.inl ⟨outcome, asked, rfl⟩)
    · rename_i unasked
      exact .inr (.inr ⟨outcome, not_not.mp unasked, rfl⟩)

theorem handlerStateOf_eq (row : StoreRow) :
    handlerStateOf row = stateJson (kindOf row) (handlerDataOf row) := by
  rw [handlerStateOf, handlerDataOf]
  rcases kind_cases row with ⟨resolved, kind⟩ | ⟨outcome, asked, kind⟩ | ⟨outcome, query, kind⟩
  · rw [kind, if_pos resolved]
    rfl
  · rw [kind, if_neg (not_not.mpr outcome), if_pos asked]
    rfl
  · rw [kind, if_neg (not_not.mpr outcome), if_neg (not_not.mpr query)]
    rfl

theorem isString_orNull {value : Value} (typed : Affinity.text.admits value) :
    orNull isString (jsonOf value) = true := by
  rcases null_or_text typed with rfl | ⟨text, rfl⟩
  · rfl
  · rfl

theorem isString_orEmpty {value : Value} (typed : Affinity.text.admits value) :
    isString (jsonOf (orEmpty value)) = true := by
  rcases null_or_text typed with rfl | ⟨text, rfl⟩
  · rfl
  · rfl

theorem isInteger_orNull {value : Value} (typed : Affinity.integer.admits value) :
    orNull isInteger (jsonOf value) = true := by
  rcases null_or_integer typed with rfl | ⟨number, rfl⟩
  · rfl
  · rfl

theorem isCount_orNull {value : Value} (typed : Affinity.integer.admits value)
    (counts : 0 ≤ value.toInt) : orNull isCount (jsonOf value) = true := by
  rcases null_or_integer typed with rfl | ⟨number, rfl⟩
  · rfl
  · have natural : decide (0 ≤ number) = true := decide_eq_true counts
    exact natural

theorem isOutcome {row : StoreRow} (law : LookupLaw row) (resolved : row .lookupOutcome ≠ .null) :
    (lookupOutcomes.any fun outcome => jsonOf (row .lookupOutcome) = .string outcome) = true := by
  rcases law.outcome with absent | ⟨outcome, outcomeMem, same⟩
  · exact absurd absent resolved
  · rw [same]
    exact List.any_eq_true.mpr ⟨outcome, outcomeMem, decide_eq_true rfl⟩

theorem dataSchema_handlerDataOf {row : StoreRow} (law : LookupLaw row) (types : StateTypes row) :
    dataSchema (kindOf row) (handlerDataOf row) = true := by
  rw [handlerDataOf]
  rcases kind_cases row with ⟨resolved, kind⟩ | ⟨_, asked, kind⟩ | ⟨_, _, kind⟩
  · rw [kind, dataSchema, Bool.or_eq_true]
    right
    change (isString (jsonOf (orEmpty (row .query))) &&
      ((lookupOutcomes.any fun outcome => jsonOf (row .lookupOutcome) = .string outcome) &&
        (orNull isString (jsonOf (row .name)) &&
          (orNull isCount (jsonOf (row .matchCount)) &&
            (orNull isInteger (jsonOf (row .lastHeardAt)) &&
              (orNull isString (jsonOf (row .nodePrefix)) &&
                (orNull isCount (jsonOf (row .repeaterCount)) && true))))))) = true
    rw [isString_orEmpty types.query, isOutcome law resolved, isString_orNull types.name,
      isCount_orNull types.matchCount law.matchCount, isInteger_orNull types.lastHeardAt,
      isString_orNull types.nodePrefix, isCount_orNull types.repeaterCount law.repeaterCount]
    rfl
  · rw [kind]
    rcases null_or_text types.query with unasked | ⟨query, text⟩
    · exact absurd unasked asked
    · rw [text]
      rfl
  · rw [kind]
    rfl

theorem queryOf_handlerDataOf {row : StoreRow} (types : StateTypes row) :
    queryOf (handlerDataOf row) = queuedQuery row := by
  rw [handlerDataOf, queuedQuery]
  rcases kind_cases row with ⟨_, kind⟩ | ⟨_, asked, kind⟩ | ⟨_, unasked, kind⟩
  · rw [kind, if_pos rfl]
    rcases null_or_text types.query with unasked | ⟨query, text⟩
    · rw [unasked]
      rfl
    · rw [text]
      rfl
  · rw [kind, if_neg (by rintro ⟨⟩)]
    rcases null_or_text types.query with unasked | ⟨query, text⟩
    · exact absurd unasked asked
    · rw [text]
      rfl
  · rw [kind, unasked, if_neg (by rintro ⟨⟩)]
    rfl

variable {first old new : StoreRow}

theorem Agrees.handlerStateOf (agrees : Agrees first old) :
    handlerStateOf old = handlerStateOf first := by
  have query : old .query = first .query := agrees .query (by decide)
  have outcome : old .lookupOutcome = first .lookupOutcome := agrees .lookupOutcome (by decide)
  have name : old .name = first .name := agrees .name (by decide)
  have matchCount : old .matchCount = first .matchCount := agrees .matchCount (by decide)
  have lastHeardAt : old .lastHeardAt = first .lastHeardAt := agrees .lastHeardAt (by decide)
  have nodePrefix : old .nodePrefix = first .nodePrefix := agrees .nodePrefix (by decide)
  have repeaterCount : old .repeaterCount = first .repeaterCount :=
    agrees .repeaterCount (by decide)
  simp only [MeshcoreObserver.handlerStateOf, query, outcome, name, matchCount, lastHeardAt,
    nodePrefix, repeaterCount]

theorem Agrees.stateTypes (agrees : Agrees first old) (types : StateTypes old) :
    StateTypes first where
  query := agrees .query (by decide) ▸ types.query
  name := agrees .name (by decide) ▸ types.name
  matchCount := agrees .matchCount (by decide) ▸ types.matchCount
  lastHeardAt := agrees .lastHeardAt (by decide) ▸ types.lastHeardAt
  nodePrefix := agrees .nodePrefix (by decide) ▸ types.nodePrefix
  repeaterCount := agrees .repeaterCount (by decide) ▸ types.repeaterCount

theorem Agrees.converts (agrees : Agrees first old) (converts : Converts old new) :
    Converts first new where
  columns := by
    intro column columnMem
    rw [converts.columns column columnMem, agrees column (List.mem_append_left _ columnMem)]
  state := by rw [converts.state, agrees.handlerStateOf]
  types := agrees.stateTypes converts.types

theorem Converts.restores (converts : Converts old new) (law : LookupLaw old) :
    restoreSerialized (kindOf old) (textOf (new .handlerStateJson)) =
      if maxHandlerStateBytes < (Text.utf8 (handlerStateOf old).text).length then
        .error "queued command handler state exceeds the maximum serialized size".toList
      else .ok (handlerDataOf old) := by
  rw [converts.state, textOf, handlerStateOf_eq, restoreSerialized_stateJson]
  simp only [dataSchema_handlerDataOf law converts.types, and_self, if_true]

theorem Converts.carriedOver (converts : Converts old new) (law : LookupLaw old) :
    CarriedOver old new where
  columns := converts.columns
  restored := by
    intro small
    refine ⟨handlerDataOf old, ?_, queryOf_handlerDataOf converts.types⟩
    rw [converts.restores law, if_neg (Nat.not_lt_of_le small)]
  refused := by
    intro large
    rw [converts.restores law, if_pos (Nat.lt_of_not_le large)]

theorem Converts.enqueuedBefore {other another : StoreRow} (converts : Converts old new)
    (converted : Converts other another) :
    enqueuedBefore old other = enqueuedBefore new another := by
  rw [MeshcoreObserver.enqueuedBefore, MeshcoreObserver.enqueuedBefore,
    converts.columns .enqueuedAt (by decide), converted.columns .enqueuedAt (by decide)]

variable {version : Nat} {rows : StoreTable → List StoreRow}

theorem migrate_next (oldest : 1 ≤ version) (older : version < 7)
    (lawful : (databaseOf version rows).Lawful) :
    ∃ migration next, storeMigrations.drop version =
        migration :: storeMigrations.drop (version + 1) ∧
      migration.migrate (databaseOf version rows) = some (databaseOf (version + 1) next) ∧
      Retains (databaseOf version rows) (databaseOf (version + 1) next) := by
  have versions : version = 1 ∨ version = 2 ∨ version = 3 ∨ version = 4 ∨ version = 5 ∨
      version = 6 := by omega
  rcases versions with rfl | rfl | rfl | rfl | rfl | rfl
  · exact ⟨migration2, (migrate2 lawful).imp fun _ migrated => ⟨rfl, migrated⟩⟩
  · exact ⟨migration3, (migrate3 rows).imp fun _ migrated => ⟨rfl, migrated⟩⟩
  · exact ⟨migration4, (migrate4 rows).imp fun _ migrated => ⟨rfl, migrated⟩⟩
  · exact ⟨migration5, (migrate5 lawful).imp fun _ migrated => ⟨rfl, migrated⟩⟩
  · exact ⟨migration6, (migrate6 lawful).imp fun _ migrated => ⟨rfl, migrated⟩⟩
  · exact ⟨migration7, (migrate7 rows).imp fun _ migrated => ⟨rfl, migrated⟩⟩

/-- The migrations up to version 7, by induction on how many there are. -/
theorem migrate_to7 {steps : Nat} (oldest : 1 ≤ version) (between : version + steps = 7)
    (lawful : (databaseOf version rows).Lawful) :
    ∃ next, (databaseOf 7 next).Lawful ∧ Retains (databaseOf version rows) (databaseOf 7 next) ∧
      Migration.migrateAll (storeMigrations.drop version) (databaseOf version rows) =
        migration8.migrate (databaseOf 7 next) := by
  induction steps generalizing version rows with
  | zero =>
      cases between
      refine ⟨rows, lawful, Retains.refl _, ?_⟩
      have last : storeMigrations.drop 7 = [migration8] := rfl
      rw [last, Migration.migrateAll]
      exact Option.bind_fun_some _
  | succ steps ih =>
      rcases migrate_next oldest (by omega) lawful with ⟨migration, middle, split, migrated, kept⟩
      rcases ih (Nat.le_succ_of_le oldest) (by omega) (Migration.lawful_migrate lawful migrated)
        with ⟨next, stillLawful, retains, same⟩
      refine ⟨next, stillLawful, kept.trans retains, ?_⟩
      rw [split, Migration.migrateAll, migrated, Option.bind_some, same]

theorem pending_databaseOf (oldest : 1 ≤ version) (newest : version ≤ 7) :
    Migration.pending storeMigrations (databaseOf version rows) = storeMigrations.drop version := by
  have versions : version = 1 ∨ version = 2 ∨ version = 3 ∨ version = 4 ∨ version = 5 ∨
      version = 6 ∨ version = 7 := by omega
  rcases versions with rfl | rfl | rfl | rfl | rfl | rfl | rfl <;> rfl

theorem length_le_utf8 (text : Text) : text.length ≤ text.utf8.length := by
  refine length_le_flatMap ?_ text
  intro char
  rw [String.utf8EncodeChar]
  repeat' split
  all_goals exact Nat.succ_pos _

theorem handlerDataOf_query {row : StoreRow} {query : Text} (asked : row .query = .text query) :
    ∃ members, handlerDataOf row = .object (.cons "query".toList (.string query) members) := by
  rw [handlerDataOf]
  rcases kind_cases row with ⟨_, kind⟩ | ⟨_, _, kind⟩ | ⟨_, unasked, _⟩
  · rw [kind, asked]
    exact ⟨_, rfl⟩
  · rw [kind, asked]
    exact ⟨_, rfl⟩
  · rw [asked] at unasked
    cases unasked

/-- A state is larger than the query in it. -/
theorem not_restorable_of_query {row : StoreRow} {query : Text} (asked : row .query = .text query)
    (long : maxHandlerStateBytes < query.length) : ¬ Restorable row := by
  rcases handlerDataOf_query asked with ⟨members, data⟩
  have quoted : query.length ≤ (Json.string query).text.length := length_le_quote query
  have inData : query.length ≤ (handlerDataOf row).text.length := by
    rw [data]
    exact quoted.trans ((length_value_le _ _ _).trans (length_members_le_object _))
  have inState : query.length ≤ (handlerStateOf row).text.length := by
    rw [handlerStateOf_eq, stateJson]
    refine inData.trans (le_trans ?_ (length_members_le_object _))
    exact (length_value_le _ _ _).trans
      ((length_members_le _ _ _).trans (length_members_le _ _ _))
  have bytes := length_le_utf8 (handlerStateOf row).text
  intro small
  rw [Restorable] at small
  omega

/-- An open that is interrupted commits whole migrations, and the next continues after them. -/
structure Stops (faults : Nat → Nat → Fault) (db opened : StoreDatabase) : Prop where
  committed :
    Migration.migrateAll (Migration.completed faults (Migration.pending storeMigrations db)) db =
      some (runMigrations faults db).1
  continues :
    Migration.completed faults (Migration.pending storeMigrations db) ++
        Migration.pending storeMigrations (runMigrations faults db).1 =
      Migration.pending storeMigrations db
  finished : (runMigrations faults db).2 = false → (runMigrations faults db).1 = opened
  reopens : runMigrations (fun _ _ => .returns) (runMigrations faults db).1 = (opened, false)

theorem ascending_storeMigrations :
    storeMigrations.Pairwise fun first second => first.version < second.version := by
  decide

theorem runMigrations_of_migrateAll {db opened : StoreDatabase}
    (migrated : Migration.migrateAll (Migration.pending storeMigrations db) db = some opened) :
    runMigrations (fun _ _ => .returns) db = (opened, false) := by
  rcases Connection.runMigrations_of_migrateAll (fun _ _ => .returns) migrated with
    ⟨led, returned⟩
  rw [Migration.completed_returns, migrated, Option.some.injEq] at led
  rw [runMigrations, ← led, returned.mpr (Migration.completed_returns _)]

theorem stops_of_migrateAll {db opened : StoreDatabase}
    (migrated : Migration.migrateAll (Migration.pending storeMigrations db) db = some opened)
    (faults : Nat → Nat → Fault) : Stops faults db opened := by
  rcases Connection.runMigrations_of_migrateAll faults migrated with ⟨led, returned⟩
  have split := List.takeWhile_append_dropWhile
    (p := fun migration => Migration.undisturbed (faults migration.version) migration)
    (l := Migration.pending storeMigrations db)
  have still := Migration.pending_of_migrateAll ascending_storeMigrations split.symm led
  have resumed := Connection.resumes ascending_storeMigrations [faults] db
  refine ⟨led, ?_, ?_, ?_⟩
  · rw [runMigrations, still]
    exact split
  · intro finished
    rw [returned.mp finished, migrated, Option.some.injEq] at led
    exact led.symm
  · exact runMigrations_of_migrateAll (resumed.trans migrated)

theorem preserves_of_retains {db middle opened : StoreDatabase} (retains : Retains db middle)
    (samplesSame : samples opened = samples middle)
    (packetTypesSame : packetTypes opened = packetTypes middle)
    (outcomesSame : replyOutcomes opened = replyOutcomes middle)
    (converts : List.Forall₂ Converts (pendingRows middle) (pendingRows opened))
    (law : ∀ row ∈ pendingRows db, LookupLaw row) : Preserves db opened where
  replies := by
    intro botName outcome start finish
    rw [queryBotReplyOutcomeTotal, queryBotReplyOutcomeTotal, outcomesSame, retains.replyOutcomes]
  packets := by
    intro start finish
    rw [queryPacketTotals, queryPacketTotals, samplesSame, retains.samples]
  packetTypes := by
    intro bucket start finish
    rw [queryPacketTypeTotal, queryPacketTypeTotal, samplesSame, retains.samples, packetTypesSame,
      retains.packetTypes]
  pending := by
    have whole : List.Forall₂ Converts (pendingRows db) (pendingRows opened) :=
      forall₂_comp (fun _ _ _ agrees => agrees.converts) retains.pending converts
    have sorted : List.Forall₂ Converts (pendingReplies db) (pendingReplies opened) := by
      refine forall₂_insertionSort ?_ whole
      intro old other new another converts converted
      rw [converts.enqueuedBefore converted]
    refine (forall₂_mem sorted).imp ?_
    rintro old new ⟨oldMem, _, converts⟩
    exact converts.carriedOver (law old ((List.perm_insertionSort _ _).mem_iff.mp oldMem))

theorem Written.law {db : StoreDatabase} (written : Written version db) :
    ∀ row ∈ pendingRows db, LookupLaw row := by
  intro row rowMem
  have inTable : ∀ name, row ∈ rowsOf db name → ∃ table ∈ db.tables name, row ∈ table.rows := by
    intro name present
    rw [rowsOf] at present
    cases found : db.tables name with
    | none =>
        rw [found] at present
        cases present
    | some table =>
        rw [found] at present
        exact ⟨table, rfl, present⟩
  rw [pendingRows] at rowMem
  split at rowMem
  · rcases inTable .replyQueueItems rowMem with ⟨table, tableMem, rowIn⟩
    exact written.queued table tableMem row rowIn
  · rcases inTable .botReplies (List.mem_filter.mp rowMem).1 with ⟨table, tableMem, rowIn⟩
    exact written.replies table tableMem row rowIn

/-- What an old database is migrated to. -/
theorem migrated_of_written {db : StoreDatabase} (oldest : 1 ≤ version) (newest : version ≤ 7)
    (written : Written version db) :
    ∃ opened, Migration.migrateAll (Migration.pending storeMigrations db) db = some opened ∧
      opened.userVersion = 8 ∧ Preserves db opened := by
  rcases written.rows with ⟨rows, rfl⟩
  rcases migrate_to7 oldest (Nat.add_sub_of_le newest) written.lawful with
    ⟨seventh, lawful, retains, same⟩
  rcases migrate8 lawful with
    ⟨next, migrated, samplesSame, packetTypesSame, outcomesSame, converts⟩
  refine ⟨databaseOf 8 next, ?_, rfl, ?_⟩
  · rw [pending_databaseOf oldest newest, same, migrated]
  · exact preserves_of_retains retains samplesSame packetTypesSame outcomesSame converts written.law

/-- An old database is opened as one of version 8 that says the same, however often the migrations
are interrupted. -/
theorem opened_of_written {db : StoreDatabase} (oldest : 1 ≤ version) (newest : version ≤ 7)
    (written : Written version db) :
    ∃ opened, runMigrations (fun _ _ => .returns) db = (opened, false) ∧ opened.userVersion = 8 ∧
      Preserves db opened ∧
      ∀ opens faults, Stops faults (Connection.reopened storeMigrations opens db) opened := by
  rcases migrated_of_written oldest newest written with ⟨opened, migrated, current, preserves⟩
  refine ⟨opened, runMigrations_of_migrateAll migrated, current, preserves, ?_⟩
  intro opens faults
  have resumed := Connection.resumes ascending_storeMigrations opens db
  exact stops_of_migrateAll (resumed.trans migrated) faults

theorem lawful_schemaOf (version : Nat) : (schemaOf version).Lawful := by
  have empty : emptyDatabase.Lawful := by
    rintro name table ⟨⟩
  rw [schemaOf]
  cases migrated : Migration.migrateAll (storeMigrations.take version) emptyDatabase with
  | none => exact empty
  | some db => exact Migration.lawful_migrateAll empty migrated

/-- A pending reply of version 4, as it is inserted. -/
def queueItemCells (query : Text) (lookupOutcome : Value) : Cells StoreColumn :=
  [(.id, .integer 1), (.botName, .text "node-lookup".toList), (.channel, .text "#bots".toList),
    (.trigger, .text "node".toList), (.sender, .text "Alice".toList), (.hopCount, .integer 2),
    (.path, .text "a1,b2".toList), (.hash, .text "0f".toList), (.query, .text query),
    (.lookupOutcome, lookupOutcome), (.enqueuedAt, .integer 1000), (.expiresAt, .integer 61000)]

def queueItemRow (query : Text) (lookupOutcome : Value) : StoreRow :=
  replyQueueItemsSchema.row (queueItemCells query lookupOutcome)

/-- A database of version 4 with one pending reply. -/
def queuedStore (query : Text) (lookupOutcome : Value) : StoreDatabase :=
  databaseOf 4 fun
    | .replyQueueItems => [queueItemRow query lookupOutcome]
    | _ => []

theorem written_queuedStore (query : Text) {lookupOutcome : Value}
    (known : lookupOutcome = .null ∨ lookupOutcome = .text "found".toList) :
    Written 4 (queuedStore query lookupOutcome) where
  rows := ⟨_, rfl⟩
  lawful := by
    have inserted : (schemaOf 4).execAll
        [.insert .replyQueueItems (queueItemCells query lookupOutcome)] =
          some (queuedStore query lookupOutcome) := by
      rcases known with rfl | rfl
      · refine congrArg some (eq_databaseOf rfl rfl fun name => ?_)
        cases name <;> rfl
      · refine congrArg some (eq_databaseOf rfl rfl fun name => ?_)
        cases name <;> rfl
    exact (lawful_schemaOf 4).execAll inserted
  queued := by
    rintro table ⟨⟩ row rowMem
    cases List.mem_singleton.mp rowMem
    refine ⟨?_, le_rfl, le_rfl⟩
    rcases known with rfl | rfl
    · exact .inl rfl
    · exact .inr ⟨_, List.mem_cons_self, rfl⟩
  replies := by
    rintro table ⟨⟩

theorem opened_of_queuedStore :
    ∃ opened, runMigrations (fun _ _ => .returns)
        (queuedStore "a1b2".toList (.text "found".toList)) = (opened, false) ∧
      opened.userVersion = 8 ∧
      Preserves (queuedStore "a1b2".toList (.text "found".toList)) opened ∧
      ∀ opens faults, Stops faults
        (Connection.reopened storeMigrations opens
          (queuedStore "a1b2".toList (.text "found".toList))) opened :=
  opened_of_written (by decide) (by decide) (written_queuedStore _ (.inr rfl))

/-- A query that the code of version 4 queued, and that is not restored from the database it is
migrated to. -/
theorem long_query_refused :
    Written 4 (queuedStore (List.replicate 4097 'a') .null) ∧
      ∃ opened, runMigrations (fun _ _ => .returns)
          (queuedStore (List.replicate 4097 'a') .null) = (opened, false) ∧
        ¬ List.Forall₂ Restored (pendingReplies (queuedStore (List.replicate 4097 'a') .null))
          (pendingReplies opened) := by
  have written := written_queuedStore (List.replicate 4097 'a') (.inl rfl)
  rcases migrated_of_written (by decide) (by decide) written with
    ⟨opened, migrated, _, preserves⟩
  refine ⟨written, opened, runMigrations_of_migrateAll migrated, ?_⟩
  have one : pendingReplies (queuedStore (List.replicate 4097 'a') .null) =
      [queueItemRow (List.replicate 4097 'a') .null] := rfl
  have pending := preserves.pending
  rw [one] at pending ⊢
  generalize pendingReplies opened = replies at pending ⊢
  intro all
  have large : ¬ Restorable (queueItemRow (List.replicate 4097 'a') .null) := by
    refine not_restorable_of_query rfl ?_
    rw [List.length_replicate]
    decide
  cases pending with
  | cons carried _ =>
      cases all with
      | cons restored _ =>
          rcases restored with ⟨data, read, _⟩
          rw [carried.refused large] at read
          cases read

end MeshcoreObserver
