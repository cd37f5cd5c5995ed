import MeshcoreObserver.Sqlite.Database

/-!
# Migrations

A list of migrations, each run in a transaction of its own that also raises the
`user_version`. Any call on the connection may throw, and the engine may have
rolled the transaction back when it does. Whatever throws, what is committed is
the database some of the migrations lead to, completely; running them again
continues from there.
-/

namespace Sqlite

universe u v w

variable {ColumnName : Type u} {TableName : Type v} {IndexName : Type w}
  [DecidableEq ColumnName] [DecidableEq TableName] [DecidableEq IndexName]

section Migrations

variable (ColumnName TableName IndexName)

structure Migration where
  version : Nat
  statements : List (Statement ColumnName TableName IndexName)

/-- An open database: what is committed, and what the open transaction has made of it. -/
structure Connection where
  committed : Database ColumnName TableName IndexName
  transaction : Option (Database ColumnName TableName IndexName)

inductive Call where
  | begin
  | statement (statement : Statement ColumnName TableName IndexName)
  | userVersion (version : Nat)
  | commit
  | rollback

end Migrations

/-- What the environment does to a call. -/
inductive Fault where
  | returns
  | throws
  | rollsBack
  deriving DecidableEq, Repr

namespace Migration

/-- The calls in the `try` block. -/
def calls (migration : Migration ColumnName TableName IndexName) :
    List (Call ColumnName TableName IndexName) :=
  migration.statements.map .statement ++ [.userVersion migration.version, .commit]

/-- What a migration makes of a database. -/
def migrate (migration : Migration ColumnName TableName IndexName)
    (db : Database ColumnName TableName IndexName) :
    Option (Database ColumnName TableName IndexName) :=
  (db.execAll migration.statements).map fun after =>
    { after with userVersion := migration.version }

/-- None of the calls up to its `COMMIT` is made to throw. -/
def undisturbed (faults : Nat → Fault) (migration : Migration ColumnName TableName IndexName) :
    Bool :=
  (List.range (migration.calls.length + 1)).all fun position => faults position = .returns

/-- The migrations before the first that is disturbed. -/
def completed (faults : Nat → Nat → Fault)
    (migrations : List (Migration ColumnName TableName IndexName)) :
    List (Migration ColumnName TableName IndexName) :=
  migrations.takeWhile fun migration => migration.undisturbed (faults migration.version)

def migrateAll : List (Migration ColumnName TableName IndexName) →
    Database ColumnName TableName IndexName → Option (Database ColumnName TableName IndexName)
  | [], db => some db
  | migration :: migrations, db =>
      (migration.migrate db).bind fun after => migrateAll migrations after

/-- The migrations a database has not seen. -/
def pending (migrations : List (Migration ColumnName TableName IndexName))
    (db : Database ColumnName TableName IndexName) :
    List (Migration ColumnName TableName IndexName) :=
  migrations.filter fun migration => db.userVersion < migration.version

end Migration

namespace Connection

variable (connection : Connection ColumnName TableName IndexName)

/-- A change of the transaction, or of what is committed outside of one. -/
def change (update : Database ColumnName TableName IndexName →
    Option (Database ColumnName TableName IndexName)) :
    Option (Connection ColumnName TableName IndexName) :=
  match connection.transaction with
  | none => (update connection.committed).map fun after => { connection with committed := after }
  | some db => (update db).map fun after => { connection with transaction := some after }

def call : Call ColumnName TableName IndexName → Option (Connection ColumnName TableName IndexName)
  | .begin =>
      if connection.transaction.isSome then none
      else some { connection with transaction := some connection.committed }
  | .statement statement => connection.change fun db => db.exec statement
  | .userVersion version => connection.change fun db => some { db with userVersion := version }
  | .commit => connection.transaction.map fun db => ⟨db, none⟩
  | .rollback => connection.transaction.map fun _ => { connection with transaction := none }

/-- A call, with whether it throws. -/
def attempt (fault : Fault) (call : Call ColumnName TableName IndexName) :
    Connection ColumnName TableName IndexName × Bool :=
  match fault with
  | .returns =>
      match connection.call call with
      | some after => (after, false)
      | none => (connection, true)
  | .throws => (connection, true)
  | .rollsBack => ({ connection with transaction := none }, true)

/-- Calls one after another, up to the first that throws. -/
def attemptAll (faults : Nat → Fault) :
    Nat → List (Call ColumnName TableName IndexName) →
      Connection ColumnName TableName IndexName → Connection ColumnName TableName IndexName × Bool
  | _, [], connection => (connection, false)
  | position, call :: calls, connection =>
      let attempted := connection.attempt (faults position) call
      if attempted.2 then attempted else attemptAll faults (position + 1) calls attempted.1

/-- `BEGIN`, the calls, and a `ROLLBACK` when one of them throws. -/
def runMigration (faults : Nat → Fault) (migration : Migration ColumnName TableName IndexName) :
    Connection ColumnName TableName IndexName × Bool :=
  let begun := connection.attempt (faults 0) .begin
  if begun.2 then begun
  else
    let tried := begun.1.attemptAll faults 1 migration.calls
    if tried.2 then ((tried.1.attempt (faults (migration.calls.length + 1)) .rollback).1, true)
    else tried

def runMigrations (faults : Nat → Nat → Fault) :
    List (Migration ColumnName TableName IndexName) →
      Connection ColumnName TableName IndexName → Connection ColumnName TableName IndexName × Bool
  | [], connection => (connection, false)
  | migration :: migrations, connection =>
      let ran := connection.runMigration (faults migration.version) migration
      if ran.2 then ran else runMigrations faults migrations ran.1

/-- What is left of a database that is opened several times. -/
def reopened (migrations : List (Migration ColumnName TableName IndexName)) :
    List (Nat → Nat → Fault) → Database ColumnName TableName IndexName →
      Database ColumnName TableName IndexName
  | [], db => db
  | faults :: opens, db =>
      reopened migrations opens
        (runMigrations faults (Migration.pending migrations db)
          { committed := db, transaction := none }).1.committed

end Connection

namespace Database

variable {db after : Database ColumnName TableName IndexName}

theorem execAll_append {first second : List (Statement ColumnName TableName IndexName)}
    (executed : db.execAll first = some after) :
    db.execAll (first ++ second) = after.execAll second := by
  induction first generalizing db with
  | nil =>
      cases executed
      rfl
  | cons statement first ih =>
      rcases Option.bind_eq_some_iff.mp executed with ⟨middle, once, more⟩
      rw [List.cons_append, execAll, once, Option.bind_some, ih more]

theorem exec_insertSelect {target source : TableName} {select : Row ColumnName → Cells ColumnName}
    {selected table inserted : Table ColumnName} (read : db.tables source = some selected)
    (written : db.tables target = some table)
    (inserts : table.insertAll (selected.rows.map select) = some inserted) :
    db.exec (.insertSelect target source select) = some (db.set target (some inserted)) := by
  simp only [exec, read, written, inserts, Option.bind_some, Option.map_some]

def Lawful (db : Database ColumnName TableName IndexName) : Prop :=
  ∀ name, ∀ table ∈ db.tables name, table.Lawful

omit [DecidableEq IndexName] in
theorem Lawful.set (lawful : db.Lawful) (name : TableName) {table : Option (Table ColumnName)}
    (kept : ∀ present ∈ table, present.Lawful) : (db.set name table).Lawful := by
  intro other present presentMem
  simp only [Database.set] at presentMem
  split at presentMem
  · exact kept present presentMem
  · exact lawful other present presentMem

theorem Lawful.exec (lawful : db.Lawful)
    {statement : Statement ColumnName TableName IndexName}
    (executed : db.exec statement = some after) : after.Lawful := by
  cases statement with
  | createTable name schema =>
      simp only [Database.exec, Option.ite_none_left_eq_some, Option.some.injEq] at executed
      rcases executed with ⟨_, rfl⟩
      refine lawful.set name ?_
      rintro table ⟨⟩
      exact Table.lawful_empty schema
  | createIndex index name columns =>
      simp only [Database.exec, Option.bind_eq_some_iff, Option.ite_none_right_eq_some,
        Option.some.injEq] at executed
      rcases executed with ⟨table, _, _, rfl⟩
      exact lawful
  | renameColumn name before after =>
      simp only [Database.exec, Option.bind_eq_some_iff, Option.map_eq_some_iff] at executed
      rcases executed with ⟨table, present, renamed, renames, rfl⟩
      refine lawful.set name ?_
      rintro other ⟨⟩
      exact (lawful name table present).renameColumn renames
  | addColumn name column =>
      simp only [Database.exec, Option.bind_eq_some_iff, Option.map_eq_some_iff] at executed
      rcases executed with ⟨table, present, widened, adds, rfl⟩
      refine lawful.set name ?_
      rintro other ⟨⟩
      exact (lawful name table present).addColumn adds
  | insert name cells =>
      simp only [Database.exec, Option.bind_eq_some_iff, Option.map_eq_some_iff] at executed
      rcases executed with ⟨table, present, inserted, inserts, rfl⟩
      refine lawful.set name ?_
      rintro other ⟨⟩
      exact (lawful name table present).insert inserts
  | insertSelect target source select =>
      simp only [Database.exec, Option.bind_eq_some_iff, Option.map_eq_some_iff] at executed
      rcases executed with ⟨_, _, table, present, inserted, inserts, rfl⟩
      refine lawful.set target ?_
      rintro other ⟨⟩
      exact (lawful target table present).insertAll inserts
  | dropTable name =>
      simp only [Database.exec, Option.map_eq_some_iff] at executed
      rcases executed with ⟨_, _, rfl⟩
      refine lawful.set name ?_
      rintro other ⟨⟩
  | renameTable before after =>
      simp only [Database.exec, Option.bind_eq_some_iff, Option.ite_none_left_eq_some,
        Option.some.injEq] at executed
      rcases executed with ⟨table, present, _, rfl⟩
      have removed : (db.set before none).Lawful := by
        refine lawful.set before ?_
        rintro other ⟨⟩
      refine removed.set after ?_
      rintro other ⟨⟩
      exact lawful before table present

theorem Lawful.execAll {statements : List (Statement ColumnName TableName IndexName)}
    (lawful : db.Lawful) (executed : db.execAll statements = some after) : after.Lawful := by
  induction statements generalizing db with
  | nil =>
      cases executed
      exact lawful
  | cons statement statements ih =>
      rcases Option.bind_eq_some_iff.mp executed with ⟨middle, first, rest⟩
      exact ih (lawful.exec first) rest

end Database

theorem Migration.lawful_migrate {migration : Migration ColumnName TableName IndexName}
    {db after : Database ColumnName TableName IndexName} (lawful : db.Lawful)
    (migrated : migration.migrate db = some after) : after.Lawful := by
  rcases Option.map_eq_some_iff.mp migrated with ⟨executed, statements, rfl⟩
  have kept := lawful.execAll statements
  exact kept

namespace Connection

variable {db : Database ColumnName TableName IndexName}

/-- A connection in a transaction. -/
abbrev working (db work : Database ColumnName TableName IndexName) :
    Connection ColumnName TableName IndexName :=
  { committed := db, transaction := some work }

abbrev idle (db : Database ColumnName TableName IndexName) :
    Connection ColumnName TableName IndexName :=
  { committed := db, transaction := none }

/-- Calls that throw have left what is committed. -/
def Throws (tried : Connection ColumnName TableName IndexName × Bool)
    (db : Database ColumnName TableName IndexName) : Prop :=
  tried.2 = true ∧ tried.1.committed = db

theorem attempt_eq {connection after : Connection ColumnName TableName IndexName}
    {call : Call ColumnName TableName IndexName} (fault : Fault)
    (returns : connection.call call = some after) :
    Throws (connection.attempt fault call) connection.committed ∨
      connection.attempt fault call = (after, false) := by
  cases fault with
  | returns =>
      right
      rw [attempt, returns]
  | throws => exact .inl ⟨rfl, rfl⟩
  | rollsBack => exact .inl ⟨rfl, rfl⟩

theorem throws_of_refused {connection : Connection ColumnName TableName IndexName}
    {call : Call ColumnName TableName IndexName} (fault : Fault)
    (refused : connection.call call = none) :
    Throws (connection.attempt fault call) connection.committed := by
  cases fault with
  | returns =>
      rw [attempt, refused]
      exact ⟨rfl, rfl⟩
  | throws => exact ⟨rfl, rfl⟩
  | rollsBack => exact ⟨rfl, rfl⟩

theorem attemptAll_of_throws {connection : Connection ColumnName TableName IndexName}
    {call : Call ColumnName TableName IndexName} {faults : Nat → Fault} {position : Nat}
    (throws : Throws (connection.attempt (faults position) call) db)
    (calls : List (Call ColumnName TableName IndexName)) :
    Throws (connection.attemptAll faults position (call :: calls)) db := by
  rw [attemptAll, if_pos throws.1]
  exact throws

theorem attemptAll_of_returns {connection after : Connection ColumnName TableName IndexName}
    {call : Call ColumnName TableName IndexName} {faults : Nat → Fault} {position : Nat}
    (returns : connection.attempt (faults position) call = (after, false))
    (calls : List (Call ColumnName TableName IndexName)) :
    connection.attemptAll faults position (call :: calls) =
      after.attemptAll faults (position + 1) calls := by
  rw [attemptAll, returns]
  exact if_neg Bool.false_ne_true

/-- In a transaction, statements change nothing that is committed. -/
theorem attemptAll_statements (faults : Nat → Fault)
    (statements : List (Statement ColumnName TableName IndexName))
    (calls : List (Call ColumnName TableName IndexName)) (position : Nat)
    (db work : Database ColumnName TableName IndexName) :
    Throws ((working db work).attemptAll faults position (statements.map .statement ++ calls)) db ∨
      ∃ after, work.execAll statements = some after ∧
        (working db work).attemptAll faults position (statements.map .statement ++ calls) =
          (working db after).attemptAll faults (position + statements.length) calls := by
  induction statements generalizing position work with
  | nil => exact .inr ⟨work, rfl, rfl⟩
  | cons statement statements ih =>
      rw [List.map_cons, List.cons_append]
      cases executed : work.exec statement with
      | none =>
          refine .inl (attemptAll_of_throws (throws_of_refused _ ?_) _)
          simp only [call, change, executed, Option.map_none]
      | some middle =>
          have returns : (working db work).call (.statement statement) =
              some (working db middle) := by
            simp only [call, change, executed, Option.map_some]
          rcases attempt_eq (faults position) returns with throws | attempted
          · exact .inl (attemptAll_of_throws throws _)
          · rw [attemptAll_of_returns attempted]
            rcases ih (position + 1) middle with throws | ⟨after, rest, same⟩
            · exact .inl throws
            · refine .inr ⟨after, ?_, ?_⟩
              · rw [Database.execAll, executed, Option.bind_some, rest]
              · rw [same, List.length_cons, Nat.add_assoc, Nat.add_comm 1]

theorem attemptAll_of_execAll
    {statements : List (Statement ColumnName TableName IndexName)}
    {calls : List (Call ColumnName TableName IndexName)} {position : Nat}
    {db work after : Database ColumnName TableName IndexName}
    (executed : work.execAll statements = some after) :
    (working db work).attemptAll (fun _ => .returns) position
        (statements.map .statement ++ calls) =
      (working db after).attemptAll (fun _ => .returns) (position + statements.length) calls := by
  induction statements generalizing position work with
  | nil =>
      cases executed
      rfl
  | cons statement statements ih =>
      rcases Option.bind_eq_some_iff.mp executed with ⟨middle, first, rest⟩
      have returned : (working db work).attempt .returns (.statement statement) =
          (working db middle, false) := by
        simp only [attempt, call, change, first, Option.map_some]
      rw [List.map_cons, List.cons_append, attemptAll_of_returns returned, ih rest,
        List.length_cons, Nat.add_assoc, Nat.add_comm 1]

theorem attemptAll_calls (faults : Nat → Fault)
    (migration : Migration ColumnName TableName IndexName) (position : Nat)
    (db : Database ColumnName TableName IndexName) :
    Throws ((working db db).attemptAll faults position migration.calls) db ∨
      ∃ after, migration.migrate db = some after ∧
        (working db db).attemptAll faults position migration.calls = (idle after, false) := by
  rcases attemptAll_statements faults migration.statements
    [.userVersion migration.version, .commit] position db db with
    throws | ⟨after, executed, same⟩
  · exact .inl throws
  · have migrated : migration.migrate db =
        some { after with userVersion := migration.version } := by
      rw [Migration.migrate, executed, Option.map_some]
    rw [Migration.calls, same]
    have raises : (working db after).call (.userVersion migration.version) =
        some (working db { after with userVersion := migration.version }) := rfl
    have commits : (working db { after with userVersion := migration.version }).call .commit =
        some (idle { after with userVersion := migration.version }) := rfl
    rcases attempt_eq (faults (position + migration.statements.length)) raises with throws | raised
    · exact .inl (attemptAll_of_throws throws _)
    · rw [attemptAll_of_returns raised]
      rcases attempt_eq (faults (position + migration.statements.length + 1)) commits with
        throws | committed
      · exact .inl (attemptAll_of_throws throws _)
      · exact .inr ⟨_, migrated, attemptAll_of_returns committed _⟩

/-- A migration that throws has left what was committed; one that returns has committed all of
itself. -/
theorem runMigration_eq (faults : Nat → Fault)
    (migration : Migration ColumnName TableName IndexName)
    (db : Database ColumnName TableName IndexName) :
    Throws ((idle db).runMigration faults migration) db ∨
      ∃ after, migration.migrate db = some after ∧
        (idle db).runMigration faults migration = (idle after, false) := by
  have begins : (idle db).call .begin = some (working db db) := rfl
  rcases attempt_eq (faults 0) begins with throws | begun
  · left
    rw [runMigration, if_pos throws.1]
    exact throws
  · simp only [runMigration, begun, Bool.false_eq_true, if_false]
    rcases attemptAll_calls faults migration 1 db with throws | ⟨after, migrated, same⟩
    · left
      rw [if_pos throws.1]
      refine ⟨rfl, ?_⟩
      have left := throws.2
      generalize ((working db db).attemptAll faults 1 migration.calls).1 = tried at left
      subst db
      cases faults (migration.calls.length + 1) with
      | returns =>
          cases tried with
          | mk committed transaction =>
              cases transaction with
              | none => rfl
              | some work => rfl
      | throws => rfl
      | rollsBack => rfl
    · right
      rw [same]
      exact ⟨after, migrated, rfl⟩

theorem attemptAll_undisturbed {connection : Connection ColumnName TableName IndexName}
    {faults : Nat → Fault} {position : Nat} {calls : List (Call ColumnName TableName IndexName)}
    (undisturbed : ∀ offset < calls.length, faults (position + offset) = .returns) :
    connection.attemptAll faults position calls =
      connection.attemptAll (fun _ => .returns) position calls := by
  induction calls generalizing connection position with
  | nil => rfl
  | cons call calls ih =>
      have first : faults position = .returns := undisturbed 0 (Nat.zero_lt_succ _)
      have rest : ∀ offset < calls.length, faults (position + 1 + offset) = .returns := by
        intro offset shorter
        have later := undisturbed (offset + 1) (Nat.succ_lt_succ shorter)
        rwa [← Nat.add_assoc, Nat.add_right_comm] at later
      rw [attemptAll, attemptAll, first, ih rest]

theorem returns_of_attempt {connection after : Connection ColumnName TableName IndexName}
    {call : Call ColumnName TableName IndexName} {fault : Fault}
    (returned : connection.attempt fault call = (after, false)) : fault = .returns := by
  cases fault with
  | returns => rfl
  | throws => cases returned
  | rollsBack => cases returned

theorem undisturbed_of_attemptAll {connection : Connection ColumnName TableName IndexName}
    {faults : Nat → Fault} {position : Nat} {calls : List (Call ColumnName TableName IndexName)}
    (returned : (connection.attemptAll faults position calls).2 = false) :
    ∀ offset < calls.length, faults (position + offset) = .returns := by
  induction calls generalizing connection position with
  | nil => exact fun _ shorter => absurd shorter (Nat.not_lt_zero _)
  | cons call calls ih =>
      rw [attemptAll] at returned
      cases attempted : connection.attempt (faults position) call with
      | mk after threw =>
          rw [attempted] at returned
          cases threw with
          | true => cases returned
          | false =>
              intro offset shorter
              cases offset with
              | zero => exact returns_of_attempt attempted
              | succ offset =>
                  have later := ih returned offset (Nat.lt_of_succ_lt_succ shorter)
                  rwa [Nat.add_right_comm, Nat.add_assoc] at later

theorem runMigration_of_migrate {faults : Nat → Fault}
    {migration : Migration ColumnName TableName IndexName}
    {db after : Database ColumnName TableName IndexName}
    (undisturbed : migration.undisturbed faults = true)
    (migrated : migration.migrate db = some after) :
    (idle db).runMigration faults migration = (idle after, false) := by
  rcases Option.map_eq_some_iff.mp migrated with ⟨executed, statements, rfl⟩
  have returns : ∀ position ≤ migration.calls.length, faults position = .returns := by
    intro position small
    exact of_decide_eq_true (List.all_eq_true.mp undisturbed position
      (List.mem_range.mpr (Nat.lt_succ_of_le small)))
  have begun : (idle db).attempt (faults 0) .begin = (working db db, false) := by
    rw [returns 0 (Nat.zero_le _)]
    rfl
  have tried : (working db db).attemptAll faults 1 migration.calls =
      (idle { executed with userVersion := migration.version }, false) := by
    rw [attemptAll_undisturbed fun offset shorter => returns (1 + offset) (by omega),
      Migration.calls, attemptAll_of_execAll statements]
    rfl
  simp only [runMigration, begun, tried, Bool.false_eq_true, if_false]

theorem undisturbed_of_runMigration {faults : Nat → Fault}
    {migration : Migration ColumnName TableName IndexName}
    {db after : Database ColumnName TableName IndexName}
    (returned : (idle db).runMigration faults migration = (idle after, false)) :
    migration.undisturbed faults = true := by
  have begins : (idle db).call .begin = some (working db db) := rfl
  rcases attempt_eq (faults 0) begins with throws | begun
  · rw [runMigration, if_pos throws.1] at returned
    rw [returned] at throws
    cases throws.1
  · have first := returns_of_attempt begun
    have called : ((working db db).attemptAll faults 1 migration.calls).2 = false := by
      simp only [runMigration, begun, Bool.false_eq_true, if_false] at returned
      cases threw : ((working db db).attemptAll faults 1 migration.calls).2 with
      | false => rfl
      | true =>
          rw [threw, if_pos rfl, Prod.mk.injEq] at returned
          cases returned.2
    refine List.all_eq_true.mpr fun position positionMem => decide_eq_true ?_
    cases position with
    | zero => exact first
    | succ position =>
        have later := undisturbed_of_attemptAll called position
          (Nat.lt_of_succ_lt_succ (List.mem_range.mp positionMem))
        rwa [Nat.add_comm] at later

/-- Where every statement can be executed, the migrations before the first that is disturbed are
committed, and nothing else is. -/
theorem runMigrations_of_migrateAll (faults : Nat → Nat → Fault)
    {migrations : List (Migration ColumnName TableName IndexName)}
    {db after : Database ColumnName TableName IndexName}
    (migrated : Migration.migrateAll migrations db = some after) :
    Migration.migrateAll (Migration.completed faults migrations) db =
        some ((idle db).runMigrations faults migrations).1.committed ∧
      (((idle db).runMigrations faults migrations).2 = false ↔
        Migration.completed faults migrations = migrations) := by
  induction migrations generalizing db with
  | nil => exact ⟨rfl, fun _ => rfl, fun _ => rfl⟩
  | cons migration migrations ih =>
      rcases Option.bind_eq_some_iff.mp migrated with ⟨middle, first, more⟩
      cases undisturbed : migration.undisturbed (faults migration.version) with
      | true =>
          rcases ih more with ⟨led, returned⟩
          have reran : (idle db).runMigrations faults (migration :: migrations) =
              (idle middle).runMigrations faults migrations := by
            rw [runMigrations, runMigration_of_migrate undisturbed first]
            exact if_neg Bool.false_ne_true
          have completes : Migration.completed faults (migration :: migrations) =
              migration :: Migration.completed faults migrations :=
            List.takeWhile_cons_of_pos undisturbed
          rw [completes, reran, List.cons.injEq, Migration.migrateAll, first, Option.bind_some]
          exact ⟨led, returned.trans ⟨fun all => ⟨rfl, all⟩, And.right⟩⟩
      | false =>
          have disturbed : ¬ migration.undisturbed (faults migration.version) = true := by
            rw [undisturbed]
            exact Bool.false_ne_true
          have completes : Migration.completed faults (migration :: migrations) = [] :=
            List.takeWhile_cons_of_neg disturbed
          rcases runMigration_eq (faults migration.version) migration db with
            throws | ⟨_, _, returned⟩
          · rw [completes, runMigrations, if_pos throws.1, throws.1, throws.2]
            exact ⟨rfl, by rintro ⟨⟩, by rintro ⟨⟩⟩
          · exact absurd (undisturbed_of_runMigration returned) disturbed

/-- Whatever throws, what is committed is what some of the migrations lead to, and all of them
when none throws. -/
theorem runMigrations_eq (faults : Nat → Nat → Fault)
    (migrations : List (Migration ColumnName TableName IndexName))
    (db : Database ColumnName TableName IndexName) :
    ∃ done rest, migrations = done ++ rest ∧
      Migration.migrateAll done db =
        some ((idle db).runMigrations faults migrations).1.committed ∧
      (((idle db).runMigrations faults migrations).2 = false → rest = []) := by
  induction migrations generalizing db with
  | nil => exact ⟨[], [], rfl, rfl, fun _ => rfl⟩
  | cons migration migrations ih =>
      rcases runMigration_eq (faults migration.version) migration db with
        throws | ⟨after, migrated, same⟩
      · refine ⟨[], migration :: migrations, rfl, ?_, fun returned => ?_⟩
        · rw [runMigrations, if_pos throws.1, throws.2]
          rfl
        · rw [runMigrations, if_pos throws.1, throws.1] at returned
          cases returned
      · rcases ih after with ⟨done, rest, split, led, finished⟩
        have rerun : (idle db).runMigrations faults (migration :: migrations) =
            (idle after).runMigrations faults migrations := by
          rw [runMigrations, same]
          exact if_neg Bool.false_ne_true
        refine ⟨migration :: done, rest, ?_, ?_, ?_⟩
        · rw [split, List.cons_append]
        · rw [Migration.migrateAll, migrated, Option.bind_some, led, rerun]
        · rw [rerun]
          exact finished

end Connection

namespace Migration

variable {migrations done rest : List (Migration ColumnName TableName IndexName)}
  {db after : Database ColumnName TableName IndexName}

theorem migrateAll_append :
    migrateAll (done ++ rest) db =
      (migrateAll done db).bind fun after => migrateAll rest after := by
  induction done generalizing db with
  | nil => rfl
  | cons first done ih =>
      rw [List.cons_append, migrateAll, migrateAll, Option.bind_assoc]
      congr 1
      funext middle
      exact ih

theorem lawful_migrateAll (lawful : db.Lawful) (migrated : migrateAll migrations db = some after) :
    after.Lawful := by
  induction migrations generalizing db with
  | nil =>
      cases migrated
      exact lawful
  | cons migration migrations ih =>
      rcases Option.bind_eq_some_iff.mp migrated with ⟨middle, first, rest⟩
      exact ih (lawful_migrate lawful first) rest

omit [DecidableEq ColumnName] [DecidableEq TableName] [DecidableEq IndexName] in
theorem pending_of_first {migration : Migration ColumnName TableName IndexName}
    (ascending : migrations.Pairwise fun first second => first.version < second.version)
    (split : pending migrations db = migration :: rest)
    (version : after.userVersion = migration.version) : pending migrations after = rest := by
  have sorted := List.Pairwise.sublist
    (List.filter_sublist (p := fun other => decide (db.userVersion < other.version))) ascending
  have unseen : migration ∈ pending migrations db := by
    rw [split]
    exact List.mem_cons_self
  have later := of_decide_eq_true (List.mem_filter.mp unseen).2
  have narrowed : pending migrations after =
      (pending migrations db).filter fun other => after.userVersion < other.version := by
    rw [pending, pending, List.filter_filter]
    apply List.filter_congr
    intro other _
    rw [version, ← Bool.decide_and, decide_eq_decide]
    omega
  rw [pending] at split
  rw [split, List.pairwise_cons] at sorted
  rw [narrowed, pending, split, version, List.filter_cons_of_neg (by simp), List.filter_eq_self]
  intro other otherMem
  exact decide_eq_true (sorted.1 other otherMem)

/-- Once it has seen the first migrations, a database still needs the others. -/
theorem pending_of_migrateAll
    (ascending : migrations.Pairwise fun first second => first.version < second.version)
    (split : pending migrations db = done ++ rest)
    (migrated : migrateAll done db = some after) : pending migrations after = rest := by
  induction done generalizing db with
  | nil =>
      cases migrated
      exact split
  | cons first done ih =>
      rcases Option.bind_eq_some_iff.mp migrated with ⟨middle, once, more⟩
      rcases Option.map_eq_some_iff.mp once with ⟨executed, _, rfl⟩
      exact ih (pending_of_first ascending split rfl) more

end Migration

omit [DecidableEq ColumnName] [DecidableEq TableName] [DecidableEq IndexName] in
theorem Migration.completed_returns
    (migrations : List (Migration ColumnName TableName IndexName)) :
    Migration.completed (fun _ _ => .returns) migrations = migrations := by
  rw [completed, List.takeWhile_eq_self_iff]
  intro migration _
  exact List.all_eq_true.mpr fun _ _ => decide_eq_true rfl

/-- Opening a database whose migrations were interrupted, however often, leads where opening it at
first would have led. -/
theorem Connection.resumes {migrations : List (Migration ColumnName TableName IndexName)}
    (ascending : migrations.Pairwise fun first second => first.version < second.version)
    (opens : List (Nat → Nat → Fault)) (db : Database ColumnName TableName IndexName) :
    Migration.migrateAll (Migration.pending migrations (reopened migrations opens db))
        (reopened migrations opens db) =
      Migration.migrateAll (Migration.pending migrations db) db := by
  induction opens generalizing db with
  | nil => rfl
  | cons faults opens ih =>
      rcases runMigrations_eq faults (Migration.pending migrations db) db with
        ⟨done, rest, split, led, _⟩
      have still := Migration.pending_of_migrateAll ascending split led
      rw [reopened, ih, still, split, Migration.migrateAll_append, ← split, led, Option.bind_some]

end Sqlite
