import Mathlib.Data.List.Forall2
import Mathlib.Data.List.Pairwise
import Mathlib.Data.List.Sort
import Mathlib.Data.List.TakeWhile

/-!
# Databases

Tables with typed and checked columns, and the statements that change their
schemas and rows. A table keeps its rows in ascending order of its integer
primary key, which is the order of a scan; without such a key, in the order they
were inserted. A statement that throws has no effect.

Types of columns are strict: where a value would be converted to the type of its
column, the statement throws instead. Foreign keys and keys that are no integer
are not kept.
-/

namespace Sqlite

universe u v w

inductive Value where
  | null
  | integer (value : Int)
  | text (value : List Char)
  deriving DecidableEq, Repr

inductive Affinity where
  | integer
  | text
  deriving DecidableEq, Repr

def Affinity.admits : Affinity → Value → Bool
  | _, .null => true
  | .integer, .integer _ => true
  | .text, .text _ => true
  | _, _ => false

def Value.toInt : Value → Int
  | .integer value => value
  | _ => 0

theorem null_or_text {value : Value} (typed : Affinity.text.admits value) :
    value = .null ∨ ∃ text, value = .text text := by
  cases value with
  | null => exact .inl rfl
  | integer value => cases typed
  | text text => exact .inr ⟨text, rfl⟩

theorem null_or_integer {value : Value} (typed : Affinity.integer.admits value) :
    value = .null ∨ ∃ number, value = .integer number := by
  cases value with
  | null => exact .inl rfl
  | integer value => exact .inr ⟨value, rfl⟩
  | text text => cases typed

section Tables

variable (ColumnName : Type u)

structure Column where
  name : ColumnName
  affinity : Affinity
  notNull : Bool
  default : Value
  check : Value → Bool

/-- A column without constraints. -/
def Column.plain {ColumnName : Type u} (name : ColumnName) (affinity : Affinity) :
    Column ColumnName :=
  { name, affinity, notNull := false, default := .null, check := fun _ => true }

/-- `key` is the column declared `INTEGER PRIMARY KEY`. -/
structure Schema where
  key : Option ColumnName
  columns : List (Column ColumnName)
  keyed : ∀ name ∈ key, ∃ column ∈ columns, column.name = name

def Schema.keyedBy {ColumnName : Type u} (key : Column ColumnName)
    (columns : List (Column ColumnName)) : Schema ColumnName where
  key := some key.name
  columns := key :: columns
  keyed := by
    rintro name ⟨⟩
    exact ⟨key, List.mem_cons_self, rfl⟩

def Schema.keyless {ColumnName : Type u} (columns : List (Column ColumnName)) :
    Schema ColumnName where
  key := none
  columns
  keyed := by
    rintro name ⟨⟩

/-- The values of a row. A column the table does not have is null. -/
abbrev Row := ColumnName → Value

abbrev Cells := List (ColumnName × Value)

structure Table where
  schema : Schema ColumnName
  rows : List (Row ColumnName)

end Tables

variable {ColumnName : Type u} [DecidableEq ColumnName]

def Row.set (row : Row ColumnName) (name : ColumnName) (value : Value) : Row ColumnName :=
  fun other => if other = name then value else row other

@[simp]
theorem Row.set_same (row : Row ColumnName) (name : ColumnName) (value : Value) :
    row.set name value name = value :=
  if_pos rfl

theorem Row.set_of_ne (row : Row ColumnName) {name other : ColumnName} (apart : other ≠ name)
    (value : Value) : row.set name value other = row other :=
  if_neg apart

def Row.rename (row : Row ColumnName) (before after : ColumnName) : Row ColumnName :=
  (row.set after (row before)).set before .null

def Column.rename (column : Column ColumnName) (before after : ColumnName) : Column ColumnName :=
  if column.name = before then { column with name := after } else column

def Column.admits (column : Column ColumnName) (value : Value) : Bool :=
  column.affinity.admits value && !(column.notNull && value = .null) &&
    (value = .null || column.check value)

namespace Schema

def has (schema : Schema ColumnName) (name : ColumnName) : Bool :=
  schema.columns.any fun column => column.name = name

def row (schema : Schema ColumnName) (cells : Cells ColumnName) : Row ColumnName := fun name =>
  match schema.columns.find? fun column => column.name = name with
  | none => .null
  | some column => (cells.lookup name).getD column.default

def rename (schema : Schema ColumnName) (before after : ColumnName)
    (unkeyed : schema.key ≠ some before) : Schema ColumnName where
  key := schema.key
  columns := schema.columns.map fun column => column.rename before after
  keyed := by
    intro name key
    rcases schema.keyed name key with ⟨column, columnMem, rfl⟩
    refine ⟨column, List.mem_map.mpr ⟨column, columnMem, if_neg ?_⟩, rfl⟩
    rintro rfl
    exact unkeyed key

def add (schema : Schema ColumnName) (column : Column ColumnName) : Schema ColumnName where
  key := schema.key
  columns := schema.columns ++ [column]
  keyed := by
    intro name key
    rcases schema.keyed name key with ⟨other, otherMem, same⟩
    exact ⟨other, List.mem_append_left _ otherMem, same⟩

end Schema

namespace Table

/-- The key of the next row: the one after the largest. -/
def nextKey (table : Table ColumnName) (key : ColumnName) : Int :=
  match table.rows.getLast? with
  | none => 1
  | some row => (row key).toInt + 1

/-- The row with its key, which must be a new one. -/
def keyed (table : Table ColumnName) (row : Row ColumnName) : Option (Row ColumnName) :=
  match table.schema.key with
  | none => some row
  | some key =>
      match row key with
      | .null => some (row.set key (.integer (table.nextKey key)))
      | .integer value =>
          if table.rows.any fun other => other key = .integer value then none else some row
      | .text _ => none

def place (table : Table ColumnName) (row : Row ColumnName) : List (Row ColumnName) :=
  match table.schema.key with
  | none => table.rows ++ [row]
  | some key =>
      table.rows.takeWhile (fun other => (other key).toInt < (row key).toInt) ++
        row :: table.rows.dropWhile fun other => (other key).toInt < (row key).toInt

def insert (table : Table ColumnName) (cells : Cells ColumnName) : Option (Table ColumnName) :=
  if cells.all fun cell => table.schema.has cell.1 then
    (table.keyed (table.schema.row cells)).bind fun row =>
      if table.schema.columns.all fun column => column.admits (row column.name) then
        some { table with rows := table.place row }
      else none
  else none

def insertAll : Table ColumnName → List (Cells ColumnName) → Option (Table ColumnName)
  | table, [] => some table
  | table, cells :: more => (table.insert cells).bind fun inserted => insertAll inserted more

def renameColumn (table : Table ColumnName) (before after : ColumnName) :
    Option (Table ColumnName) :=
  if unkeyed : table.schema.key ≠ some before then
    if table.schema.has before && !table.schema.has after then
      some
        { schema := table.schema.rename before after unkeyed
          rows := table.rows.map fun row => row.rename before after }
    else none
  else none

def addColumn (table : Table ColumnName) (column : Column ColumnName) :
    Option (Table ColumnName) :=
  if !table.schema.has column.name && column.admits column.default then
    some
      { schema := table.schema.add column
        rows := table.rows.map fun row => row.set column.name column.default }
  else none

end Table

section Statements

variable (TableName : Type v) (IndexName : Type w) (ColumnName)

/-- What is committed is a value of this type. -/
structure Database where
  userVersion : Nat
  tables : TableName → Option (Table ColumnName)
  indexes : List (IndexName × TableName)

inductive Statement where
  | createTable (name : TableName) (schema : Schema ColumnName)
  | createIndex (index : IndexName) (name : TableName) (columns : List ColumnName)
  | renameColumn (name : TableName) (before after : ColumnName)
  | addColumn (name : TableName) (column : Column ColumnName)
  | insert (name : TableName) (cells : Cells ColumnName)
  | insertSelect (target source : TableName) (select : Row ColumnName → Cells ColumnName)
  | dropTable (name : TableName)
  | renameTable (before after : TableName)

end Statements

variable {TableName : Type v} {IndexName : Type w} [DecidableEq TableName] [DecidableEq IndexName]

namespace Database

def set (db : Database ColumnName TableName IndexName) (name : TableName)
    (table : Option (Table ColumnName)) : Database ColumnName TableName IndexName :=
  { db with tables := fun other => if other = name then table else db.tables other }

def exec (db : Database ColumnName TableName IndexName) :
    Statement ColumnName TableName IndexName → Option (Database ColumnName TableName IndexName)
  | .createTable name schema =>
      if (db.tables name).isSome then none else some (db.set name (some ⟨schema, []⟩))
  | .createIndex index name columns =>
      (db.tables name).bind fun table =>
        if columns.all table.schema.has && db.indexes.all fun other => other.1 ≠ index then
          some { db with indexes := db.indexes ++ [(index, name)] }
        else none
  | .renameColumn name before after =>
      (db.tables name).bind fun table =>
        (table.renameColumn before after).map fun renamed => db.set name (some renamed)
  | .addColumn name column =>
      (db.tables name).bind fun table =>
        (table.addColumn column).map fun widened => db.set name (some widened)
  | .insert name cells =>
      (db.tables name).bind fun table =>
        (table.insert cells).map fun inserted => db.set name (some inserted)
  | .insertSelect target source select =>
      (db.tables source).bind fun selected =>
        (db.tables target).bind fun table =>
          (table.insertAll (selected.rows.map select)).map fun inserted =>
            db.set target (some inserted)
  | .dropTable name =>
      (db.tables name).map fun _ =>
        { db.set name none with indexes := db.indexes.filter fun index => index.2 ≠ name }
  | .renameTable before after =>
      (db.tables before).bind fun table =>
        if (db.tables after).isSome then none
        else
          some
            { (db.set before none).set after (some table) with
              indexes := db.indexes.map fun index =>
                if index.2 = before then (index.1, after) else index }

def execAll : Database ColumnName TableName IndexName →
    List (Statement ColumnName TableName IndexName) →
      Option (Database ColumnName TableName IndexName)
  | db, [] => some db
  | db, statement :: statements => (db.exec statement).bind fun after => execAll after statements

end Database

/-- The rows satisfy the schema and stand in ascending order of the key. -/
structure Table.Lawful (table : Table ColumnName) : Prop where
  admitted : ∀ row ∈ table.rows, ∀ column ∈ table.schema.columns, column.admits (row column.name)
  absent : ∀ row ∈ table.rows, ∀ name, table.schema.has name = false → row name = .null
  keys : ∀ key ∈ table.schema.key, ∀ row ∈ table.rows, ∃ value, row key = .integer value
  ascending : ∀ key ∈ table.schema.key,
    table.rows.Pairwise fun first second => (first key).toInt < (second key).toInt

theorem Table.lawful_empty (schema : Schema ColumnName) :
    ({ schema, rows := [] } : Table ColumnName).Lawful where
  admitted := fun _ rowMem => absurd rowMem List.not_mem_nil
  absent := fun _ rowMem => absurd rowMem List.not_mem_nil
  keys := fun _ _ _ rowMem => absurd rowMem List.not_mem_nil
  ascending := fun _ _ => List.Pairwise.nil

namespace Schema

theorem has_iff {schema : Schema ColumnName} {name : ColumnName} :
    schema.has name = true ↔ ∃ column ∈ schema.columns, column.name = name := by
  simp only [has, List.any_eq_true, decide_eq_true_eq]

theorem has_key {schema : Schema ColumnName} {key : ColumnName} (keyed : key ∈ schema.key) :
    schema.has key = true :=
  has_iff.mpr (schema.keyed key keyed)

theorem row_of_absent {schema : Schema ColumnName} {name : ColumnName}
    (absent : schema.has name = false) (cells : Cells ColumnName) :
    schema.row cells name = .null := by
  have unfound : schema.columns.find? (fun column => column.name = name) = none := by
    rw [List.find?_eq_none]
    intro column columnMem same
    have present : schema.has name = true :=
      has_iff.mpr ⟨column, columnMem, of_decide_eq_true same⟩
    rw [absent] at present
    cases present
  rw [row, unfound]

end Schema

namespace Table

variable {table after : Table ColumnName} {key : ColumnName}

/-- The largest key is the last one. -/
theorem Lawful.lt_nextKey (lawful : table.Lawful) (keyed : key ∈ table.schema.key)
    {row : Row ColumnName} (rowMem : row ∈ table.rows) :
    (row key).toInt < table.nextKey key := by
  rw [nextKey]
  cases last : table.rows.getLast? with
  | none =>
      rw [List.getLast?_eq_none_iff.mp last] at rowMem
      cases rowMem
  | some final =>
      rcases List.getLast?_eq_some_iff.mp last with ⟨before, rows⟩
      have ascending := lawful.ascending key keyed
      rw [rows] at ascending rowMem
      rcases List.mem_append.mp rowMem with earlier | same
      · have below := (List.pairwise_append.mp ascending).2.2 row earlier final
          (List.mem_singleton_self final)
        simp only
        omega
      · rw [List.mem_singleton.mp same]
        simp only
        omega

omit [DecidableEq ColumnName] in
/-- A row whose key is larger than every other is placed last. -/
theorem place_of_largest {row : Row ColumnName}
    (largest : ∀ key ∈ table.schema.key, ∀ other ∈ table.rows,
      (other key).toInt < (row key).toInt) :
    table.place row = table.rows ++ [row] := by
  rw [place]
  split
  · rfl
  · rename_i key keyed
    have below : ∀ other ∈ table.rows, decide ((other key).toInt < (row key).toInt) = true :=
      fun other otherMem => decide_eq_true (largest key keyed other otherMem)
    rw [List.takeWhile_eq_self_iff.mpr below, List.dropWhile_eq_nil_iff.mpr below]

theorem insert_eq_some {cells : Cells ColumnName} (inserted : table.insert cells = some after) :
    ∃ row, table.keyed (table.schema.row cells) = some row ∧
      (∀ column ∈ table.schema.columns, column.admits (row column.name)) ∧
        after = { table with rows := table.place row } := by
  rw [insert, Option.ite_none_right_eq_some] at inserted
  rcases Option.bind_eq_some_iff.mp inserted.2 with ⟨row, keyed, placed⟩
  rw [Option.ite_none_right_eq_some, Option.some.injEq, List.all_eq_true] at placed
  exact ⟨row, keyed, placed.1, placed.2.symm⟩

omit [DecidableEq ColumnName] in
theorem mem_place {row other : Row ColumnName} :
    other ∈ table.place row ↔ other = row ∨ other ∈ table.rows := by
  rw [place]
  split
  · simp only [List.mem_append, List.mem_singleton, or_comm]
  · rename_i key keyed
    rw [List.mem_append, List.mem_cons, or_left_comm, ← List.mem_append,
      List.takeWhile_append_dropWhile]

/-- The key of a row that is inserted is a new one, and its other columns are what they were. -/
theorem Lawful.keyed (lawful : table.Lawful) {row next : Row ColumnName}
    (keyed : table.keyed row = some next) :
    (∀ name, name ∉ table.schema.key → next name = row name) ∧
      ∀ key ∈ table.schema.key, ∃ value, next key = .integer value ∧
        ∀ other ∈ table.rows, (other key).toInt ≠ value := by
  simp only [Table.keyed] at keyed
  split at keyed
  · rename_i unkeyed
    cases keyed
    exact ⟨fun _ _ => rfl, fun key present => by cases unkeyed.symm.trans present⟩
  · rename_i key present
    split at keyed
    · cases keyed
      refine ⟨fun name apart => ?_, ?_⟩
      · apply Row.set_of_ne
        rintro rfl
        exact apart present
      · rintro other same
        cases present.symm.trans same
        refine ⟨table.nextKey key, row.set_same key _, fun old oldMem => ?_⟩
        exact Int.ne_of_lt (lawful.lt_nextKey present oldMem)
    · rename_i value given
      rw [Option.ite_none_left_eq_some] at keyed
      rcases keyed with ⟨fresh, same⟩
      cases same
      refine ⟨fun _ _ => rfl, ?_⟩
      rintro other same
      cases present.symm.trans same
      refine ⟨value, given, fun old oldMem taken => fresh ?_⟩
      rcases lawful.keys key present old oldMem with ⟨oldValue, integer⟩
      rw [integer] at taken
      rw [List.any_eq_true]
      exact ⟨old, oldMem, decide_eq_true (integer.trans (congrArg Value.integer taken))⟩
    · cases keyed

omit [DecidableEq ColumnName] in
theorem ascending_place {row : Row ColumnName} (keyed : key ∈ table.schema.key)
    (ascending : table.rows.Pairwise fun first second => (first key).toInt < (second key).toInt)
    (fresh : ∀ other ∈ table.rows, (other key).toInt ≠ (row key).toInt) :
    (table.place row).Pairwise fun first second => (first key).toInt < (second key).toInt := by
  have found : table.place row =
      table.rows.takeWhile (fun other => (other key).toInt < (row key).toInt) ++
        row :: table.rows.dropWhile fun other => (other key).toInt < (row key).toInt := by
    rw [place, keyed]
  have whole := table.rows.takeWhile_append_dropWhile
    (p := fun other => decide ((other key).toInt < (row key).toInt))
  rw [← whole, List.pairwise_append] at ascending
  rcases ascending with ⟨before, behind, across⟩
  have below : ∀ other ∈ table.rows.takeWhile fun other => (other key).toInt < (row key).toInt,
      (other key).toInt < (row key).toInt := by
    intro other otherMem
    have taken := List.mem_takeWhile_imp otherMem
    exact of_decide_eq_true taken
  have above : ∀ other ∈ table.rows.dropWhile fun other => (other key).toInt < (row key).toInt,
      (row key).toInt < (other key).toInt := by
    cases rest : table.rows.dropWhile fun other => (other key).toInt < (row key).toInt with
    | nil => exact fun other otherMem => absurd otherMem List.not_mem_nil
    | cons first more =>
        have firstMem : first ∈ table.rows := by
          rw [← whole, rest]
          exact List.mem_append_right _ List.mem_cons_self
        have stops : ¬(first key).toInt < (row key).toInt := by
          have head := List.head?_dropWhile_not
            (fun other : Row ColumnName => decide ((other key).toInt < (row key).toInt)) table.rows
          rw [rest] at head
          exact of_decide_eq_false (by simpa using head)
        have least : (row key).toInt < (first key).toInt := by
          have apart := fresh first firstMem
          omega
        rw [rest, List.pairwise_cons] at behind
        intro other otherMem
        rcases List.mem_cons.mp otherMem with rfl | later
        · exact least
        · have := behind.1 other later
          omega
  rw [found, List.pairwise_append, List.pairwise_cons]
  refine ⟨before, ⟨above, behind⟩, fun first firstMem second secondMem => ?_⟩
  rcases List.mem_cons.mp secondMem with rfl | later
  · exact below first firstMem
  · exact across first firstMem second later

theorem Lawful.insert (lawful : table.Lawful) {cells : Cells ColumnName}
    (inserted : table.insert cells = some after) : after.Lawful := by
  rcases insert_eq_some inserted with ⟨row, keyed, admitted, rfl⟩
  rcases lawful.keyed keyed with ⟨others, keys⟩
  refine ⟨?_, ?_, ?_, ?_⟩
  · intro other otherMem
    rcases mem_place.mp otherMem with rfl | old
    · exact admitted
    · exact lawful.admitted other old
  · intro other otherMem name absent
    rcases mem_place.mp otherMem with rfl | old
    · rw [others, Schema.row_of_absent absent]
      intro present
      rw [Schema.has_key present] at absent
      cases absent
    · exact lawful.absent other old name absent
  · intro key present other otherMem
    rcases mem_place.mp otherMem with rfl | old
    · rcases keys key present with ⟨value, integer, _⟩
      exact ⟨value, integer⟩
    · exact lawful.keys key present other old
  · intro key present
    rcases keys key present with ⟨value, integer, fresh⟩
    refine ascending_place present (lawful.ascending key present) fun other otherMem => ?_
    rw [integer]
    exact fresh other otherMem

theorem Lawful.insertAll (lawful : table.Lawful) {cells : List (Cells ColumnName)}
    (inserted : table.insertAll cells = some after) : after.Lawful := by
  induction cells generalizing table with
  | nil =>
      cases inserted
      exact lawful
  | cons first rest ih =>
      rcases Option.bind_eq_some_iff.mp inserted with ⟨middle, one, more⟩
      exact ih (lawful.insert one) more

end Table

section Related

variable {First Second Third : Type*}

theorem forall₂_comp {before : First → Second → Prop} {after : Second → Third → Prop}
    {whole : First → Third → Prop}
    (compose : ∀ first second third, before first second → after second third →
      whole first third)
    {firsts : List First} {seconds : List Second} {thirds : List Third}
    (befores : List.Forall₂ before firsts seconds) (afters : List.Forall₂ after seconds thirds) :
    List.Forall₂ whole firsts thirds := by
  induction befores generalizing thirds with
  | nil =>
      cases afters
      exact .nil
  | cons related _ ih =>
      cases afters with
      | cons relates others => exact .cons (compose _ _ _ related relates) (ih others)

theorem forall₂_mem {relation : First → Second → Prop} {firsts : List First}
    {seconds : List Second} (related : List.Forall₂ relation firsts seconds) :
    List.Forall₂ (fun first second => first ∈ firsts ∧ second ∈ seconds ∧ relation first second)
      firsts seconds := by
  induction related with
  | nil => exact .nil
  | cons head _ ih =>
      refine .cons ⟨List.mem_cons_self, List.mem_cons_self, head⟩ (ih.imp ?_)
      rintro first second ⟨firstMem, secondMem, relates⟩
      exact ⟨List.mem_cons_of_mem _ firstMem, List.mem_cons_of_mem _ secondMem, relates⟩

theorem exists_of_forall₂ {relation : First → Second → Prop} {firsts : List First}
    {seconds : List Second} (related : List.Forall₂ relation firsts seconds) {second : Second}
    (secondMem : second ∈ seconds) : ∃ first ∈ firsts, relation first second := by
  induction related with
  | nil => cases secondMem
  | cons head _ ih =>
      rcases List.mem_cons.mp secondMem with rfl | later
      · exact ⟨_, List.mem_cons_self, head⟩
      · rcases ih later with ⟨first, firstMem, relates⟩
        exact ⟨first, List.mem_cons_of_mem _ firstMem, relates⟩

theorem map_eq_of_forall₂ {relation : First → Second → Prop} {ofFirst : First → Third}
    {ofSecond : Second → Third}
    (same : ∀ first second, relation first second → ofFirst first = ofSecond second)
    {firsts : List First} {seconds : List Second}
    (related : List.Forall₂ relation firsts seconds) :
    firsts.map ofFirst = seconds.map ofSecond := by
  induction related with
  | nil => rfl
  | cons head _ ih => rw [List.map_cons, List.map_cons, same _ _ head, ih]

/-- Sorting by what the relation keeps. -/
theorem forall₂_insertionSort {relation : First → Second → Prop} {precedes : First → First → Prop}
    {comesBefore : Second → Second → Prop} [DecidableRel precedes] [DecidableRel comesBefore]
    (keeps : ∀ first second other another, relation first other → relation second another →
      (precedes first second ↔ comesBefore other another))
    {firsts : List First} {seconds : List Second}
    (related : List.Forall₂ relation firsts seconds) :
    List.Forall₂ relation (firsts.insertionSort precedes) (seconds.insertionSort comesBefore) := by
  have inserts : ∀ {first second} {firsts : List First} {seconds : List Second},
      relation first second → List.Forall₂ relation firsts seconds →
        List.Forall₂ relation (firsts.orderedInsert precedes first)
          (seconds.orderedInsert comesBefore second) := by
    intro first second firsts seconds head tail
    induction tail with
    | nil => exact .cons head .nil
    | cons next others ih =>
        rw [List.orderedInsert, List.orderedInsert]
        split
        · rename_i before
          rw [if_pos ((keeps _ _ _ _ head next).mp before)]
          exact .cons head (.cons next others)
        · rename_i behind
          rw [if_neg fun before => behind ((keeps _ _ _ _ head next).mpr before)]
          exact .cons next ih
  induction related with
  | nil => exact .nil
  | cons head _ ih => exact inserts head ih

end Related

/-- The cells name columns of the table, and their row satisfies its constraints. -/
structure Schema.Accepts (schema : Schema ColumnName) (cells : Cells ColumnName) : Prop where
  named : cells.all fun cell => schema.has cell.1
  admitted : ∀ column ∈ schema.columns, column.admits (schema.row cells column.name)

/-- The key may be any integer. -/
def Schema.AnyKey (schema : Schema ColumnName) : Prop :=
  ∀ key ∈ schema.key, ∀ column ∈ schema.columns, column.name = key →
    ∀ value, column.admits (.integer value)

namespace Table

variable {table : Table ColumnName}

/-- A row without a key is given the next one. -/
theorem Lawful.insert_unkeyed (lawful : table.Lawful) {cells : Cells ColumnName}
    (anyKey : table.schema.AnyKey) (accepts : table.schema.Accepts cells)
    (unkeyed : ∀ key ∈ table.schema.key, table.schema.row cells key = .null) :
    ∃ row, table.insert cells = some { table with rows := table.rows ++ [row] } ∧
      ∀ name, name ∉ table.schema.key → row name = table.schema.row cells name := by
  have assigned : ∃ row, table.keyed (table.schema.row cells) = some row ∧
      ∀ key ∈ table.schema.key, row key = .integer (table.nextKey key) := by
    rw [Table.keyed]
    split
    · rename_i absent
      exact ⟨_, rfl, fun key present => by cases absent.symm.trans present⟩
    · rename_i key present
      rw [unkeyed key present]
      refine ⟨_, rfl, ?_⟩
      rintro other same
      cases present.symm.trans same
      exact Row.set_same _ key _
  rcases assigned with ⟨row, keyed, key⟩
  have others := (lawful.keyed keyed).1
  refine ⟨row, ?_, others⟩
  have admitted : table.schema.columns.all fun column => column.admits (row column.name) := by
    rw [List.all_eq_true]
    intro column columnMem
    by_cases present : column.name ∈ table.schema.key
    · rw [key _ present]
      exact anyKey _ present column columnMem rfl _
    · rw [others _ present]
      exact accepts.admitted column columnMem
  rw [Table.insert, if_pos accepts.named, keyed, Option.bind_some, if_pos admitted,
    place_of_largest]
  intro name present other otherMem
  rw [key name present]
  exact lawful.lt_nextKey present otherMem

theorem Lawful.insertAll_unkeyed (lawful : table.Lawful) {cells : List (Cells ColumnName)}
    (anyKey : table.schema.AnyKey) (accepts : ∀ row ∈ cells, table.schema.Accepts row)
    (unkeyed : ∀ row ∈ cells, ∀ key ∈ table.schema.key, table.schema.row row key = .null) :
    ∃ rows, table.insertAll cells = some { table with rows := table.rows ++ rows } ∧
      List.Forall₂
        (fun row cells => ∀ name, name ∉ table.schema.key → row name = table.schema.row cells name)
        rows cells := by
  induction cells generalizing table with
  | nil => exact ⟨[], by rw [List.append_nil]; rfl, .nil⟩
  | cons first rest ih =>
      rcases lawful.insert_unkeyed anyKey (accepts first List.mem_cons_self)
        (unkeyed first List.mem_cons_self) with ⟨row, inserted, same⟩
      rcases ih (lawful.insert inserted) anyKey
        (fun other otherMem => accepts other (List.mem_cons_of_mem _ otherMem))
        (fun other otherMem => unkeyed other (List.mem_cons_of_mem _ otherMem)) with
        ⟨rows, more, sames⟩
      refine ⟨row :: rows, ?_, .cons same sames⟩
      rw [Table.insertAll, inserted, Option.bind_some, more, List.append_assoc]
      rfl

/-- The rows of another table, as they are selected and given keys. -/
theorem Lawful.insertSelect_unkeyed (lawful : table.Lawful) {sources : List (Row ColumnName)}
    {select : Row ColumnName → Cells ColumnName} (anyKey : table.schema.AnyKey)
    (accepts : ∀ source ∈ sources, table.schema.Accepts (select source))
    (unkeyed : ∀ source, ∀ key ∈ table.schema.key, table.schema.row (select source) key = .null) :
    ∃ rows, table.insertAll (sources.map select) =
        some { table with rows := table.rows ++ rows } ∧
      List.Forall₂
        (fun source row => source ∈ sources ∧ row ∈ rows ∧
          ∀ name, name ∉ table.schema.key → row name = table.schema.row (select source) name)
        sources rows := by
  have accepted : ∀ cells ∈ sources.map select, table.schema.Accepts cells := by
    intro cells cellsMem
    rcases List.mem_map.mp cellsMem with ⟨source, sourceMem, rfl⟩
    exact accepts source sourceMem
  have free : ∀ cells ∈ sources.map select, ∀ key ∈ table.schema.key,
      table.schema.row cells key = .null := by
    intro cells cellsMem
    rcases List.mem_map.mp cellsMem with ⟨source, _, rfl⟩
    exact unkeyed source
  rcases lawful.insertAll_unkeyed anyKey accepted free with ⟨rows, inserted, same⟩
  exact ⟨rows, inserted, forall₂_mem (List.forall₂_map_right_iff.mp same).flip⟩

/-- A row whose key is larger than every other is inserted as it is. -/
theorem insert_keyed {cells : Cells ColumnName} (accepts : table.schema.Accepts cells)
    (given : ∀ key ∈ table.schema.key, ∃ value, table.schema.row cells key = .integer value)
    (largest : ∀ key ∈ table.schema.key, ∀ other ∈ table.rows,
      (other key).toInt < (table.schema.row cells key).toInt) :
    table.insert cells =
      some { table with rows := table.rows ++ [table.schema.row cells] } := by
  have keyed : table.keyed (table.schema.row cells) = some (table.schema.row cells) := by
    rw [Table.keyed]
    split
    · rfl
    · rename_i key present
      rcases given key present with ⟨value, integer⟩
      rw [integer]
      refine if_neg fun taken => ?_
      rcases List.any_eq_true.mp taken with ⟨other, otherMem, same⟩
      have below := largest key present other otherMem
      rw [of_decide_eq_true same, integer] at below
      exact absurd below (Int.lt_irrefl _)
  rw [Table.insert, if_pos accepts.named, keyed, Option.bind_some,
    if_pos (List.all_eq_true.mpr accepts.admitted), place_of_largest largest]

theorem insertAll_keyed {cells : List (Cells ColumnName)}
    (accepts : ∀ row ∈ cells, table.schema.Accepts row)
    (given : ∀ row ∈ cells, ∀ key ∈ table.schema.key,
      ∃ value, table.schema.row row key = .integer value)
    (ascending : ∀ key ∈ table.schema.key,
      (table.rows ++ cells.map table.schema.row).Pairwise fun first second =>
        (first key).toInt < (second key).toInt) :
    table.insertAll cells =
      some { table with rows := table.rows ++ cells.map table.schema.row } := by
  induction cells generalizing table with
  | nil =>
      rw [List.map_nil, List.append_nil]
      rfl
  | cons first rest ih =>
      have inserted := insert_keyed (accepts first List.mem_cons_self)
        (given first List.mem_cons_self) fun key present other otherMem =>
          (List.pairwise_append.mp (ascending key present)).2.2 other otherMem _
            List.mem_cons_self
      have sorted : ∀ key ∈ table.schema.key,
          (table.rows ++ [table.schema.row first] ++ rest.map table.schema.row).Pairwise
            fun first second => (first key).toInt < (second key).toInt := by
        intro key present
        rw [List.append_assoc]
        exact ascending key present
      have more : ({ table with rows := table.rows ++ [table.schema.row first] } :
          Table ColumnName).insertAll rest = some
            { table with
              rows := table.rows ++ [table.schema.row first] ++ rest.map table.schema.row } :=
        ih (fun other otherMem => accepts other (List.mem_cons_of_mem _ otherMem))
          (fun other otherMem => given other (List.mem_cons_of_mem _ otherMem)) sorted
      rw [Table.insertAll, inserted, Option.bind_some, more, List.append_assoc]
      rfl

theorem Lawful.renameColumn (lawful : table.Lawful) {before after : ColumnName}
    {renamed : Table ColumnName} (renames : table.renameColumn before after = some renamed) :
    renamed.Lawful := by
  simp only [Table.renameColumn, Option.dite_none_right_eq_some, Option.ite_none_right_eq_some,
    Bool.and_eq_true, Bool.not_eq_true', Option.some.injEq] at renames
  rcases renames with ⟨unkeyed, ⟨present, fresh⟩, rfl⟩
  have apart : after ≠ before := by
    rintro rfl
    rw [present] at fresh
    cases fresh
  have unchanged : ∀ row : Row ColumnName, ∀ name, name ≠ before → name ≠ after →
      row.rename before after name = row name := by
    intro row name other another
    rw [Row.rename, Row.set_of_ne _ other, Row.set_of_ne _ another]
  have elsewhere : ∀ name, table.schema.has name = true → name ≠ after := by
    rintro name has rfl
    rw [fresh] at has
    cases has
  refine ⟨?_, ?_, ?_, ?_⟩
  · intro row rowMem column columnMem
    rcases List.mem_map.mp rowMem with ⟨old, oldMem, rfl⟩
    rcases List.mem_map.mp columnMem with ⟨source, sourceMem, rfl⟩
    have admitted := lawful.admitted old oldMem source sourceMem
    rw [Column.rename]
    split
    · rename_i same
      rw [same] at admitted
      rw [Row.rename, Row.set_of_ne _ apart, Row.set_same]
      exact admitted
    · rename_i other
      rw [unchanged old _ other (elsewhere _ (Schema.has_iff.mpr ⟨source, sourceMem, rfl⟩))]
      exact admitted
  · intro row rowMem name absent
    rcases List.mem_map.mp rowMem with ⟨old, oldMem, rfl⟩
    by_cases same : name = before
    · rw [same]
      exact Row.set_same _ before _
    · have unnamed : ∀ column ∈ table.schema.columns,
          (column.rename before after).name ≠ name := by
        intro column columnMem named
        have has := Schema.has_iff.mpr
          (⟨_, List.mem_map_of_mem columnMem, named⟩ :
            ∃ other ∈ (table.schema.rename before after unkeyed).columns, other.name = name)
        rw [absent] at has
        cases has
      rcases Schema.has_iff.mp present with ⟨column, columnMem, named⟩
      have another : name ≠ after := by
        rintro rfl
        refine unnamed column columnMem ?_
        rw [Column.rename, if_pos named]
      rw [unchanged old name same another]
      refine lawful.absent old oldMem name ?_
      cases has : table.schema.has name with
      | false => rfl
      | true =>
          rcases Schema.has_iff.mp has with ⟨other, otherMem, rfl⟩
          exact absurd (by rw [Column.rename, if_neg same]) (unnamed other otherMem)
  · intro key keyed row rowMem
    rcases List.mem_map.mp rowMem with ⟨old, oldMem, rfl⟩
    rw [unchanged old key (fun same => unkeyed (same ▸ keyed))
      (elsewhere key (Schema.has_key keyed))]
    exact lawful.keys key keyed old oldMem
  · intro key keyed
    have kept : ∀ row : Row ColumnName, row.rename before after key = row key := fun row =>
      unchanged row key (fun same => unkeyed (same ▸ keyed)) (elsewhere key (Schema.has_key keyed))
    rw [List.pairwise_map]
    simp only [kept]
    exact lawful.ascending key keyed

theorem Lawful.addColumn (lawful : table.Lawful) {column : Column ColumnName}
    {widened : Table ColumnName} (adds : table.addColumn column = some widened) :
    widened.Lawful := by
  simp only [Table.addColumn, Option.ite_none_right_eq_some, Bool.and_eq_true,
    Bool.not_eq_true', Option.some.injEq] at adds
  rcases adds with ⟨⟨fresh, admitted⟩, rfl⟩
  have elsewhere : ∀ name, table.schema.has name = true → name ≠ column.name := by
    rintro name has rfl
    rw [fresh] at has
    cases has
  refine ⟨?_, ?_, ?_, ?_⟩
  · intro row rowMem other otherMem
    rcases List.mem_map.mp rowMem with ⟨old, oldMem, rfl⟩
    rcases List.mem_append.mp otherMem with kept | added
    · rw [Row.set_of_ne _ (elsewhere _ (Schema.has_iff.mpr ⟨other, kept, rfl⟩))]
      exact lawful.admitted old oldMem other kept
    · rw [List.mem_singleton.mp added, Row.set_same]
      exact admitted
  · intro row rowMem name absent
    rcases List.mem_map.mp rowMem with ⟨old, oldMem, rfl⟩
    simp only [Schema.has, Schema.add, List.any_append, List.any_cons, List.any_nil,
      Bool.or_false, Bool.or_eq_false_iff, decide_eq_false_iff_not] at absent
    rw [Row.set_of_ne _ (Ne.symm absent.2)]
    exact lawful.absent old oldMem name absent.1
  · intro key keyed row rowMem
    rcases List.mem_map.mp rowMem with ⟨old, oldMem, rfl⟩
    rw [Row.set_of_ne _ (elsewhere key (Schema.has_key keyed))]
    exact lawful.keys key keyed old oldMem
  · intro key keyed
    rw [List.pairwise_map]
    simp only [Row.set_of_ne _ (elsewhere key (Schema.has_key keyed))]
    exact lawful.ascending key keyed

end Table

end Sqlite
