import SyntheticRows.NameMap
import SyntheticRows.Plan.Basic
import SyntheticRows.Store.Basic
/-!
A row store that keeps its rows. Like the sequences of a database, it numbers the rows of a table
from one, and gives the number to each key or generated column that an insert leaves out.
-/

namespace SyntheticRows

/-- The values of a row under the names of their columns. -/
abbrev Row := NameMap String

structure MemoryTable where
  columns : List String
  /-- The columns that get the number of the row. -/
  sequenceColumns : List String
  nextId : Nat
  rows : Array Row
  deriving DecidableEq

namespace MemoryTable

def isSequenceColumn (table : PlannedTable) (column : PlannedColumn) : Bool :=
  column.column.autoGenerated || table.isPrimaryKey column.name

def ofTable (table : PlannedTable) : MemoryTable :=
  { columns := table.columns.map (·.name)
    sequenceColumns := (table.columns.filter (isSequenceColumn table)).map (·.name)
    nextId := 1
    rows := #[] }

/-- The row of the given values, if the table has their columns. -/
def bind (table : MemoryTable) (name : String) :
    List ColumnBinding → List String → Row → Except StoreError Row
  | binding :: bindings, value :: values, row =>
      if table.columns.contains binding.name then
        table.bind name bindings values (row.insert binding.name value)
      else .error (.rejected s!"column {binding.name} does not exist in {name}")
  | _, _, row => .ok row

/-- Gives the number of the row to the sequence columns that have no value. -/
def number (table : MemoryTable) (row : Row) : Row :=
  table.sequenceColumns.foldl (fun row column => row.insertIfNew column (toString table.nextId)) row

def append (table : MemoryTable) (row : Row) : MemoryTable :=
  { table with nextId := table.nextId + 1, rows := table.rows.push row }

def insert (table : MemoryTable) (name : String) (bindings : List ColumnBinding)
    (values : List String) : Except StoreError MemoryTable :=
  if bindings.length ≠ values.length then
    .error (.rejected s!"{bindings.length} columns but {values.length} values")
  else do
    let row ← table.bind name bindings values .empty
    .ok (table.append (table.number row))

/-- The values of a column in the order of the rows; rows without one are left out. -/
def values (table : MemoryTable) (column : String) : List String :=
  table.rows.toList.filterMap (·.get? column)

end MemoryTable

structure MemoryStore where
  tables : NameMap MemoryTable
  deriving DecidableEq

namespace MemoryStore

def empty : MemoryStore :=
  { tables := .empty }

/-- Adds an empty table, in place of one of the same name. -/
def register (store : MemoryStore) (table : PlannedTable) : MemoryStore :=
  { store with tables := store.tables.insert table.name (.ofTable table) }

def ofTables (tables : List PlannedTable) : MemoryStore :=
  tables.foldl register empty

def rows (store : MemoryStore) (table : String) : List Row :=
  match store.tables.get? table with
  | none => []
  | some table => table.rows.toList

def insertRow (table : String) (bindings : List ColumnBinding) (values : List String)
    (store : MemoryStore) (stream : RandomStream) : StoreReply MemoryStore Unit :=
  let inserted : Except StoreError MemoryTable := match store.tables.get? table with
    | none => .error (.unknownTable table)
    | some found => found.insert table bindings values
  match inserted with
  | .error cause => { answer := .error cause, store, stream, events := [] }
  | .ok changed =>
      { answer := .ok ()
        store := { store with tables := store.tables.insert table changed }
        stream
        events := [] }

/-- A column without values is answered without a draw. -/
def sampleKey (table column : String) (store : MemoryStore) (stream : RandomStream) :
    StoreReply MemoryStore (Option String) :=
  match store.tables.get? table with
  | none => { answer := .error (.unknownTable table), store, stream, events := [] }
  | some found =>
      if !found.columns.contains column then
        { answer := .error (.query s!"column {column} does not exist in {table}")
          store, stream, events := [] }
      else match found.values column with
        | [] => { answer := .ok none, store, stream, events := [] }
        | values =>
            let (value, stream) := Draw.pickText values stream
            { answer := .ok (some value), store, stream, events := [] }

def rowStore : RowStore MemoryStore :=
  { insertRow := insertRow, sampleKey := sampleKey }

end MemoryStore

end SyntheticRows
