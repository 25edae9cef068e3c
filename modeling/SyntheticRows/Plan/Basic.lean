import SyntheticRows.Dependency.Order
import SyntheticRows.Generator.Basic
import SyntheticRows.Schema.Basic
/-!
Tables with a generator for each column and a number of rows.
-/

namespace SyntheticRows

/-- Changes the first element that passes a test. -/
def updateFirst {α : Type} (test : α → Bool) (change : α → α) : List α → List α
  | [] => []
  | item :: items =>
      if test item then change item :: items else item :: updateFirst test change items

structure PlannedColumn where
  column : Column
  generator : Producer

structure PlannedTable where
  name : String
  columns : List PlannedColumn
  primaryKey : List String
  dependsOn : List String
  /-- How many rows are to be inserted. -/
  rows : UInt64

namespace PlannedColumn

def name (column : PlannedColumn) : String :=
  column.column.name

/-- A column whose values follow from its type. -/
def ofColumn (column : Column) : PlannedColumn :=
  { column, generator := (Generator.ofType column.type).producer }

end PlannedColumn

namespace PlannedTable

/-- A table that gets no rows yet. -/
def ofTable (table : Table) : PlannedTable :=
  { name := table.name, columns := table.columns.map .ofColumn, primaryKey := table.primaryKey,
    dependsOn := table.dependsOn, rows := 0 }

def column? (table : PlannedTable) (name : String) : Option PlannedColumn :=
  table.columns.find? (·.name == name)

def isPrimaryKey (table : PlannedTable) (column : String) : Bool :=
  table.primaryKey.contains column

/-- An insert names the column and supplies its value. -/
def inserts (table : PlannedTable) (column : PlannedColumn) : Bool :=
  column.column.isInsertable && !table.isPrimaryKey column.name

def insertColumns (table : PlannedTable) : List PlannedColumn :=
  table.columns.filter table.inserts

def node (table : PlannedTable) : DependencyNode :=
  { name := table.name, dependsOn := table.dependsOn }

/-- Gives the first column of a name another generator. -/
def setGenerator (table : PlannedTable) (name : String) (generator : Producer) : PlannedTable :=
  { table with
    columns := updateFirst (·.name == name) (fun column => { column with generator })
      table.columns }

end PlannedTable

def planTables (schema : Schema) : List PlannedTable :=
  schema.tables.map .ofTable

end SyntheticRows
