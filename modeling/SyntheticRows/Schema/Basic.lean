import SyntheticRows.ColumnType.Basic
/-!
The tables of one namespace of a database, as discovery records them.
-/

namespace SyntheticRows

/-- What a foreign key points at. The column is absent if discovery does not know it. -/
structure Reference where
  table : String
  column : Option String
  deriving DecidableEq, Repr

structure Column where
  name : String
  /-- The type as the database declares it. -/
  rawType : String
  type : ColumnType
  isForeignKey : Bool
  references : Option Reference
  /-- A sequence, an identity or an expression fills the column. -/
  autoGenerated : Bool
  deriving DecidableEq, Repr

/-- Inserts must supply a value. -/
def Column.isInsertable (column : Column) : Bool :=
  !column.autoGenerated && column.type.isInsertable

structure Table where
  name : String
  /-- In the order of their declaration. -/
  columns : List Column
  /-- In the order of the key. -/
  primaryKey : List String
  /-- The tables whose keys this table's foreign keys hold. -/
  dependsOn : List String
  deriving DecidableEq, Repr

namespace Table

def column? (table : Table) (name : String) : Option Column :=
  table.columns.find? (·.name == name)

def isPrimaryKey (table : Table) (column : String) : Bool :=
  table.primaryKey.contains column

end Table

structure Schema where
  engine : String
  database : Option String
  namespaceName : String
  tables : List Table
  deriving DecidableEq, Repr

def Schema.table? (schema : Schema) (name : String) : Option Table :=
  schema.tables.find? (·.name == name)

end SyntheticRows
