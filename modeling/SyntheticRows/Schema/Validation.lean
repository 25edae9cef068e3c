import SyntheticRows.Schema.Basic
/-!
The consistency of a schema: names are not repeated, only foreign keys have references, and primary
keys name columns of their table. The first violation in the order of the tables is reported; for
a table that order is its name, its columns, its key.
-/

namespace SyntheticRows

inductive SchemaFault where
  | duplicateTable (namespaceName table : String)
  | duplicateColumn (namespaceName table column : String)
  | strayReference (namespaceName table column : String)
  | missingKeyColumn (namespaceName table key : String)
  deriving DecidableEq, Repr

def SchemaFault.message : SchemaFault → String
  | duplicateTable namespaceName table => s!"duplicate table name: {namespaceName}.{table}"
  | duplicateColumn namespaceName table column => s!"duplicate column name: {namespaceName}.{table}.{column}"
  | strayReference namespaceName table column =>
      s!"column {namespaceName}.{table}.{column} has a reference but is not a foreign key"
  | missingKeyColumn namespaceName table key => s!"primary key column not found: {namespaceName}.{table}.{key}"

namespace Schema

/-- Checks columns in order; `seen` holds the names of the columns before them. -/
def checkColumns (namespaceName table : String) : (seen : List String) → List Column →
    Except SchemaFault Unit
  | _, [] => .ok ()
  | seen, column :: columns =>
      if seen.contains column.name then .error (.duplicateColumn namespaceName table column.name)
      else if !column.isForeignKey && column.references.isSome then
        .error (.strayReference namespaceName table column.name)
      else checkColumns namespaceName table (column.name :: seen) columns

def checkKeys (namespaceName : String) (table : Table) : List String → Except SchemaFault Unit
  | [] => .ok ()
  | key :: keys =>
      if table.columns.any (·.name == key) then checkKeys namespaceName table keys
      else .error (.missingKeyColumn namespaceName table.name key)

/-- Checks tables in order; `seen` holds the names of the tables before them. -/
def checkTables (namespaceName : String) : (seen : List String) → List Table → Except SchemaFault Unit
  | _, [] => .ok ()
  | seen, table :: tables =>
      if seen.contains table.name then .error (.duplicateTable namespaceName table.name)
      else do
        checkColumns namespaceName table.name [] table.columns
        checkKeys namespaceName table table.primaryKey
        checkTables namespaceName (table.name :: seen) tables

def validate (schema : Schema) : Except SchemaFault Unit :=
  checkTables schema.namespaceName [] schema.tables

end Schema

end SyntheticRows
