import SyntheticRows.Plan.Basic
import SyntheticRows.Plan.Error
/-!
Where a foreign key draws its values from.
-/

namespace SyntheticRows

structure ReferenceKey where
  table : String
  column : String
  deriving DecidableEq, Repr

/-- The first key column of the first table of a name. -/
def keyColumnOf? (tables : List PlannedTable) (name : String) : Option String := do
  let table ← tables.find? (·.name == name)
  table.primaryKey.head?

/-- The key that a foreign key references: the recorded column, else the first one of the primary
key of the referenced table. -/
def resolveReference (table : PlannedTable) (column : PlannedColumn) (tables : List PlannedTable) :
    Except GenerationError ReferenceKey :=
  match column.column.references.filter (!·.table.isEmpty) with
  | none => .error (.missingReferenceTable table.name column.name)
  | some reference =>
      match reference.column <|> keyColumnOf? tables reference.table with
      | none => .error (.missingReferenceKey table.name column.name reference.table)
      | some key => .ok { table := reference.table, column := key }

end SyntheticRows
