import SyntheticRows.Catalog.Basic
import SyntheticRows.ColumnType.Parser
import SyntheticRows.Schema.Basic
import SyntheticRows.Text.Cut
/-!
Tables of a schema from what the catalog says. A column whose declared type cannot be read makes
the whole table fail.
-/

namespace SyntheticRows

open Text

namespace CatalogColumn

def isSequenceDefault (expression : String) : Bool :=
  (after? "nextval(".toList (trimStart expression.toList)).isSome

/-- A sequence fills the column. -/
def usesSequence (column : CatalogColumn) : Bool :=
  column.default.any isSequenceDefault

/-- A sequence turns an integer column into a serial one. -/
def typeOf (column : CatalogColumn) (declared : ColumnType) : ColumnType :=
  if column.usesSequence then declared.asSerial else declared

end CatalogColumn

/-- The name of the referenced table. A table of another namespace keeps its namespace in front. -/
def CatalogForeignKey.referencedName (namespaceName : String) (key : CatalogForeignKey) : String :=
  if key.referencedSchema = namespaceName then key.referencedTable
  else s!"{key.referencedSchema}.{key.referencedTable}"

namespace CatalogTable

/-- What a column points at: the first of its foreign keys counts. -/
def reference? (namespaceName : String) (table : CatalogTable) (column : String) :
    Option Reference :=
  (table.foreignKeys.find? (·.column == column)).map fun key =>
    { table := key.referencedName namespaceName, column := some key.referencedColumn }

def toColumn (namespaceName : String) (table : CatalogTable) (column : CatalogColumn) :
    Except ColumnTypeError Column := do
  let declared ← ColumnType.parse column.declaredType
  let references := table.reference? namespaceName column.name
  pure {
    name := column.name
    rawType := column.declaredType
    type := column.typeOf declared
    isForeignKey := references.isSome
    references
    autoGenerated := column.usesSequence || column.isIdentity || column.isGenerated }

/-- Each referenced table once, in the order of the foreign keys. -/
def dependsOn (namespaceName : String) (table : CatalogTable) : List String :=
  (table.foreignKeys.map (·.referencedName namespaceName)).eraseDups

def toTable (namespaceName : String) (table : CatalogTable) : Except ColumnTypeError Table := do
  let columns ← table.columns.mapM (table.toColumn namespaceName)
  pure {
    name := table.name
    columns
    primaryKey := table.primaryKey
    dependsOn := table.dependsOn namespaceName }

end CatalogTable

end SyntheticRows
