/-!
What the catalog of a database says about a table.
-/

namespace SyntheticRows

structure CatalogColumn where
  name : String
  /-- The declared type with its parameters. -/
  declaredType : String
  /-- The expression that fills the column where an insert leaves it out. -/
  default : Option String
  isIdentity : Bool
  /-- The column is computed from other columns. -/
  isGenerated : Bool
  deriving DecidableEq, Repr

/-- One pair of columns of a foreign key. -/
structure CatalogForeignKey where
  constraint : String
  column : String
  referencedSchema : String
  referencedTable : String
  referencedColumn : String
  deriving DecidableEq, Repr

structure CatalogTable where
  name : String
  /-- In the order of their declaration. -/
  columns : List CatalogColumn
  /-- In the order of the key. -/
  primaryKey : List String
  foreignKeys : List CatalogForeignKey
  deriving DecidableEq, Repr

end SyntheticRows
