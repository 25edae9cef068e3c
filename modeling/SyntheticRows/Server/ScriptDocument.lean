import SyntheticRows.Catalog.Document
import SyntheticRows.Rule.Config
import SyntheticRows.Server.Script
/-!
Server scripts as JSON documents. A field that is left out is empty. An error for an unknown kind
of statement or for an insert that has no number is ignored: no statement would meet it.
-/

namespace SyntheticRows

open Json

def StatementKind.name : StatementKind → String
  | database => "database"
  | tables => "tables"
  | columns => "columns"
  | primaryKey => "primary_key"
  | foreignKeys => "foreign_keys"
  | insert => "insert"
  | sample => "sample"

def StatementKind.all : List StatementKind :=
  [database, tables, columns, primaryKey, foreignKeys, insert, sample]

def StatementKind.ofName? (name : String) : Option StatementKind :=
  all.find? (·.name == name)

def Parameter.toDocument : Parameter → Json
  | text value => string value
  | flag value => bool value

namespace ServerScript

/-- A text, null for no row, or an object with a message for a failure. -/
def sampleOf? : Json → Option (Except String (Option String))
  | null => some (.ok none)
  | string value => some (.ok (some value))
  | value => do
      let message ← (← value.field? "error").string?
      some (.error message)

def insertErrorOf? (entry : String × String) : Option (Nat × String) :=
  (Text.natural? entry.1.toList).map (·, entry.2)

def kindErrorOf? (entry : String × String) : Option (StatementKind × String) :=
  (StatementKind.ofName? entry.1).map (·, entry.2)

def field? {α : Type} (decode : Json → Option α) (default : α) (document : Json) (name : String) :
    Option α :=
  defaulted? decode default (document.field? name)

def ofDocument? (document : Json) : Option ServerScript := do
  let insertErrors ← field? (entries? string?) [] document "insert_errors"
  let errors ← field? (entries? string?) [] document "errors"
  some {
    database := ← field? string? "" document "database"
    tables := ← field? (list? string?) [] document "tables"
    columns := ← field? (nameMap? (list? CatalogColumn.ofDocument?)) .empty document "columns"
    primaryKeys := ← field? (nameMap? (list? string?)) .empty document "primary_keys"
    foreignKeys :=
      ← field? (nameMap? (list? CatalogForeignKey.ofDocument?)) .empty document "foreign_keys"
    samples := ← field? (list? sampleOf?) [] document "samples"
    insertErrors := insertErrors.filterMap insertErrorOf?
    errors := errors.filterMap kindErrorOf?
    refusal := ← nullable? string? (document.field? "refuse") }

end ServerScript

end SyntheticRows
