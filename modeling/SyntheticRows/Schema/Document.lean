import SyntheticRows.ColumnType.Document
import SyntheticRows.Json.Printer
import SyntheticRows.Schema.Basic
/-!
Schemas as documents.
-/

namespace SyntheticRows

open Json

def Reference.toDocument (reference : Reference) : Json :=
  object [("table", string reference.table), ("column", optional string reference.column)]

def Column.toDocument (column : Column) : Json :=
  object [("name", string column.name), ("raw_type", string column.rawType),
    ("semantic_type", column.type.toDocument), ("is_foreign_key", bool column.isForeignKey),
    ("references", optional Reference.toDocument column.references),
    ("auto_generated", bool column.autoGenerated)]

def Table.toDocument (table : Table) : Json :=
  object [("name", string table.name), ("columns", array (table.columns.map Column.toDocument)),
    ("primary_key", strings table.primaryKey), ("depends_on", strings table.dependsOn)]

def Schema.toDocument (schema : Schema) : Json :=
  object [("engine", string schema.engine), ("database", optional string schema.database),
    ("namespace", string schema.namespaceName), ("tables", array (schema.tables.map Table.toDocument))]

def Reference.ofDocument? (value : Json) : Option Reference := do
  match ← record? [["table"], ["column"]] 2 value with
  | [some table, column] => do
      let table ← table.string?
      let column ← nullable? string? column
      some { table, column }
  | _ => none

def Column.ofDocument? (value : Json) : Option Column := do
  match ← record? [["name"], ["raw_type"], ["semantic_type"], ["is_foreign_key"], ["references"],
      ["auto_generated"]] 5 value with
  | [some name, some rawType, some type, some isForeignKey, references, autoGenerated] => do
      let name ← name.string?
      let rawType ← rawType.string?
      let type ← ColumnType.ofDocument? type
      let isForeignKey ← isForeignKey.bool?
      let references ← nullable? Reference.ofDocument? references
      let autoGenerated ← defaulted? bool? false autoGenerated
      some { name, rawType, type, isForeignKey, references, autoGenerated }
  | _ => none

def Table.ofDocument? (value : Json) : Option Table := do
  match ← record? [["name"], ["columns"], ["primary_key"], ["depends_on"]] 4 value with
  | [some name, some columns, some primaryKey, some dependsOn] => do
      let name ← name.string?
      let columns ← list? Column.ofDocument? columns
      let primaryKey ← list? string? primaryKey
      let dependsOn ← list? string? dependsOn
      some { name, columns, primaryKey, dependsOn }
  | _ => none

def Schema.ofDocument? (value : Json) : Option Schema := do
  match ← record? [["engine"], ["database"], ["namespace"], ["tables"]] 4 value with
  | [some engine, database, some namespaceName, some tables] => do
      let engine ← engine.string?
      let database ← nullable? string? database
      let namespaceName ← namespaceName.string?
      let tables ← list? Table.ofDocument? tables
      some { engine, database, namespaceName, tables }
  | _ => none

end SyntheticRows
