import SyntheticRows.Catalog.Basic
import SyntheticRows.Json.Record
/-!
Catalog entries as JSON documents. A column is ordinary unless the document says otherwise.
-/

namespace SyntheticRows

open Json

def CatalogColumn.ofDocument? (value : Json) : Option CatalogColumn := do
  match ← record? [["name"], ["data_type"], ["default"], ["is_identity"], ["is_generated"]] 2
      value with
  | [some name, some declaredType, default, isIdentity, isGenerated] => do
      some {
        name := ← name.string?
        declaredType := ← declaredType.string?
        default := ← nullable? string? default
        isIdentity := ← defaulted? bool? false isIdentity
        isGenerated := ← defaulted? bool? false isGenerated }
  | _ => none

def CatalogForeignKey.ofDocument? (value : Json) : Option CatalogForeignKey := do
  match ← record? [["constraint"], ["column"], ["schema"], ["table"], ["referenced"]] 5 value with
  | [constraint, some column, some schema, some table, some referenced] => do
      some {
        constraint := ← defaulted? string? "" constraint
        column := ← column.string?
        referencedSchema := ← schema.string?
        referencedTable := ← table.string?
        referencedColumn := ← referenced.string? }
  | _ => none

def CatalogTable.ofDocument? (value : Json) : Option CatalogTable := do
  match ← record? [["name"], ["columns"], ["primary_key"], ["foreign_keys"]] 4 value with
  | [some name, some columns, some primaryKey, some foreignKeys] => do
      some {
        name := ← name.string?
        columns := ← list? CatalogColumn.ofDocument? columns
        primaryKey := ← list? string? primaryKey
        foreignKeys := ← list? CatalogForeignKey.ofDocument? foreignKeys }
  | _ => none

end SyntheticRows
