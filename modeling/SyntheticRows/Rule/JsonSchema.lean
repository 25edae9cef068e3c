import SyntheticRows.Json.Value
/-!
What a configuration looks like, told as a JSON schema.
-/

namespace SyntheticRows.RulesConfig

open Json

/-- The draft of the schema language. -/
def schemaDraft : String :=
  "http:" ++ "//json-schema.org/draft-07/schema#"

def schemaDescription : String :=
  "Per-table generation rules, keyed by table name.\n\n" ++
    "```yaml rules: users: num: 5 columns: email: email status: oneof[active%80, banned%20] ```"

def columnsSchema : Json :=
  object [
    ("description",
      string "Column name to rule string (e.g. `int(1,100)`, `constant[x]`)."),
    ("default", object []),
    ("type", string "object"),
    ("additionalProperties", object [("type", string "string")])]

def rowsSchema : Json :=
  object [
    ("description", string "Rows to generate; 0 skips the table."),
    ("default", natural 0),
    ("type", string "integer"),
    ("format", string "uint64"),
    ("minimum", decimal "0.0")]

def tableSchema : Json :=
  object [
    ("description", string "Row count and column rule strings for one table."),
    ("type", string "object"),
    ("properties", object [("columns", columnsSchema), ("num", rowsSchema)])]

def tablesSchema : Json :=
  object [
    ("default", object []),
    ("type", string "object"),
    ("additionalProperties", object [("$ref", string "#/definitions/TableRule")])]

/-- The schema of a configuration. -/
def jsonSchema : Json :=
  object [
    ("$schema", string schemaDraft),
    ("title", string "RulesConfig"),
    ("description", string schemaDescription),
    ("type", string "object"),
    ("properties", object [("rules", tablesSchema)]),
    ("definitions", object [("TableRule", tableSchema)])]

end SyntheticRows.RulesConfig
