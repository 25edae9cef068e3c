import SyntheticRows.Json.Record
import SyntheticRows.NameMap
/-!
The configuration of a run: how many rows each table gets and which rules its columns follow.
-/

namespace SyntheticRows

structure TableRule where
  /-- No rows leave the table as it is. -/
  rows : UInt64
  columns : NameMap String
  deriving DecidableEq

structure RulesConfig where
  tables : NameMap TableRule
  deriving DecidableEq

namespace RulesConfig

def empty : RulesConfig :=
  { tables := .empty }

def table? (config : RulesConfig) (name : String) : Option TableRule :=
  config.tables.get? name

end RulesConfig

open Json

def TableRule.toDocument (rule : TableRule) : Json :=
  object [("num", natural rule.rows.toNat), ("columns", object (rule.columns.toFields string))]

def RulesConfig.toDocument (config : RulesConfig) : Json :=
  object [("rules", object (config.tables.toFields TableRule.toDocument))]

def nameMap? {α : Type} (decode : Json → Option α) (value : Json) : Option (NameMap α) := do
  let entries ← entries? decode value
  some (.ofList entries)

/-- The number of rows may be called `num` or `rows`. -/
def TableRule.ofDocument? (value : Json) : Option TableRule := do
  match ← record? [["num", "rows"], ["columns"]] 0 value with
  | [rows, columns] => do
      let rows ← defaulted? unsigned64? 0 rows
      let columns ← defaulted? (nameMap? string?) .empty columns
      some { rows, columns }
  | _ => none

def RulesConfig.ofDocument? (value : Json) : Option RulesConfig := do
  match ← record? [["rules"]] 0 value with
  | [tables] => do
      let tables ← defaulted? (nameMap? TableRule.ofDocument?) .empty tables
      some { tables }
  | _ => none

end SyntheticRows
