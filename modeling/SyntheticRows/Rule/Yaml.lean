import SyntheticRows.NamedFields
import SyntheticRows.Rule.Config
import SyntheticRows.Yaml.Reader
/-!
Configurations in YAML. Unlike in other formats a record is always a mapping, a number without
quotes is also a text, and where nothing is written there is an empty mapping.
-/

namespace SyntheticRows

open Yaml

namespace Yaml.Node

/-- The known fields of a record. -/
def record? (names : List (List String)) (node : Node) : Option (List (Option Node)) := do
  let entries ← node.entries?
  knownFields? names entries

/-- The last of several values of one name stays. -/
def nameMap? {α : Type} (decode : Node → Option α) (node : Node) : Option (NameMap α) := do
  let entries ← node.entries?
  let decoded ← entries.mapM fun entry => (decode entry.2).map (entry.1, ·)
  some (.ofList decoded)

def defaulted? {α : Type} (decode : Node → Option α) (default : α) : Option Node → Option α
  | none => some default
  | some node => decode node

end Yaml.Node

def TableRule.ofYaml? (node : Node) : Option TableRule := do
  match ← node.record? [["num", "rows"], ["columns"]] with
  | [rows, columns] => do
      let rows ← Node.defaulted? Node.unsigned64? 0 rows
      let columns ← Node.defaulted? (Node.nameMap? Node.text?) .empty columns
      some { rows, columns }
  | _ => none

def RulesConfig.ofYaml? (node : Node) : Option RulesConfig := do
  match ← node.record? [["rules"]] with
  | [tables] => do
      let tables ← Node.defaulted? (Node.nameMap? TableRule.ofYaml?) .empty tables
      some { tables }
  | _ => none

end SyntheticRows
