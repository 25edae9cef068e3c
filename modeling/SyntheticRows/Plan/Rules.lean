import SyntheticRows.Log.Event
import SyntheticRows.Plan.Basic
import SyntheticRows.Plan.Error
import SyntheticRows.Rule.Compiler
import SyntheticRows.Rule.Config
/-!
Applying a configuration to planned tables. Tables and columns are taken in the order of their
names. All rules of a table are compiled before any of them takes effect, so that a rule that fails
leaves its table as it was; tables before it keep their rules.
-/

namespace SyntheticRows

namespace PlannedTable

/-- What is said about a rule for a column whose values no generator supplies. -/
def ruleEvents (table : PlannedTable) (column : PlannedColumn) : List Event :=
  if column.column.isForeignKey then [.foreignKeyRule table.name column.name]
  else if table.inserts column then []
  else [.idleRule table.name column.name]

/-- Compiles the rules of a table; rules for columns that it does not have are left out. -/
def compileRules (table : PlannedTable) : List (String × String) →
    List Event × Except GenerationError (List (String × Generator))
  | [] => ([], .ok [])
  | (name, text) :: rules =>
      match table.column? name with
      | none =>
          let (events, compiled) := table.compileRules rules
          (.unknownColumn table.name name :: events, compiled)
      | some column =>
          match Rule.compile text with
          | .error cause => (table.ruleEvents column, .error (.rule table.name name text cause))
          | .ok generator =>
              let (events, compiled) := table.compileRules rules
              (table.ruleEvents column ++ events, compiled.map ((name, generator) :: ·))

/-- Sets the number of rows and the compiled generators. -/
def attach (table : PlannedTable) (rows : UInt64) (generators : List (String × Generator)) :
    PlannedTable :=
  generators.foldl (fun table entry => table.setGenerator entry.1 entry.2.producer)
    { table with rows }

end PlannedTable

/-- The planned tables after rules were applied. -/
structure AppliedRules where
  tables : List PlannedTable
  events : List Event
  outcome : Except GenerationError Unit

namespace AppliedRules

/-- Applies the rules of one table to the first table of the name. -/
def ofTable (tables : List PlannedTable) (name : String) (rule : TableRule) : AppliedRules :=
  match tables.find? (·.name == name) with
  | none => { tables, events := [.unknownTable name], outcome := .ok () }
  | some table =>
      match table.compileRules rule.columns.entries with
      | (events, .error cause) => { tables, events, outcome := .error cause }
      | (events, .ok generators) =>
          { tables := updateFirst (·.name == name) (·.attach rule.rows generators) tables
            events := events ++ [.rulesApplied name rule.rows]
            outcome := .ok () }

/-- Applies the rules of tables in turn, up to the first failure. -/
def ofTables (tables : List PlannedTable) : List (String × TableRule) → AppliedRules
  | [] => { tables, events := [], outcome := .ok () }
  | (name, rule) :: rules =>
      let first := ofTable tables name rule
      match first.outcome with
      | .error _ => first
      | .ok () =>
          let rest := ofTables first.tables rules
          { rest with events := first.events ++ rest.events }

end AppliedRules

def applyRules (tables : List PlannedTable) (config : RulesConfig) : AppliedRules :=
  .ofTables tables config.tables.entries

end SyntheticRows
