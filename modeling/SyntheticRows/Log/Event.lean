import SyntheticRows.Json.Value
import SyntheticRows.Text.Quoted
/-!
What a run reports while it goes on. Each event has a level, fields and, for most, a message.
-/

namespace SyntheticRows

inductive LogLevel where
  | error
  | warn
  | info
  | debug
  | trace
  deriving DecidableEq, Repr

def LogLevel.name : LogLevel → String
  | error => "ERROR"
  | warn => "WARN"
  | info => "INFO"
  | debug => "DEBUG"
  | trace => "TRACE"

/-- What a row store reports. -/
inductive StoreEvent where
  | sampling (table column : String)
  deriving DecidableEq, Repr

inductive Event where
  | unknownTable (table : String)
  | unknownColumn (table column : String)
  | foreignKeyRule (table column : String)
  | idleRule (table column : String)
  | rulesApplied (table : String) (rows : UInt64)
  | missingDependency (table dependency : String)
  | nothingRequested (table : String)
  | tableAborted (table : String) (rowsInserted : Nat) (error : String)
  | rowFailed (table : String) (row : Nat) (error : String)
  | tableDiscovered (table : String) (columns foreignKeys : Nat)
  | store (event : StoreEvent)
  | runStarted (engine : String) (seed : UInt64) (dryRun : Bool) (path : String)
  | rulesLoaded (path : String) (tables : Nat)
  | introspectionStarted (engine namespaceName : String)
  | schemaDiscovered (database namespaceName : String) (tables : Nat)
  | introspectionFinished (tables : Nat)
  | populationStarted (tables : Nat) (order : List String)
  | populatingTable (table : String) (rows : UInt64)
  | tablePopulated (table : String) (rowsRequested rowsInserted rowsFailed : UInt64)
  | populationFinished (rowsInserted rowsFailed : UInt64) (tablesAborted : Nat)
  | tableExported (table : String) (rows bytes : Nat) (path : String)
  | dryRunExported (files : Nat) (directory : String)
  | reportWritten (path : String)
  | abortedTable (table : String) (rowsInserted rowsRequested : UInt64)
  | runFinished (rowsInserted rowsFailed : UInt64)
  deriving DecidableEq, Repr

namespace Event

def level : Event → LogLevel
  | unknownTable _ | unknownColumn _ _ | foreignKeyRule _ _ | missingDependency _ _
  | tableAborted _ _ _ | rowFailed _ _ _ | abortedTable _ _ _ => .warn
  | idleRule _ _ | rulesApplied _ _ | nothingRequested _ | tableDiscovered _ _ _ | store _ => .debug
  | _ => .info

def message? : Event → Option String
  | unknownTable _ => some "rules reference unknown table; skipping"
  | unknownColumn _ _ => some "rule references unknown column; skipping"
  | foreignKeyRule _ _ =>
      some "foreign key values are sampled from the referenced table; rule ignored"
  | idleRule _ _ => some "column is not inserted; rule has no effect"
  | rulesApplied _ _ => some "rules applied"
  | missingDependency _ _ =>
      some "dependency is not a discovered table; treating it as satisfied"
  | nothingRequested _ => some "no rows requested; skipping"
  | tableAborted _ _ _ | abortedTable _ _ _ => some "table population aborted"
  | rowFailed _ _ _ => some "row insert failed"
  | tableDiscovered _ _ _ => some "table discovered"
  | store (.sampling _ _) => some "sampling referenced key"
  | schemaDiscovered _ _ _ => some "schema discovered"
  | populationStarted _ _ => some "populating tables"
  | populatingTable _ _ => some "populating table"
  | tablePopulated _ _ _ _ => some "table populated"
  | populationFinished _ _ _ => some "population finished"
  | tableExported _ _ _ _ => some "table exported"
  | _ => none

/-- The name of an event that tools look for. -/
def label? : Event → Option String
  | runStarted _ _ _ _ => some "run_started"
  | rulesLoaded _ _ => some "rules_loaded"
  | introspectionStarted _ _ => some "introspection_started"
  | introspectionFinished _ => some "introspection_finished"
  | populationStarted _ _ => some "population_start"
  | populationFinished _ _ _ => some "population_finished"
  | tableExported _ _ _ _ => some "csv_written"
  | dryRunExported _ _ => some "dry_run_exported"
  | reportWritten _ => some "report_written"
  | runFinished _ _ => some "run_finished"
  | _ => none

open Json

def word (value : UInt64) : Json :=
  natural value.toNat

/-- The fields beside the label and the message. -/
def details : Event → List (String × Json)
  | unknownTable table => [("table", string table)]
  | unknownColumn table column | foreignKeyRule table column | idleRule table column
  | store (.sampling table column) => [("table", string table), ("column", string column)]
  | rulesApplied table rows => [("table", string table), ("rows", word rows)]
  | missingDependency table dependency =>
      [("table", string table), ("dependency", string dependency)]
  | nothingRequested table => [("table", string table)]
  | tableAborted table rowsInserted error =>
      [("table", string table), ("rows_inserted", natural rowsInserted), ("error", string error)]
  | rowFailed table row error =>
      [("table", string table), ("row", natural row), ("error", string error)]
  | tableDiscovered table columns foreignKeys =>
      [("table", string table), ("columns", natural columns), ("foreign_keys", natural foreignKeys)]
  | runStarted engine seed dryRun path =>
      [("engine", string engine), ("seed", word seed), ("dry_run", bool dryRun),
        ("run_path", string path)]
  | rulesLoaded path tables => [("path", string path), ("tables", natural tables)]
  | introspectionStarted engine namespaceName =>
      [("engine", string engine), ("namespace", string namespaceName)]
  | schemaDiscovered database namespaceName tables =>
      [("database", string database), ("namespace", string namespaceName),
        ("tables", natural tables)]
  | introspectionFinished tables => [("tables", natural tables)]
  | populationStarted tables order =>
      [("tables", natural tables), ("order", string (Text.visibleList order))]
  | populatingTable table rows => [("table", string table), ("rows", word rows)]
  | tablePopulated table rowsRequested rowsInserted rowsFailed =>
      [("table", string table), ("rows_requested", word rowsRequested),
        ("rows_inserted", word rowsInserted), ("rows_failed", word rowsFailed)]
  | populationFinished rowsInserted rowsFailed tablesAborted =>
      [("rows_inserted", word rowsInserted), ("rows_failed", word rowsFailed),
        ("tables_aborted", natural tablesAborted)]
  | tableExported table rows bytes path =>
      [("table", string table), ("rows", natural rows), ("bytes", natural bytes),
        ("path", string path)]
  | dryRunExported files directory => [("files", natural files), ("dir", string directory)]
  | reportWritten path => [("path", string path)]
  | abortedTable table rowsInserted rowsRequested =>
      [("table", string table), ("rows_inserted", word rowsInserted),
        ("rows_requested", word rowsRequested)]
  | runFinished rowsInserted rowsFailed =>
      [("status", string "success"), ("rows_inserted", word rowsInserted),
        ("rows_failed", word rowsFailed)]

/-- All fields, the label and the message among them. -/
def fields (event : Event) : List (String × Json) :=
  (event.message?.map fun message => ("message", string message)).toList ++
    (event.label?.map fun label => ("event", string label)).toList ++ event.details

def toDocument (event : Event) : Json :=
  object [("level", string event.level.name), ("fields", object event.fields)]

end Event

end SyntheticRows
