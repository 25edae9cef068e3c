import SyntheticRows.Dependency.Report
import SyntheticRows.Json.Record
/-!
What became of each table.
-/

namespace SyntheticRows

inductive TableStatus where
  | completed
  /-- No rows were requested. -/
  | skipped
  /-- Rows inserted before the failure are kept. -/
  | aborted (reason : String)
  deriving DecidableEq, Repr

structure TableReport where
  table : String
  rowsRequested : UInt64
  rowsInserted : UInt64
  rowsFailed : UInt64
  status : TableStatus
  deriving DecidableEq, Repr

def TableReport.isAborted (report : TableReport) : Bool :=
  match report.status with
  | .aborted _ => true
  | _ => false

structure PopulationReport where
  /-- The tables in the order in which they were filled. -/
  order : List String
  missing : List MissingDependency
  tables : List TableReport
  deriving DecidableEq, Repr

namespace PopulationReport

def rowsInserted (report : PopulationReport) : UInt64 :=
  report.tables.foldl (fun total table => total + table.rowsInserted) 0

def rowsFailed (report : PopulationReport) : UInt64 :=
  report.tables.foldl (fun total table => total + table.rowsFailed) 0

def abortedTables (report : PopulationReport) : List TableReport :=
  report.tables.filter (·.isAborted)

def table? (report : PopulationReport) (name : String) : Option TableReport :=
  report.tables.find? (·.table == name)

end PopulationReport

open Json

def TableStatus.toFields : TableStatus → List (String × Json)
  | completed => [("status", string "completed")]
  | skipped => [("status", string "skipped")]
  | aborted reason => [("status", string "aborted"), ("reason", string reason)]

def TableReport.toDocument (report : TableReport) : Json :=
  object ([("table", string report.table), ("rows_requested", natural report.rowsRequested.toNat),
    ("rows_inserted", natural report.rowsInserted.toNat),
    ("rows_failed", natural report.rowsFailed.toNat)] ++ report.status.toFields)

def PopulationReport.toDocument (report : PopulationReport) : Json :=
  object [("order", strings report.order),
    ("missing_dependencies", array (report.missing.map MissingDependency.toDocument)),
    ("tables", array (report.tables.map TableReport.toDocument))]

/-- The name of a status, which a document may also give by its place in the list. -/
def TableStatus.name? : Json → Option String
  | string name => some name
  | integer place => if 0 ≤ place then ["completed", "skipped", "aborted"][place.toNat]? else none
  | _ => none

def TableStatus.abortedOf? (value : Json) : Option TableStatus := do
  match ← objectRecord? [["reason"]] value with
  | [some reason] => aborted <$> reason.string?
  | _ => none

/-- The status stands among the fields of a table report. -/
def TableStatus.ofDocument? (value : Json) : Option TableStatus := do
  match ← objectRecord? [["status"]] value with
  | [some status] => do
      match ← name? status with
      | "completed" => some completed
      | "skipped" => some skipped
      | "aborted" => abortedOf? value
      | _ => none
  | _ => none

def TableReport.ofDocument? (value : Json) : Option TableReport := do
  match ← objectRecord? [["table"], ["rows_requested"], ["rows_inserted"], ["rows_failed"]]
      value with
  | [some table, some rowsRequested, some rowsInserted, some rowsFailed] => do
      let table ← table.string?
      let rowsRequested ← unsigned64? rowsRequested
      let rowsInserted ← unsigned64? rowsInserted
      let rowsFailed ← unsigned64? rowsFailed
      let status ← TableStatus.ofDocument? value
      some { table, rowsRequested, rowsInserted, rowsFailed, status }
  | _ => none

def MissingDependency.ofDocument? (value : Json) : Option MissingDependency := do
  match ← record? [["table"], ["dependency"]] 2 value with
  | [some table, some dependency] => do
      let table ← table.string?
      let dependency ← dependency.string?
      some { table, dependency }
  | _ => none

def PopulationReport.ofDocument? (value : Json) : Option PopulationReport := do
  match ← record? [["order"], ["missing_dependencies"], ["tables"]] 3 value with
  | [some order, some missing, some tables] => do
      let order ← list? string? order
      let missing ← list? MissingDependency.ofDocument? missing
      let tables ← list? TableReport.ofDocument? tables
      some { order, missing, tables }
  | _ => none

end SyntheticRows
