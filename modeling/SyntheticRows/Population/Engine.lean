import SyntheticRows.Plan.Reference
import SyntheticRows.Population.Report
import SyntheticRows.Store.Basic
/-!
Filling tables through a row store. Tables are taken in dependency order. A row that the store
refuses is counted and the next one is tried; a foreign key without a value to take ends its table.
-/

namespace SyntheticRows

/-- The state of a run: the store, the random stream and what has been reported. -/
structure Progress (σ : Type) where
  store : σ
  stream : RandomStream
  events : Array Event

namespace Progress

variable {σ : Type}

def report (progress : Progress σ) (event : Event) : Progress σ :=
  { progress with events := progress.events.push event }

/-- The state behind an answer of the store. -/
def afterReply {α : Type} (progress : Progress σ) (reply : StoreReply σ α) : Progress σ :=
  { store := reply.store
    stream := reply.stream
    events := progress.events ++ (reply.events.map Event.store).toArray }

def draw {α : Type} (progress : Progress σ) (draw : Draw α) : α × Progress σ :=
  let (value, stream) := draw progress.stream
  (value, { progress with stream })

end Progress

/-- Where the values of a column come from. -/
inductive ValueSource where
  | generated (generator : Producer)
  | referenced (key : ReferenceKey)

/-- How many rows were inserted and how many were refused. -/
structure Tally where
  inserted : Nat
  failed : Nat
  deriving DecidableEq, Repr

namespace PlannedColumn

def binding (column : PlannedColumn) : ColumnBinding :=
  { name := column.name, sqlType := column.column.rawType }

/-- The source of a column's values, with the name of the column. -/
def source (column : PlannedColumn) (table : PlannedTable) (tables : List PlannedTable) :
    Except GenerationError (String × ValueSource) :=
  if column.column.isForeignKey then
    (resolveReference table column tables).map fun key => (column.name, .referenced key)
  else .ok (column.name, .generated column.generator)

end PlannedColumn

namespace Population

variable {σ : Type}

/-- One value for a column. -/
def columnValue (store : RowStore σ) (table column : String) (source : ValueSource)
    (progress : Progress σ) : Except GenerationError String × Progress σ :=
  match source with
  | .generated generator =>
      let (value, progress) := progress.draw generator.draw
      (.ok value, progress)
  | .referenced key =>
      let reply := store.sampleKey key.table key.column progress.store progress.stream
      let progress := progress.afterReply reply
      match reply.answer with
      | .error cause => (.error (.store cause), progress)
      | .ok none => (.error (.noReferenceRows table column key.table), progress)
      | .ok (some value) => (.ok value, progress)

/-- One value for each column, up to the first column that has none. -/
def rowValues (store : RowStore σ) (table : String) : List (String × ValueSource) → Progress σ →
    Except GenerationError (List String) × Progress σ
  | [], progress => (.ok [], progress)
  | (column, source) :: sources, progress =>
      match columnValue store table column source progress with
      | (.error cause, progress) => (.error cause, progress)
      | (.ok value, progress) =>
          match rowValues store table sources progress with
          | (.error cause, progress) => (.error cause, progress)
          | (.ok values, progress) => (.ok (value :: values), progress)

/-- Hands a row to the store; `row` is its number from zero on. -/
def insertValues (store : RowStore σ) (table : String) (bindings : List ColumnBinding) (row : Nat)
    (values : List String) (tally : Tally) (progress : Progress σ) : Tally × Progress σ :=
  let reply := store.insertRow table bindings values progress.store progress.stream
  let progress := progress.afterReply reply
  match reply.answer with
  | .ok () => ({ tally with inserted := tally.inserted + 1 }, progress)
  | .error cause =>
      ({ tally with failed := tally.failed + 1 },
        progress.report (.rowFailed table row cause.message))

/-- Tries rows in turn, from the number `row` on, up to the first one without values. -/
def attemptRows (store : RowStore σ) (table : String) (bindings : List ColumnBinding)
    (sources : List (String × ValueSource)) : (remaining row : Nat) → Tally → Progress σ →
    Except GenerationError Unit × Tally × Progress σ
  | 0, _, tally, progress => (.ok (), tally, progress)
  | remaining + 1, row, tally, progress =>
      match rowValues store table sources progress with
      | (.error cause, progress) => (.error cause, tally, progress)
      | (.ok values, progress) =>
          let (tally, progress) := insertValues store table bindings row values tally progress
          attemptRows store table bindings sources remaining (row + 1) tally progress

/-- Inserts the rows of a table. References are resolved before the first row. -/
def insertRows (store : RowStore σ) (table : PlannedTable) (tables : List PlannedTable)
    (progress : Progress σ) : Except GenerationError Unit × Tally × Progress σ :=
  let columns := table.insertColumns
  match columns.mapM (·.source table tables) with
  | .error cause => (.error cause, ⟨0, 0⟩, progress)
  | .ok sources =>
      attemptRows store table.name (columns.map (·.binding)) sources table.rows.toNat 0 ⟨0, 0⟩
        progress

def tableReport (table : PlannedTable) (tally : Tally) (status : TableStatus) : TableReport :=
  { table := table.name, rowsRequested := table.rows, rowsInserted := tally.inserted.toUInt64,
    rowsFailed := tally.failed.toUInt64, status }

/-- Fills one table; `tables` tells the keys of referenced tables. -/
def populateTable (store : RowStore σ) (tables : List PlannedTable) (table : PlannedTable)
    (progress : Progress σ) : TableReport × Progress σ :=
  if table.rows = 0 then
    (tableReport table ⟨0, 0⟩ .skipped, progress.report (.nothingRequested table.name))
  else
    let progress := progress.report (.populatingTable table.name table.rows)
    match insertRows store table tables progress with
    | (.error cause, tally, progress) =>
        (tableReport table tally (.aborted cause.message),
          progress.report (.tableAborted table.name tally.inserted cause.message))
    | (.ok (), tally, progress) =>
        let report := tableReport table tally .completed
        (report, progress.report
          (.tablePopulated table.name report.rowsRequested report.rowsInserted report.rowsFailed))

def populateAll (store : RowStore σ) (tables : List PlannedTable) : List PlannedTable →
    Progress σ → List TableReport × Progress σ
  | [], progress => ([], progress)
  | table :: rest, progress =>
      let (report, progress) := populateTable store tables table progress
      let (reports, progress) := populateAll store tables rest progress
      (report :: reports, progress)

def reportMissing (missing : List MissingDependency) (progress : Progress σ) : Progress σ :=
  missing.foldl (fun progress entry => progress.report
    (.missingDependency entry.table entry.dependency)) progress

/-- Fills the tables in an order that is known. -/
def runOrdered (store : RowStore σ) (ordered : DependencyOrder PlannedTable)
    (progress : Progress σ) : PopulationReport × Progress σ :=
  let tables := ordered.items
  let order := tables.map (·.name)
  let progress := (reportMissing ordered.missing progress).report
    (.populationStarted tables.length order)
  let (reports, progress) := populateAll store tables tables progress
  let report := { order, missing := ordered.missing, tables := reports }
  (report, progress.report
    (.populationFinished report.rowsInserted report.rowsFailed report.abortedTables.length))

/-- Fills all tables. Only an order that does not exist makes a run fail, and then the store is left
alone. -/
def run (store : RowStore σ) (policy : MissingPolicy) (tables : List PlannedTable)
    (progress : Progress σ) : Except GenerationError PopulationReport × Progress σ :=
  match topologicalOrder PlannedTable.node tables policy with
  | .error cause => (.error (.dependency cause), progress)
  | .ok ordered =>
      let (report, progress) := runOrdered store ordered progress
      (.ok report, progress)

end Population

end SyntheticRows
