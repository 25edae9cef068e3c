import SyntheticRows.Population.DryRun
import SyntheticRows.Proofs.Population.Blocks
/-!
# Recording calls does not change a run

A store that holds another one and answers as that one does leads to the same run, up to what it
holds besides. So the calls that a recording store notes are the calls of the run over the store
itself, and they fall into one block for each table.
-/

namespace SyntheticRows

variable {σ τ : Type}

def StoreReply.mapStore {α : Type} (f : σ → τ) (reply : StoreReply σ α) : StoreReply τ α :=
  { reply with store := f reply.store }

def Progress.mapStore (f : σ → τ) (progress : Progress σ) : Progress τ :=
  { progress with store := f progress.store }

/-- The outer store answers as the inner one does on the part of its state that the map keeps. -/
structure RowStore.Projects (f : σ → τ) (outer : RowStore σ) (inner : RowStore τ) : Prop where
  insertRow : ∀ table bindings values state stream,
    (outer.insertRow table bindings values state stream).mapStore f =
      inner.insertRow table bindings values (f state) stream
  sampleKey : ∀ table column state stream,
    (outer.sampleKey table column state stream).mapStore f =
      inner.sampleKey table column (f state) stream

theorem RowStore.recording_projects (store : RowStore σ) :
    RowStore.Projects Prod.fst store.recording store :=
  ⟨fun _ _ _ _ _ => rfl, fun _ _ _ _ => rfl⟩

theorem RowStore.Projects.trans {υ : Type} {f : σ → τ} {g : τ → υ} {outer : RowStore σ}
    {middle : RowStore τ} {inner : RowStore υ} (h : outer.Projects f middle)
    (h' : middle.Projects g inner) : outer.Projects (g ∘ f) inner := by
  constructor
  · intro table bindings values state stream
    rw [Function.comp_apply, ← h'.insertRow, ← h.insertRow]
    rfl
  · intro table column state stream
    rw [Function.comp_apply, ← h'.sampleKey, ← h.sampleKey]
    rfl

namespace Population

variable {f : σ → τ} {outer : RowStore σ} {inner : RowStore τ}

theorem columnValue_mapStore (h : outer.Projects f inner) (table column : String)
    (source : ValueSource) (progress : Progress σ) :
    columnValue inner table column source (progress.mapStore f) =
      (columnValue outer table column source progress).map id (Progress.mapStore f) := by
  cases source with
  | generated generator => rfl
  | referenced key =>
      have hreply := h.sampleKey key.table key.column progress.store progress.stream
      unfold columnValue
      simp only [Progress.mapStore, ← hreply]
      rcases outer.sampleKey key.table key.column progress.store progress.stream with
        ⟨_ | _ | _, _, _, _⟩ <;> rfl

theorem rowValues_mapStore (h : outer.Projects f inner) (table : String)
    (sources : List (String × ValueSource)) (progress : Progress σ) :
    rowValues inner table sources (progress.mapStore f) =
      (rowValues outer table sources progress).map id (Progress.mapStore f) := by
  induction sources generalizing progress with
  | nil => rfl
  | cons entry sources ih =>
      unfold rowValues
      rw [columnValue_mapStore h]
      rcases columnValue outer table entry.1 entry.2 progress with ⟨_ | value, middle⟩
      · rfl
      · simp only [Prod.map_apply, id, ih]
        rcases rowValues outer table sources middle with ⟨_ | rest, last⟩ <;> rfl

theorem insertValues_mapStore (h : outer.Projects f inner) (table : String)
    (bindings : List ColumnBinding) (row : Nat) (values : List String) (tally : Tally)
    (progress : Progress σ) :
    insertValues inner table bindings row values tally (progress.mapStore f) =
      (insertValues outer table bindings row values tally progress).map id
        (Progress.mapStore f) := by
  have hreply := h.insertRow table bindings values progress.store progress.stream
  unfold insertValues
  simp only [Progress.mapStore, ← hreply]
  rcases outer.insertRow table bindings values progress.store progress.stream with
    ⟨_ | _, _, _, _⟩ <;> rfl

theorem attemptRows_mapStore (h : outer.Projects f inner) (table : String)
    (bindings : List ColumnBinding) (sources : List (String × ValueSource)) (remaining row : Nat)
    (tally : Tally) (progress : Progress σ) :
    attemptRows inner table bindings sources remaining row tally (progress.mapStore f) =
      (attemptRows outer table bindings sources remaining row tally progress).map id
        (Prod.map id (Progress.mapStore f)) := by
  induction remaining generalizing row tally progress with
  | zero => rfl
  | succ remaining ih =>
      unfold attemptRows
      rw [rowValues_mapStore h]
      rcases rowValues outer table sources progress with ⟨_ | values, middle⟩
      · rfl
      · simp only [Prod.map_apply, id, insertValues_mapStore h]
        rcases insertValues outer table bindings row values tally middle with ⟨tally, next⟩
        exact ih (row + 1) tally next

theorem insertRows_mapStore (h : outer.Projects f inner) (table : PlannedTable)
    (tables : List PlannedTable) (progress : Progress σ) :
    insertRows inner table tables (progress.mapStore f) =
      (insertRows outer table tables progress).map id (Prod.map id (Progress.mapStore f)) := by
  cases hsources : table.insertColumns.mapM (·.source table tables) with
  | error cause => simp only [insertRows, hsources]; rfl
  | ok sources => simp only [insertRows, hsources, attemptRows_mapStore h]

theorem populateTable_mapStore (h : outer.Projects f inner) (tables : List PlannedTable)
    (table : PlannedTable) (progress : Progress σ) :
    populateTable inner tables table (progress.mapStore f) =
      (populateTable outer tables table progress).map id (Progress.mapStore f) := by
  unfold populateTable
  by_cases hrows : table.rows = 0
  · simp only [if_pos hrows]
    rfl
  · simp only [if_neg hrows]
    have hinsert := insertRows_mapStore h table tables
      (progress.report (.populatingTable table.name table.rows))
    have hreport : (progress.mapStore f).report (.populatingTable table.name table.rows) =
        (progress.report (.populatingTable table.name table.rows)).mapStore f := rfl
    rw [hreport, hinsert]
    rcases insertRows outer table tables
      (progress.report (.populatingTable table.name table.rows)) with ⟨_ | _, _, _⟩ <;> rfl

theorem populateAll_mapStore (h : outer.Projects f inner) (tables rest : List PlannedTable)
    (progress : Progress σ) :
    populateAll inner tables rest (progress.mapStore f) =
      (populateAll outer tables rest progress).map id (Progress.mapStore f) := by
  induction rest generalizing progress with
  | nil => rfl
  | cons table rest ih =>
      unfold populateAll
      rw [populateTable_mapStore h]
      rcases populateTable outer tables table progress with ⟨report, middle⟩
      simp only [Prod.map_apply, id, ih]
      rfl

theorem reportMissing_mapStore (missing : List MissingDependency) (progress : Progress σ) :
    reportMissing missing (progress.mapStore f) = (reportMissing missing progress).mapStore f := by
  induction missing generalizing progress with
  | nil => rfl
  | cons entry missing ih =>
      exact ih (progress.report (.missingDependency entry.table entry.dependency))

/-- A run over a store inside another one ends as the run over the outer one does. -/
theorem run_mapStore (h : outer.Projects f inner) (policy : MissingPolicy)
    (tables : List PlannedTable) (progress : Progress σ) :
    run inner policy tables (progress.mapStore f) =
      (run outer policy tables progress).map id (Progress.mapStore f) := by
  cases hordered : topologicalOrder PlannedTable.node tables policy with
  | error cause => simp only [run, hordered]; rfl
  | ok ordered =>
      have hstart : (reportMissing ordered.missing (progress.mapStore f)).report
          (.populationStarted ordered.items.length (ordered.items.map (·.name))) =
          ((reportMissing ordered.missing progress).report
            (.populationStarted ordered.items.length (ordered.items.map (·.name)))).mapStore f := by
        rw [reportMissing_mapStore]
        rfl
      simp only [run, hordered, runOrdered, hstart, populateAll_mapStore h]
      rfl

/-- Tables that can be ordered are filled in that order, with one block of calls for each. The calls
are those that a recording store notes in a run that is otherwise the run over the store itself. -/
theorem run_calls_form_blocks {σ : Type} (store : RowStore σ) (policy : MissingPolicy)
    (tables : List PlannedTable) (ordered : DependencyOrder PlannedTable)
    (h : topologicalOrder PlannedTable.node tables policy = .ok ordered) (progress : Progress σ) :
    ∃ report after calls blocks,
      run store policy tables progress = (.ok report, after) ∧
      run store.recording policy tables
          ⟨(progress.store, #[]), progress.stream, progress.events⟩ =
        (.ok report, ⟨(after.store, calls), after.stream, after.events⟩) ∧
      report.order = ordered.items.map (·.name) ∧
      List.Forall₂ (TableBlock ordered.items) ordered.items blocks ∧
      Trace store progress.world blocks.flatten after.world ∧
      calls.toList = blocks.flatten.filterMap Step.call? := by
  let start : Progress (σ × Array StoreCall) :=
    ⟨(progress.store, #[]), progress.stream, progress.events⟩
  obtain ⟨report, ⟨⟨state, calls⟩, stream, events⟩, blocks, hrun, horder, hblocks, htrace⟩ :=
    trace_run h store.recording start
  obtain ⟨htrace, hcalls⟩ := RowStore.trace_of_trace_recording htrace
  have hinner : run store policy tables progress = (.ok report, ⟨state, stream, events⟩) := by
    have hmap := run_mapStore store.recording_projects policy tables start
    rw [hrun] at hmap
    exact hmap
  exact ⟨report, ⟨state, stream, events⟩, calls, blocks, hinner, hrun, horder, hblocks, htrace,
    by simpa using hcalls⟩

/-- A store that gives one key and refuses all rows: the first attempt at an order samples and
inserts, the second one ends at its sample. -/
theorem run_calls_form_blocks_of_orders :
    let store : RowStore Nat :=
      { insertRow := fun _ _ _ count stream => ⟨.error (.rejected "full"), count, stream, []⟩
        sampleKey := fun _ _ count stream =>
          ⟨.ok (if count = 0 then some "7" else none), count + 1, stream, []⟩ }
    let column : PlannedColumn :=
      .ofColumn ⟨"user_id", "integer", .plain .integer, true, some ⟨"users", some "id"⟩, false⟩
    let orders : PlannedTable := ⟨"orders", [column], [], ["users"], 3⟩
    let final := run store.recording .skip [orders] (.start (0, #[]) (.ofSeed 0))
    topologicalOrder PlannedTable.node [orders] .skip = .ok ⟨[orders], [⟨"orders", "users"⟩]⟩ ∧
      final.2.store.2.toList =
        [.sample "users" "id", .insert "orders" [⟨"user_id", "integer"⟩] ["7"],
          .sample "users" "id"] ∧
      ∃ blocks, List.Forall₂ (TableBlock [orders]) [orders] blocks ∧
        final.2.store.2.toList = blocks.flatten.filterMap Step.call? := by
  intro store column orders final
  have h : topologicalOrder PlannedTable.node [orders] .skip =
      .ok ⟨[orders], [⟨"orders", "users"⟩]⟩ := by rfl
  obtain ⟨report, after, calls, blocks, _, hrun, _, hblocks, _, hcalls⟩ :=
    run_calls_form_blocks store .skip [orders] _ h (.start 0 (.ofSeed 0))
  have hfinal : final.2.store.2 = calls := congrArg (·.2.store.2) hrun
  exact ⟨h, by rfl, blocks, hblocks, by rw [hfinal, hcalls]⟩

end Population

end SyntheticRows
