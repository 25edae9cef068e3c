import SyntheticRows.Proofs.Plan.IdleRules
import SyntheticRows.Proofs.Population.Oblivious
/-!
# Idle rules leave runs as they are

A run looks at a generator only to draw a value for a column that inserts name and that is no foreign
key. So it is the run for the tables with all other generators reset, whatever the store is, and
configurations that differ in idle rules lead to one and the same run.
-/

namespace SyntheticRows

variable {σ : Type}

namespace PlannedTable

theorem alike_resetIdle (table : PlannedTable) : table.resetIdle.Alike table :=
  ⟨table.toTable_resetIdle, rfl⟩

theorem insertColumns_resetIdle (table : PlannedTable) :
    table.resetIdle.insertColumns = table.insertColumns.map table.resetColumn := by
  have hinserts : ∀ column, table.resetIdle.inserts (table.resetColumn column) =
      table.inserts column := by
    intro column
    simp only [inserts, PlannedColumn.name, table.column_resetColumn]
    rfl
  have hcolumns : table.resetIdle.columns = table.columns.map table.resetColumn := rfl
  rw [insertColumns, hcolumns, List.filter_map, insertColumns]
  simp only [Function.comp_def, hinserts]

theorem map_toTable_resetIdle (tables : List PlannedTable) :
    (tables.map (·.resetIdle)).map (·.toTable) = tables.map (·.toTable) := by
  rw [List.map_map]
  exact List.map_congr_left fun table _ => table.toTable_resetIdle

/-- A generator that is reset is not the source of a column. -/
theorem source_resetColumn {table : PlannedTable} {column : PlannedColumn}
    (hinserts : table.inserts column = true) (tables : List PlannedTable) :
    (table.resetColumn column).source table.resetIdle (tables.map (·.resetIdle)) =
      column.source table tables := by
  have hcolumn := table.column_resetColumn column
  unfold PlannedColumn.source PlannedColumn.name
  rw [table.alike_resetIdle.resolveReference (map_toTable_resetIdle tables) hcolumn, hcolumn]
  cases hkey : column.column.isForeignKey with
  | true => rfl
  | false =>
      have hgenerates : table.generates column = true := by simp [generates, hinserts, hkey]
      rw [resetColumn, if_pos hgenerates]

theorem sources_resetIdle (table : PlannedTable) (tables : List PlannedTable) :
    (table.resetIdle.insertColumns.mapM fun column : PlannedColumn =>
        column.source table.resetIdle (tables.map (·.resetIdle))) =
      table.insertColumns.mapM fun column : PlannedColumn => column.source table tables := by
  rw [insertColumns_resetIdle]
  refine mapM_congr (List.forall₂_map_left_iff.mpr (List.forall₂_same.mpr fun column hmem => ?_))
  exact source_resetColumn (List.mem_filter.mp hmem).2 tables

end PlannedTable

namespace Population

open PlannedTable

theorem insertRows_resetIdle (store : RowStore σ) (table : PlannedTable)
    (tables : List PlannedTable) (progress : Progress σ) :
    insertRows store table.resetIdle (tables.map (·.resetIdle)) progress =
      insertRows store table tables progress := by
  unfold insertRows
  dsimp only
  rw [sources_resetIdle, table.alike_resetIdle.bindings]
  rfl

theorem populateTable_resetIdle (store : RowStore σ) (tables : List PlannedTable)
    (table : PlannedTable) (progress : Progress σ) :
    populateTable store (tables.map (·.resetIdle)) table.resetIdle progress =
      populateTable store tables table progress := by
  unfold populateTable
  simp only [insertRows_resetIdle]
  rfl

theorem populateAll_resetIdle (store : RowStore σ) (tables rest : List PlannedTable)
    (progress : Progress σ) :
    populateAll store (tables.map (·.resetIdle)) (rest.map (·.resetIdle)) progress =
      populateAll store tables rest progress := by
  induction rest generalizing progress with
  | nil => rfl
  | cons table rest ih => simp only [List.map_cons, populateAll, populateTable_resetIdle, ih]

theorem runOrdered_resetIdle (store : RowStore σ) (ordered : DependencyOrder PlannedTable)
    (progress : Progress σ) :
    runOrdered store { ordered with items := ordered.items.map (·.resetIdle) } progress =
      runOrdered store ordered progress := by
  have hnames : (ordered.items.map (·.resetIdle)).map (·.name) = ordered.items.map (·.name) :=
    List.map_map
  unfold runOrdered
  dsimp only
  rw [populateAll_resetIdle, hnames, List.length_map]

/-- A run is the run for the tables without what it does not look at. -/
theorem run_resetIdle (store : RowStore σ) (policy : MissingPolicy) (tables : List PlannedTable)
    (progress : Progress σ) :
    run store policy (tables.map (·.resetIdle)) progress = run store policy tables progress := by
  have hreset : List.Forall₂ (fun table other => table.resetIdle = other) tables
      (tables.map (·.resetIdle)) :=
    List.forall₂_map_right_iff.mpr (List.forall₂_same.mpr fun _ _ => rfl)
  have hnode : ∀ table other : PlannedTable, table.resetIdle = other → table.node = other.node := by
    rintro table _ rfl
    rfl
  rcases Dependency.topologicalOrder_forall₂ hreset hnode policy with
    ⟨cause, hcause, hcause'⟩ | ⟨ordered, ordered', hordered, hordered', hitems, hmissing⟩
  · rw [run_eq_error hcause, run_eq_error hcause']
  · have hsame : ordered' = { ordered with items := ordered.items.map (·.resetIdle) } := by
      obtain ⟨items, missing⟩ := ordered
      obtain ⟨items', missing'⟩ := ordered'
      obtain rfl : missing = missing' := hmissing
      have hmapped := map_eq_map_of_forall₂ hitems
      rw [List.map_id'] at hmapped
      rw [hmapped]
    rw [run_eq_runOrdered hordered, run_eq_runOrdered hordered', hsame, runOrdered_resetIdle]

/-- **Idle rules leave runs as they are.** Take two configurations that both apply and that differ
only in rules for foreign keys and for columns that inserts leave out. Runs with either one make the
same calls with the same values, draw the same from the random stream, and end with the same store
and the same report, over any store and from any state. -/
theorem run_independent_of_idle_rules {tables : List PlannedTable} {config config' : RulesConfig}
    (hdiffer : DifferInIdleRules tables config config')
    (hok : (applyRules tables config).outcome = .ok ())
    (hok' : (applyRules tables config').outcome = .ok ()) (policy : MissingPolicy) :
    let first := (applyRules tables config).tables
    let second := (applyRules tables config').tables
    (∀ (σ : Type) (store : RowStore σ) (progress : Progress σ),
      run store policy first progress = run store policy second progress ∧
      run store.recording policy first (progress.mapStore (·, #[])) =
        run store.recording policy second (progress.mapStore (·, #[]))) ∧
    ∀ stream, populateInMemory policy first stream = populateInMemory policy second stream := by
  intro first second
  have hreset : first.map (·.resetIdle) = second.map (·.resetIdle) :=
    hdiffer.map_resetIdle hok hok'
  have hrun : ∀ {σ : Type} (store : RowStore σ) (progress : Progress σ),
      run store policy first progress = run store policy second progress := by
    intro σ store progress
    rw [← run_resetIdle store policy first, hreset, run_resetIdle]
  refine ⟨fun σ store progress => ⟨hrun store progress, hrun store.recording _⟩, fun stream => ?_⟩
  have hfresh : MemoryStore.ofTables first = MemoryStore.ofTables second :=
    MemoryStore.ofTables_congr ((applyRules_toTable tables config).trans
      (applyRules_toTable tables config').symm)
  rw [populateInMemory, populateInMemory, hrun, hfresh]

/-- Idle are the rules for a key that is a sequence, for a foreign key and for text search. The
tables then have other generators, and the runs are the same. -/
theorem run_independent_of_idle_rules_of_orders :
    let users : Table :=
      ⟨"users", [⟨"id", "serial", .plain .serial, false, none, false⟩,
        ⟨"code", "text", .plain .text, false, none, false⟩], ["id"], []⟩
    let orders : Table :=
      ⟨"orders", [⟨"user_id", "integer", .plain .integer, true, some ⟨"users", none⟩, false⟩,
        ⟨"note", "text", .plain .text, false, none, false⟩,
        ⟨"words", "tsvector", .plain .tsVector, false, none, false⟩], [], ["users"]⟩
    let tables := [orders, users].map .ofTable
    let config : RulesConfig :=
      { tables := .ofList
          [("users", ⟨1, .ofList [("id", "int(7)"), ("code", "int(1,99)")]⟩),
            ("orders", ⟨2, .ofList [("user_id", "int(1,9)"), ("note", "constant[n]")]⟩)] }
    let config' : RulesConfig :=
      { tables := .ofList
          [("users", ⟨1, .ofList [("code", "int(1,99)")]⟩),
            ("orders", ⟨2, .ofList [("user_id", "constant[5]"), ("note", "constant[n]"),
              ("words", "constant[x]")]⟩)] }
    let first := (applyRules tables config).tables
    let second := (applyRules tables config').tables
    DifferInIdleRules tables config config' ∧
      (applyRules tables config).outcome = .ok () ∧ (applyRules tables config').outcome = .ok () ∧
      first ≠ second ∧
      ((populateInMemory .skip first (.ofSeed 0)).1.map fun report => report.rowsInserted) = .ok 3 ∧
      populateInMemory .skip first (.ofSeed 0) = populateInMemory .skip second (.ofSeed 0) := by
  intro users orders tables config config' first second
  have hdiffer : DifferInIdleRules tables config config' :=
    .of_forall (by decide +kernel) (by decide +kernel)
  have hok : (applyRules tables config).outcome = .ok () := by decide +kernel
  have hok' : (applyRules tables config').outcome = .ok () := by decide +kernel
  -- What a generator draws cannot be compared, but the names of the generators differ.
  have hids : first.map (fun table => table.columns.map (·.generator.id)) ≠
      second.map (fun table => table.columns.map (·.generator.id)) := by decide +kernel
  refine ⟨hdiffer, hok, hok', fun heq => hids (by rw [heq]), by decide +kernel, ?_⟩
  exact (run_independent_of_idle_rules hdiffer hok hok' .skip).2 (.ofSeed 0)

end Population

end SyntheticRows
