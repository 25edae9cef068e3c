import SyntheticRows.Proofs.Dependency.Order
import SyntheticRows.Proofs.Elementwise
import SyntheticRows.Proofs.Population.Attempt
/-!
# A run is one block of row attempts for each table

The steps of a run fall into blocks, one for each table in the order of the report. A block lists the
attempts at rows. It ends with the last row wanted or at the first key that the store did not give.
So each step in it is about one of the columns that inserts into the table list, or is a row of them.
-/

namespace SyntheticRows

variable {σ : Type}

/-- The steps at one table. -/
inductive TableBlock (tables : List PlannedTable) (table : PlannedTable) : List Step → Prop where
  | idle (rows : table.rows = 0) : TableBlock tables table []
  | unresolved {column : PlannedColumn} {cause : GenerationError}
      (mem : column ∈ table.insertColumns) (foreign : column.column.isForeignKey = true)
      (failed : resolveReference table column tables = .error cause) : TableBlock tables table []
  | filled {sources : List ValueSource} {attempts : List Attempt} (rows : table.rows ≠ 0)
      (supplied : List.Forall₂ (SuppliedBy tables table) table.insertColumns sources)
      (complete : ∀ attempt ∈ attempts, attempt.values.length = sources.length)
      (count : attempts.length = table.rows.toNat) :
      TableBlock tables table (attemptSteps table sources attempts)
  | interrupted {sources : List ValueSource} {attempts : List Attempt} {last : List Step}
      (rows : table.rows ≠ 0)
      (supplied : List.Forall₂ (SuppliedBy tables table) table.insertColumns sources)
      (complete : ∀ attempt ∈ attempts, attempt.values.length = sources.length)
      (count : attempts.length < table.rows.toNat) (stuck : Stuck sources last) :
      TableBlock tables table (attemptSteps table sources attempts ++ last)

/-- What a step at a table may be: a value for a column that inserts list, or a row of such values. -/
inductive StepAt (tables : List PlannedTable) (table : PlannedTable) : Step → Prop where
  | drew {column : PlannedColumn} (mem : column ∈ table.insertColumns) (value : String) :
      StepAt tables table (.drew column.generator value)
  | sampled {column : PlannedColumn} {key : ReferenceKey} (mem : column ∈ table.insertColumns)
      (resolved : resolveReference table column tables = .ok key)
      (answer : Except StoreError (Option String)) : StepAt tables table (.sampled key answer)
  | inserted {values : List String} (complete : values.length = table.insertColumns.length)
      (answer : Except StoreError Unit) :
      StepAt tables table
        (.inserted table.name (table.insertColumns.map (·.binding)) values answer)

namespace StepAt

variable {tables : List PlannedTable} {table : PlannedTable} {sources front : List ValueSource}
  {values : List String} {steps : List Step} {step : Step}

theorem of_source {source : ValueSource}
    (hsupplied : List.Forall₂ (SuppliedBy tables table) table.insertColumns sources)
    (hmem : source ∈ sources) (value : String) : StepAt tables table (source.supply value) := by
  obtain ⟨column, hcolumn, hsource⟩ := exists_mem_of_forall₂ hsupplied hmem
  cases hsource with
  | generated own => exact .drew hcolumn value
  | referenced foreign resolved => exact .sampled hcolumn resolved _

theorem of_mem_supplied
    (hsupplied : List.Forall₂ (SuppliedBy tables table) table.insertColumns sources)
    (hsubset : front ⊆ sources) (hmem : step ∈ List.zipWith ValueSource.supply front values) :
    StepAt tables table step := by
  rw [← List.map_uncurry_zip_eq_zipWith] at hmem
  obtain ⟨⟨source, value⟩, hzip, rfl⟩ := List.mem_map.mp hmem
  exact of_source hsupplied (hsubset (List.of_mem_zip hzip).1) value

theorem of_mem_attempts {attempts : List Attempt}
    (hsupplied : List.Forall₂ (SuppliedBy tables table) table.insertColumns sources)
    (hcomplete : ∀ attempt ∈ attempts, attempt.values.length = sources.length)
    (hmem : step ∈ attemptSteps table sources attempts) : StepAt tables table step := by
  obtain ⟨attempt, hattempt, hmem⟩ := List.mem_flatMap.mp hmem
  rcases List.mem_append.mp hmem with hmem | hmem
  · exact of_mem_supplied hsupplied (List.Subset.refl _) hmem
  · obtain rfl := List.mem_singleton.mp hmem
    exact .inserted ((hcomplete attempt hattempt).trans hsupplied.length_eq.symm) _

theorem of_mem_stuck
    (hsupplied : List.Forall₂ (SuppliedBy tables table) table.insertColumns sources)
    (hstuck : Stuck sources steps) (hmem : step ∈ steps) : StepAt tables table step := by
  cases hstuck with
  | @mk front back key values answer split supplied refused =>
      rcases List.mem_append.mp hmem with hmem | hmem
      · exact of_mem_supplied hsupplied (split ▸ List.subset_append_left _ _) hmem
      · obtain rfl := List.mem_singleton.mp hmem
        have hkey : .referenced key ∈ sources := split ▸ List.mem_append_right _ List.mem_cons_self
        obtain ⟨column, hcolumn, hsource⟩ := exists_mem_of_forall₂ hsupplied hkey
        cases hsource with
        | referenced foreign resolved => exact .sampled hcolumn resolved answer

end StepAt

theorem TableBlock.stepAt_of_mem {tables : List PlannedTable} {table : PlannedTable}
    {steps : List Step} {step : Step} (h : TableBlock tables table steps) (hmem : step ∈ steps) :
    StepAt tables table step := by
  cases h with
  | idle rows => cases hmem
  | unresolved mem foreign failed => cases hmem
  | filled rows supplied complete count => exact .of_mem_attempts supplied complete hmem
  | interrupted rows supplied complete count stuck =>
      rcases List.mem_append.mp hmem with hmem | hmem
      · exact .of_mem_attempts supplied complete hmem
      · exact .of_mem_stuck supplied stuck hmem

namespace Population

variable {cause : GenerationError}

/-! ### The sources of a table -/

theorem suppliedBy_of_source_eq_ok {tables : List PlannedTable} {table : PlannedTable}
    {column : PlannedColumn} {entry : String × ValueSource}
    (h : column.source table tables = .ok entry) : SuppliedBy tables table column entry.2 := by
  unfold PlannedColumn.source at h
  cases hforeign : column.column.isForeignKey with
  | false =>
      simp only [hforeign, Bool.false_eq_true, if_false, Except.ok.injEq] at h
      exact h ▸ .generated hforeign
  | true =>
      cases hkey : resolveReference table column tables with
      | error cause => simp [hforeign, hkey, Except.map] at h
      | ok key =>
          simp only [hforeign, hkey, Except.map, if_true, Except.ok.injEq] at h
          exact h ▸ .referenced hforeign hkey

theorem unresolved_of_source_eq_error {tables : List PlannedTable} {table : PlannedTable}
    {column : PlannedColumn} (h : column.source table tables = .error cause) :
    column.column.isForeignKey = true ∧ resolveReference table column tables = .error cause := by
  unfold PlannedColumn.source at h
  cases hforeign : column.column.isForeignKey with
  | false => simp [hforeign] at h
  | true =>
      cases hkey : resolveReference table column tables with
      | error cause => simpa [hforeign, hkey, Except.map] using h
      | ok key => simp [hforeign, hkey, Except.map] at h

/-! ### The rows of a table -/

/-- The steps at one table form a block. -/
theorem trace_insertRows (store : RowStore σ) (table : PlannedTable) (tables : List PlannedTable)
    (progress : Progress σ) (hrows : table.rows ≠ 0) :
    ∃ steps, TableBlock tables table steps ∧
      Trace store progress.world steps (insertRows store table tables progress).2.2.world := by
  rcases mapM_eq_ok_or_error (·.source table tables) table.insertColumns with
    ⟨sources, hsources, hall⟩ | ⟨cause, hcause, column, hmem, hcolumn⟩
  · have hsupplied : List.Forall₂ (SuppliedBy tables table) table.insertColumns
        (sources.map (·.2)) := by
      rw [List.forall₂_map_right_iff]
      exact hall.imp fun _ _ => suppliedBy_of_source_eq_ok
    obtain ⟨attempts, last, hcomplete, hend, htrace⟩ := trace_attemptRows store table.name
      (table.insertColumns.map (·.binding)) sources table.rows.toNat 0 ⟨0, 0⟩ progress
    simp only [insertRows, hsources]
    refine ⟨_, ?_, htrace⟩
    rcases hend with ⟨hcount, rfl⟩ | ⟨hcount, hstuck⟩
    · rw [List.append_nil]
      exact .filled hrows hsupplied hcomplete hcount
    · exact .interrupted hrows hsupplied hcomplete hcount hstuck
  · obtain ⟨hforeign, hfailed⟩ := unresolved_of_source_eq_error hcolumn
    simp only [insertRows, hcause]
    exact ⟨[], .unresolved hmem hforeign hfailed, .nil⟩

theorem trace_populateTable (store : RowStore σ) (tables : List PlannedTable)
    (table : PlannedTable) (progress : Progress σ) :
    ∃ steps, TableBlock tables table steps ∧
      Trace store progress.world steps (populateTable store tables table progress).2.world := by
  unfold populateTable
  by_cases hrows : table.rows = 0
  · rw [if_pos hrows]
    exact ⟨[], .idle hrows, .nil⟩
  · rw [if_neg hrows]
    obtain ⟨steps, hblock, htrace⟩ := trace_insertRows store table tables
      (progress.report (.populatingTable table.name table.rows)) hrows
    refine ⟨steps, hblock, ?_⟩
    rcases hinsert : insertRows store table tables
      (progress.report (.populatingTable table.name table.rows)) with ⟨_ | _, tally, after⟩
    · simp only [hinsert] at htrace ⊢
      exact htrace
    · simp only [hinsert] at htrace ⊢
      exact htrace

/-! ### The whole run -/

theorem trace_populateAll (store : RowStore σ) (tables rest : List PlannedTable)
    (progress : Progress σ) :
    ∃ blocks, List.Forall₂ (TableBlock tables) rest blocks ∧
      Trace store progress.world blocks.flatten
        (populateAll store tables rest progress).2.world := by
  induction rest generalizing progress with
  | nil => exact ⟨[], .nil, .nil⟩
  | cons table rest ih =>
      obtain ⟨steps, hblock, htrace⟩ := trace_populateTable store tables table progress
      obtain ⟨blocks, hblocks, hrest⟩ := ih (populateTable store tables table progress).2
      exact ⟨steps :: blocks, .cons hblock hblocks, htrace.append hrest⟩

theorem world_reportMissing (missing : List MissingDependency) (progress : Progress σ) :
    (reportMissing missing progress).world = progress.world := by
  induction missing generalizing progress with
  | nil => rfl
  | cons entry missing ih => exact ih _

theorem run_eq_runOrdered {policy : MissingPolicy} {tables : List PlannedTable}
    {ordered : DependencyOrder PlannedTable}
    (h : topologicalOrder PlannedTable.node tables policy = .ok ordered) (store : RowStore σ)
    (progress : Progress σ) :
    run store policy tables progress =
      (.ok (runOrdered store ordered progress).1, (runOrdered store ordered progress).2) := by
  simp only [run, h]

theorem run_eq_error {policy : MissingPolicy} {tables : List PlannedTable} {cause : DependencyError}
    (h : topologicalOrder PlannedTable.node tables policy = .error cause) (store : RowStore σ)
    (progress : Progress σ) :
    run store policy tables progress = (.error (.dependency cause), progress) := by
  simp only [run, h]

/-- The steps of a run fall into blocks, one for each table of the order. -/
theorem trace_run {policy : MissingPolicy} {tables : List PlannedTable}
    {ordered : DependencyOrder PlannedTable}
    (h : topologicalOrder PlannedTable.node tables policy = .ok ordered) (store : RowStore σ)
    (progress : Progress σ) :
    ∃ report after blocks, run store policy tables progress = (.ok report, after) ∧
      report.order = ordered.items.map (·.name) ∧
      List.Forall₂ (TableBlock ordered.items) ordered.items blocks ∧
      Trace store progress.world blocks.flatten after.world := by
  obtain ⟨blocks, hblocks, htrace⟩ := trace_populateAll store ordered.items ordered.items
    ((reportMissing ordered.missing progress).report
      (.populationStarted ordered.items.length (ordered.items.map (·.name))))
  have hstart : ((reportMissing ordered.missing progress).report
      (.populationStarted ordered.items.length (ordered.items.map (·.name)))).world =
        progress.world := world_reportMissing ordered.missing progress
  rw [hstart] at htrace
  exact ⟨_, _, blocks, run_eq_runOrdered h store progress, rfl, hblocks, htrace⟩

end Population

end SyntheticRows
