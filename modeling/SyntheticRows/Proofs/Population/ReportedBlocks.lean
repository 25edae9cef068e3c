import SyntheticRows.Proofs.Dependency.Order
import SyntheticRows.Proofs.Population.Accounting
import SyntheticRows.Proofs.Store.History
/-!
# The report of a table counts the steps at it

A store that notes its answers notes those of the steps at the table being filled, so the report of a
table adds up over its block of steps. The inserts that a store accepts into a table are those of this
block, with the columns that inserts into the table list. A run whose tables have an order comes to
such reports, one for each table, and a run whose tables have none does not begin.
-/

namespace SyntheticRows

variable {σ : Type}

namespace RowStore

variable {store : RowStore σ} {step : Step} {steps : List Step} {state state' : σ}
  {notes notes' : List Step} {stream stream' : RandomStream}

/-- A noting store deals like the store inside and notes the answers to inserts. -/
theorem occurs_of_occurs_noting
    (h : Occurs store.noting ((state, notes), stream) step ((state', notes'), stream')) :
    Occurs store (state, stream) step (state', stream') ∧
      notes'.filterMap Step.insertAnswer? =
        notes.filterMap Step.insertAnswer? ++ step.insertAnswer?.toList := by
  generalize hfirst : ((state, notes), stream) = first at h
  generalize hlast : ((state', notes'), stream') = last at h
  cases h with
  | drew generator =>
      cases hfirst
      cases hlast
      exact ⟨.drew generator state stream, by simp [Step.insertAnswer?]⟩
  | sampled key =>
      cases hfirst
      cases hlast
      exact ⟨.sampled key state stream, by simp [Step.insertAnswer?]⟩
  | inserted table bindings values =>
      cases hfirst
      cases hlast
      exact ⟨.inserted table bindings values state stream, List.filterMap_append⟩

theorem trace_of_trace_noting
    (h : Trace store.noting ((state, notes), stream) steps ((state', notes'), stream')) :
    Trace store (state, stream) steps (state', stream') ∧
      notes'.filterMap Step.insertAnswer? =
        notes.filterMap Step.insertAnswer? ++ steps.filterMap Step.insertAnswer? := by
  induction steps generalizing state notes stream with
  | nil =>
      cases h
      exact ⟨.nil, by simp⟩
  | cons step steps ih =>
      cases h with
      | @cons _ second _ _ _ head tail =>
          obtain ⟨⟨state, notes⟩, stream⟩ := second
          obtain ⟨hhead, hanswer⟩ := occurs_of_occurs_noting head
          obtain ⟨htail, hanswers⟩ := ih tail
          refine ⟨.cons hhead htail, ?_⟩
          rw [hanswers, hanswer]
          cases hstep : step.insertAnswer? <;> simp [hstep]

end RowStore

/-! ### Accepted inserts of a block -/

section Accepted

variable {tables rest : List PlannedTable} {table : PlannedTable} {steps : List Step}
  {name : String} {entries : List (List Step × TableReport)}

theorem StepAt.accepted?_eq_none {step : Step} (h : StepAt tables table step)
    (hname : table.name ≠ name) : step.accepted? name = none := by
  cases h with
  | drew mem value => rfl
  | sampled mem resolved answer => rfl
  | inserted complete answer => cases answer <;> simp [Step.accepted?, hname]

namespace TableBlock

/-- The steps at a table put nothing into another one. -/
theorem acceptedInserts_eq_nil (h : TableBlock tables table steps) (hname : table.name ≠ name) :
    acceptedInserts name steps = [] :=
  List.filterMap_eq_nil_iff.mpr fun _ hmem => (h.stepAt_of_mem hmem).accepted?_eq_none hname

theorem names_of_mem_acceptedInserts (h : TableBlock tables table steps) {insert : AcceptedInsert}
    (hmem : insert ∈ acceptedInserts table.name steps) :
    insert.names = table.insertColumns.map (·.name) := by
  obtain ⟨step, hstep, haccepted⟩ := List.mem_filterMap.mp hmem
  cases h.stepAt_of_mem hstep with
  | drew mem value => cases haccepted
  | sampled mem resolved answer => cases haccepted
  | inserted complete answer =>
      cases answer with
      | error cause => cases haccepted
      | ok =>
          simp only [Step.accepted?, if_true, Option.some.injEq] at haccepted
          rw [← haccepted, AcceptedInsert.names, List.map_map]
          rfl

theorem length_acceptedInserts (h : TableBlock tables table steps) :
    (acceptedInserts table.name steps).length =
      (steps.filterMap Step.insertAnswer?).countP (·.isOk) := by
  have hsteps : ∀ step ∈ steps, StepAt tables table step := fun _ => h.stepAt_of_mem
  clear h
  induction steps with
  | nil => rfl
  | cons step steps ih =>
      obtain ⟨hstep, hrest⟩ := List.forall_mem_cons.mp hsteps
      have hlength := ih hrest
      unfold acceptedInserts at hlength ⊢
      rw [List.filterMap_cons, List.filterMap_cons]
      cases hstep with
      | drew mem value => exact hlength
      | sampled mem resolved answer => exact hlength
      | inserted complete answer =>
          cases answer <;>
            simpa [Step.accepted?, Step.insertAnswer?, Except.isOk, Except.toBool] using hlength

end TableBlock

/-- The steps at a table with the report on them. -/
structure ReportedBlock (tables : List PlannedTable) (table : PlannedTable)
    (entry : List Step × TableReport) : Prop where
  block : TableBlock tables table entry.1
  name : entry.2.table = table.name
  rowsRequested : entry.2.rowsRequested = table.rows
  addsUp : entry.2.AddsUp (entry.1.filterMap Step.insertAnswer?)

/-- A report counts the inserts that were accepted. -/
theorem ReportedBlock.length_acceptedInserts {entry : List Step × TableReport}
    (h : ReportedBlock tables table entry) :
    (acceptedInserts table.name entry.1).length = entry.2.rowsInserted.toNat :=
  h.block.length_acceptedInserts.trans h.addsUp.inserted.symm

/-- Blocks of tables with other names put nothing into a table. -/
theorem acceptedInserts_flatMap_eq_nil (h : List.Forall₂ (ReportedBlock tables) rest entries)
    (hname : name ∉ rest.map (·.name)) :
    acceptedInserts name (entries.flatMap (·.1)) = [] := by
  induction h with
  | nil => rfl
  | cons hfirst _ ih =>
      rw [List.map_cons, List.mem_cons, not_or] at hname
      rw [List.flatMap_cons, acceptedInserts_append,
        hfirst.block.acceptedInserts_eq_nil (Ne.symm hname.1), ih hname.2, List.append_nil]

/-- Where names differ, a table gets the inserts of its own block, which is the one with its report. -/
theorem acceptedInserts_flatMap (h : List.Forall₂ (ReportedBlock tables) rest entries)
    (hnames : (rest.map (·.name)).Nodup) {entry : List Step × TableReport} (hmem : table ∈ rest)
    (hentry : entry ∈ entries) (hreport : entry.2.table = table.name) :
    ReportedBlock tables table entry ∧
      acceptedInserts table.name (entries.flatMap (·.1)) = acceptedInserts table.name entry.1 := by
  induction h with
  | nil => cases hmem
  | @cons first block rest entries hfirst hrest ih =>
      rw [List.map_cons, List.nodup_cons] at hnames
      obtain ⟨hfresh, hnames⟩ := hnames
      rw [List.flatMap_cons, acceptedInserts_append]
      rcases List.mem_cons.mp hmem with rfl | hmem <;>
        rcases List.mem_cons.mp hentry with rfl | hentry
      · rw [acceptedInserts_flatMap_eq_nil hrest hfresh, List.append_nil]
        exact ⟨hfirst, rfl⟩
      · obtain ⟨other, hother, hreported⟩ := exists_mem_of_forall₂ hrest hentry
        exact absurd (List.mem_map.mpr ⟨other, hother, hreported.name.symm.trans hreport⟩) hfresh
      · exact absurd (List.mem_map.mpr ⟨table, hmem, hreport.symm.trans hfirst.name⟩) hfresh
      · have hne : first.name ≠ table.name := fun heq =>
          hfresh (heq ▸ List.mem_map_of_mem hmem)
        rw [hfirst.block.acceptedInserts_eq_nil hne, List.nil_append]
        exact ih hnames hmem hentry

end Accepted

namespace Population

/-- The steps at a table, which its report counts. -/
theorem reportedBlock_populateTable (store : RowStore σ) (tables : List PlannedTable)
    (table : PlannedTable) (progress : Progress σ) :
    ∃ steps, ReportedBlock tables table (steps, (populateTable store tables table progress).1) ∧
      Trace store progress.world steps (populateTable store tables table progress).2.world := by
  have hinner := populateTable_mapStore store.noting_projects tables table
    (progress.mapStore (·, ([] : List Step)))
  change populateTable store tables table progress = _ at hinner
  obtain ⟨tally, status, hreport⟩ := exists_tableReport_eq_populateTable store tables table progress
  obtain ⟨steps, hblock, htrace⟩ := trace_populateTable store.noting tables table
    (progress.mapStore (·, ([] : List Step)))
  obtain ⟨htrace, hanswers⟩ := RowStore.trace_of_trace_noting htrace
  refine ⟨steps, ⟨hblock, congrArg (·.table) hreport, congrArg (·.rowsRequested) hreport, ?_⟩, ?_⟩
  · rw [List.filterMap_nil, List.nil_append] at hanswers
    dsimp only
    rw [← hanswers, hinner]
    by_cases hrows : table.rows = 0
    · have hskipped : populateTable store.noting tables table (progress.mapStore (·, [])) =
          (tableReport table ⟨0, 0⟩ .skipped,
            (progress.mapStore (·, [])).report (.nothingRequested table.name)) := if_pos hrows
      rw [hskipped]
      constructor <;> simp [tableReport, hrows, Progress.mapStore, Progress.report]
    · exact (addsUp_populateTable store tables hrows rfl).1
  · rw [hinner]
    exact htrace

theorem reportedBlocks_populateAll (store : RowStore σ) (tables rest : List PlannedTable)
    (progress : Progress σ) :
    ∃ entries : List (List Step × TableReport),
      List.Forall₂ (ReportedBlock tables) rest entries ∧
      (populateAll store tables rest progress).1 = entries.map (·.2) ∧
      Trace store progress.world (entries.flatMap (·.1))
        (populateAll store tables rest progress).2.world := by
  induction rest generalizing progress with
  | nil => exact ⟨[], .nil, rfl, .nil⟩
  | cons table rest ih =>
      obtain ⟨steps, hreported, htrace⟩ := reportedBlock_populateTable store tables table progress
      obtain ⟨entries, hentries, hreports, hrest⟩ := ih (populateTable store tables table progress).2
      exact ⟨(steps, _) :: entries, .cons hreported hentries, congrArg _ hreports,
        htrace.append hrest⟩

/-- A run fills the tables of its order in turn, and its report lists theirs. -/
theorem reportedBlocks_run {policy : MissingPolicy} {tables : List PlannedTable}
    {ordered : DependencyOrder PlannedTable}
    (h : topologicalOrder PlannedTable.node tables policy = .ok ordered) (store : RowStore σ)
    (progress : Progress σ) :
    ∃ (report : PopulationReport) (after : Progress σ) (entries : List (List Step × TableReport)),
      run store policy tables progress = (.ok report, after) ∧
      report.order = ordered.items.map (·.name) ∧
      List.Forall₂ (ReportedBlock ordered.items) ordered.items entries ∧
      report.tables = entries.map (·.2) ∧
      Trace store progress.world (entries.flatMap (·.1)) after.world := by
  obtain ⟨entries, hreported, hreports, htrace⟩ := reportedBlocks_populateAll store ordered.items
    ordered.items ((reportMissing ordered.missing progress).report
      (.populationStarted ordered.items.length (ordered.items.map (·.name))))
  have hstart : ((reportMissing ordered.missing progress).report
      (.populationStarted ordered.items.length (ordered.items.map (·.name)))).world =
        progress.world := world_reportMissing ordered.missing progress
  rw [hstart] at htrace
  exact ⟨_, _, entries, run_eq_runOrdered h store progress, rfl, hreported, hreports, htrace⟩

/-- The reports are on the tables, one by one, with the rows that each was to get. -/
theorem map_reports_eq {tables rest : List PlannedTable} {entries : List (List Step × TableReport)}
    (h : List.Forall₂ (ReportedBlock tables) rest entries) :
    (entries.map (·.2)).map (fun report => (report.table, report.rowsRequested)) =
      rest.map fun table => (table.name, table.rows) := by
  rw [List.map_map]
  refine (map_eq_map_of_forall₂ (h.imp fun table entry hblock => ?_)).symm
  exact congrArg₂ Prod.mk hblock.name.symm hblock.rowsRequested.symm

/-- **Only an order that does not exist makes a run fail.** The tables have an order or they have
none, whatever the store is. If they have none, the run fails for the same cause, everything is as it
was and no call was made. If they have one, the run succeeds, however many calls fail: its order is
one of the names of all tables, and its reports are one for each table in that order, with the rows
that the table was to get. -/
theorem run_fails_before_calls (policy : MissingPolicy) (tables : List PlannedTable) :
    (∃ cause, topologicalOrder PlannedTable.node tables policy = .error cause ∧
      ∀ (σ : Type) (store : RowStore σ) (progress : Progress σ),
        run store policy tables progress = (.error (.dependency cause), progress) ∧
        (run store.recording policy tables (progress.mapStore (·, #[]))).2.store.2 = #[]) ∨
    ∃ ordered, topologicalOrder PlannedTable.node tables policy = .ok ordered ∧
      ordered.items.Perm tables ∧
      ∀ (σ : Type) (store : RowStore σ) (progress : Progress σ), ∃ report after,
        run store policy tables progress = (.ok report, after) ∧
        report.order = ordered.items.map (·.name) ∧
        report.order.Perm (tables.map (·.name)) ∧
        report.tables.map (·.table) = report.order ∧
        report.tables.map (fun entry => (entry.table, entry.rowsRequested)) =
          ordered.items.map (fun table => (table.name, table.rows)) := by
  cases hordered : topologicalOrder PlannedTable.node tables policy with
  | error cause =>
      refine .inl ⟨cause, rfl, fun σ store progress => ⟨run_eq_error hordered store progress, ?_⟩⟩
      rw [run_eq_error hordered]
      rfl
  | ok ordered =>
      have hperm := Dependency.items_perm_of_topologicalOrder_eq_ok hordered
      refine .inr ⟨ordered, rfl, hperm, fun σ store progress => ?_⟩
      obtain ⟨report, after, entries, hrun, horder, hreported, hreports, -⟩ :=
        reportedBlocks_run hordered store progress
      have hpairs := map_reports_eq hreported
      rw [← hreports] at hpairs
      have hnames := congrArg (List.map Prod.fst) hpairs
      rw [List.map_map, List.map_map] at hnames
      refine ⟨report, after, hrun, horder, ?_, hnames.trans horder.symm, hpairs⟩
      rw [horder]
      exact hperm.map _

end Population

end SyntheticRows
