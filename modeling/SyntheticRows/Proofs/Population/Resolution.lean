import SyntheticRows.Proofs.Catalog.References
import SyntheticRows.Proofs.Population.AllOrNothing
import SyntheticRows.Proofs.Schema.FirstFault
/-!
# References of discovered tables resolve

A foreign key can lead nowhere: it has no reference, or its reference names no column and the
referenced table has no key. Neither happens to a table of the catalog, whose columns take flag,
table and column from one foreign key. So validation finds no stray reference in such tables, and
whatever the rules, the store and the other tables are, none of them is given up for a reference that
does not resolve.
-/

namespace SyntheticRows

variable {σ : Type}

/-- The causes that stand for a reference which cannot be resolved. -/
inductive GenerationError.LeadsNowhere : GenerationError → Prop
  | table (table column : String) : LeadsNowhere (.missingReferenceTable table column)
  | key (table column referenced : String) :
      LeadsNowhere (.missingReferenceKey table column referenced)

theorem resolveReference_of_discovered {table : PlannedTable} (h : table.toTable.Discovered)
    {column : PlannedColumn} (hmem : column ∈ table.columns)
    (hforeign : column.column.isForeignKey = true) (tables : List PlannedTable) :
    ∃ key, resolveReference table column tables = .ok key := by
  have hcolumn : column.column ∈ table.toTable.columns := List.mem_map_of_mem hmem
  obtain ⟨reference, hreference⟩ := Option.ne_none_iff_exists'.mp
    ((h.linksReferences.flagged _ hcolumn).mp hforeign)
  obtain ⟨key, hkey⟩ := Option.ne_none_iff_exists'.mp
    (h.linksReferences.recorded _ hcolumn _ hreference)
  have hnamed : column.column.references.filter (!·.table.isEmpty) = some reference := by
    rw [Option.filter_eq_some_iff]
    exact ⟨hreference, by simpa using h.table_ne_empty hcolumn hreference⟩
  exact ⟨⟨reference.table, key⟩, by simp [resolveReference, hnamed, hkey]⟩

/-- Tables of the catalog have no reference on a column that is no foreign key. -/
theorem Schema.validate_ne_strayReference {schema : Schema}
    (h : ∀ table ∈ schema.tables, table.Discovered) (namespaceName table column : String) :
    schema.validate ≠ .error (.strayReference namespaceName table column) := by
  intro hstray
  obtain ⟨place, hfault, -⟩ :=
    (schema.reportsFirst_validate.eq_error_iff fun _ _ _ h h' => h.unique h').mp hstray
  cases hfault with
  | table htable hfault =>
      cases hfault with
      | reference hcolumn hflag hreference =>
          have hlinks := (h _ (List.mem_of_getElem? htable)).linksReferences
          have hforeign := (hlinks.flagged _ (List.mem_of_getElem? hcolumn)).mpr hreference
          cases hflag.symm.trans hforeign

namespace Population

variable {table : PlannedTable} {tables : List PlannedTable} {cause : GenerationError}

/-- Why a table is given up when its turn comes, if it is. -/
def givenUp? (store : RowStore σ) (tables : List PlannedTable) (table : PlannedTable)
    (progress : Progress σ) : Option GenerationError :=
  if table.rows = 0 then none
  else
    match (insertRows store table tables
      (progress.report (.populatingTable table.name table.rows))).1 with
    | .error cause => some cause
    | .ok () => none

/-- The report of a table tells that it was given up, and why. -/
theorem status_populateTable_eq_aborted_iff (store : RowStore σ) (tables : List PlannedTable)
    (table : PlannedTable) (progress : Progress σ) (reason : String) :
    (populateTable store tables table progress).1.status = .aborted reason ↔
      ∃ cause, givenUp? store tables table progress = some cause ∧ cause.message = reason := by
  unfold populateTable givenUp?
  by_cases hrows : table.rows = 0
  · simp [hrows, tableReport]
  · simp only [if_neg hrows]
    rcases insertRows store table tables
      (progress.report (.populatingTable table.name table.rows)) with ⟨cause | ⟨⟩, tally, after⟩
    · simp [tableReport]
    · simp [tableReport]

/-! ### Once references are resolved -/

theorem not_leadsNowhere_of_columnValue {store : RowStore σ} {table column : String}
    {source : ValueSource} {progress : Progress σ}
    (h : (columnValue store table column source progress).1 = .error cause) :
    ¬cause.LeadsNowhere := by
  cases source with
  | generated generator => cases h
  | referenced key =>
      unfold columnValue at h
      dsimp only at h
      split at h <;> cases h
      · rintro ⟨⟩
      · rintro ⟨⟩

theorem not_leadsNowhere_of_rowValues {store : RowStore σ} {table : String}
    {sources : List (String × ValueSource)} {progress : Progress σ}
    (h : (rowValues store table sources progress).1 = .error cause) : ¬cause.LeadsNowhere := by
  induction sources generalizing progress with
  | nil => cases h
  | cons entry sources ih =>
      obtain ⟨column, source⟩ := entry
      unfold rowValues at h
      rcases hvalue : columnValue store table column source progress with ⟨first | value, middle⟩
      · simp only [hvalue, Except.error.injEq] at h
        exact not_leadsNowhere_of_columnValue (congrArg Prod.fst (h ▸ hvalue))
      · rcases hrest : rowValues store table sources middle with ⟨later | values, last⟩
        · simp only [hvalue, hrest, Except.error.injEq] at h
          exact ih (congrArg Prod.fst (h ▸ hrest))
        · simp [hvalue, hrest] at h

theorem not_leadsNowhere_of_attemptRows {store : RowStore σ} {table : String}
    {bindings : List ColumnBinding} {sources : List (String × ValueSource)} {remaining row : Nat}
    {tally : Tally} {progress : Progress σ}
    (h : (attemptRows store table bindings sources remaining row tally progress).1 =
      .error cause) : ¬cause.LeadsNowhere := by
  induction remaining generalizing row tally progress with
  | zero => cases h
  | succ remaining ih =>
      unfold attemptRows at h
      rcases hvalues : rowValues store table sources progress with ⟨first | values, middle⟩
      · simp only [hvalues, Except.error.injEq] at h
        exact not_leadsNowhere_of_rowValues (congrArg Prod.fst (h ▸ hvalues))
      · simp only [hvalues] at h
        exact ih h

/-- Only a foreign key of the table itself that does not resolve leads nowhere. -/
theorem exists_unresolved_of_givenUp? {store : RowStore σ} {progress : Progress σ}
    (h : givenUp? store tables table progress = some cause) (hcause : cause.LeadsNowhere) :
    ∃ column ∈ table.columns, column.column.isForeignKey = true ∧
      resolveReference table column tables = .error cause := by
  unfold givenUp? at h
  split at h
  · cases h
  · split at h
    · next first hinsert =>
        obtain rfl := Option.some.inj h
        unfold insertRows at hinsert
        rcases mapM_eq_ok_or_error (·.source table tables) table.insertColumns with
          ⟨sources, hsources, -⟩ | ⟨other, hother, column, hmem, hcolumn⟩
        · simp only [hsources] at hinsert
          exact absurd hcause (not_leadsNowhere_of_attemptRows hinsert)
        · simp only [hother, Except.error.injEq] at hinsert
          obtain ⟨hforeign, hfailed⟩ := unresolved_of_source_eq_error hcolumn
          exact ⟨column, List.mem_of_mem_filter hmem, hforeign, hinsert ▸ hfailed⟩
    · cases h

theorem not_leadsNowhere_of_discovered {store : RowStore σ} {progress : Progress σ}
    (h : table.toTable.Discovered) (hcause : givenUp? store tables table progress = some cause) :
    ¬cause.LeadsNowhere := by
  intro hnowhere
  obtain ⟨column, hmem, hforeign, hfailed⟩ := exists_unresolved_of_givenUp? hcause hnowhere
  obtain ⟨key, hkey⟩ := resolveReference_of_discovered h hmem hforeign tables
  cases hfailed.symm.trans hkey

/-- The turns of a run go through the tables of its order, and the reports are on them. -/
theorem turns_of_run_eq_ok {store : RowStore σ} {policy : MissingPolicy} {progress after : Progress σ}
    {report : PopulationReport} (h : run store policy tables progress = (.ok report, after)) :
    let turns := runTurns store policy tables progress
    (turns.map (·.1)).Perm tables ∧
      report.tables = turns.map fun turn =>
        (populateTable store (turns.map (·.1)) turn.1 turn.2).1 := by
  intro turns
  cases hordered : topologicalOrder PlannedTable.node tables policy with
  | error cause =>
      rw [run_eq_error hordered] at h
      cases h
  | ok ordered =>
      rw [run_eq_runOrdered hordered] at h
      obtain ⟨hreport, -⟩ := Prod.mk.inj h
      have hturns : turns = Population.turns store ordered.items ordered.items
          ((reportMissing ordered.missing progress).report
            (.populationStarted ordered.items.length (ordered.items.map (·.name)))) := by
        simp only [turns, runTurns, hordered]
      have hitems : turns.map (·.1) = ordered.items := by
        rw [hturns, map_fst_turns]
      refine ⟨hitems ▸ Dependency.items_perm_of_topologicalOrder_eq_ok hordered, ?_⟩
      rw [← Except.ok.inj hreport, hitems, hturns]
      exact populateAll_eq_map_turns store ordered.items ordered.items _

/-- **References of discovered tables resolve.** In a table that is mapped from the catalog, with
foreign keys that name their tables, flags, references and dependencies agree. So validation never
reports a stray reference for a schema of such tables, and whatever store, tables and state it meets,
such a table is not given up for a reference that leads nowhere. In a run over any tables and any
rules, each table has its turn, and it is reported as aborted exactly if it is given up then. -/
theorem discovered_references_resolve :
    (∀ table : Table, table.Discovered → table.LinksReferences) ∧
    (∀ schema : Schema, (∀ table ∈ schema.tables, table.Discovered) →
      ∀ namespaceName table column,
        schema.validate ≠ .error (.strayReference namespaceName table column)) ∧
    (∀ (σ : Type) (store : RowStore σ) (tables : List PlannedTable) (table : PlannedTable)
      (progress : Progress σ) (cause : GenerationError), table.toTable.Discovered →
        givenUp? store tables table progress = some cause → ¬cause.LeadsNowhere) ∧
    ∀ (σ : Type) (store : RowStore σ) (policy : MissingPolicy) (tables : List PlannedTable)
      (config : RulesConfig) (progress after : Progress σ) (report : PopulationReport),
      let ruled := (applyRules tables config).tables
      let turns := runTurns store policy ruled progress
      let items := turns.map (·.1)
      run store policy ruled progress = (.ok report, after) →
        (items.map (·.toTable)).Perm (tables.map (·.toTable)) ∧
        List.Forall₂ (fun turn entry => entry.table = turn.1.name ∧
            (∀ reason, entry.status = .aborted reason ↔
              ∃ cause, givenUp? store items turn.1 turn.2 = some cause ∧ cause.message = reason) ∧
            (turn.1.toTable.Discovered → ∀ cause,
              givenUp? store items turn.1 turn.2 = some cause → ¬cause.LeadsNowhere))
          turns report.tables := by
  refine ⟨fun _ h => h.linksReferences, fun _ h => Schema.validate_ne_strayReference h,
    fun _ _ _ _ _ _ => not_leadsNowhere_of_discovered, ?_⟩
  intro σ store policy tables config progress after report ruled turns items hrun
  obtain ⟨hperm, hreports⟩ := turns_of_run_eq_ok hrun
  refine ⟨applyRules_toTable tables config ▸ hperm.map _, ?_⟩
  rw [hreports, List.forall₂_map_right_iff, List.forall₂_same]
  intro turn _
  obtain ⟨tally, status, hreport⟩ := exists_tableReport_eq_populateTable store items turn.1 turn.2
  exact ⟨congrArg (·.table) hreport, status_populateTable_eq_aborted_iff store items turn.1 turn.2,
    fun h _ => not_leadsNowhere_of_discovered h⟩

/-- Orders reference users by two constraints of one column, and sites of another namespace. Where no
user is there, orders are given up for that and not for their references. -/
theorem discovered_references_resolve_of_orders :
    let column (name : String) : CatalogColumn := ⟨name, "integer", none, false, false⟩
    let orders : CatalogTable :=
      ⟨"orders", [column "id", column "user_id", column "site_id"], ["id"],
        [⟨"user", "user_id", "public", "users", "id"⟩,
          ⟨"audit", "user_id", "audit", "users", "id"⟩,
          ⟨"site", "site_id", "eu", "sites", "code"⟩]⟩
    let field (name : String) (references : Option Reference) : Column :=
      ⟨name, "integer", .plain .integer, references.isSome, references, false⟩
    let table : Table :=
      ⟨"orders", [field "id" none, field "user_id" (some ⟨"users", some "id"⟩),
          field "site_id" (some ⟨"eu.sites", some "code"⟩)], ["id"],
        ["users", "audit.users", "eu.sites"]⟩
    let config : RulesConfig := { tables := .ofList [("orders", ⟨2, .empty⟩)] }
    let store : RowStore Unit :=
      { insertRow := fun _ _ _ state stream => ⟨.ok (), state, stream, []⟩
        sampleKey := fun _ _ state stream => ⟨.ok none, state, stream, []⟩ }
    let reason := "foreign key orders.user_id: no rows available in users"
    let report : PopulationReport :=
      { order := ["orders"]
        missing := [⟨"orders", "users"⟩, ⟨"orders", "audit.users"⟩, ⟨"orders", "eu.sites"⟩]
        tables := [⟨"orders", 2, 0, 0, .aborted reason⟩] }
    let ruled := (applyRules [.ofTable table] config).tables
    let start : Progress Unit := .start () (.ofSeed 0)
    orders.toTable "public" = .ok table ∧ table.Discovered ∧ table.LinksReferences ∧
      (run store .skip ruled start).1 = .ok report ∧
      ∃ turn cause, runTurns store .skip ruled start = [turn] ∧ turn.1.toTable = table ∧
        givenUp? store [turn.1] turn.1 turn.2 = some cause ∧ cause.message = reason ∧
        ¬cause.LeadsNowhere := by
  intro column orders field table config store reason report ruled start
  have hfound : orders.toTable "public" = .ok table := by decide +kernel
  have hdiscovered : table.Discovered := ⟨"public", orders, hfound, by decide⟩
  have hreport : (run store .skip ruled start).1 = .ok report := by decide +kernel
  obtain ⟨hlinks, _, _, hruns⟩ := discovered_references_resolve
  obtain ⟨hperm, hreports⟩ := hruns Unit store .skip [.ofTable table] config start _ report
    (Prod.ext hreport rfl)
  refine ⟨hfound, hdiscovered, hlinks table hdiscovered, hreport, ?_⟩
  obtain ⟨turn, hturn⟩ : ∃ turn, runTurns store .skip ruled start = [turn] :=
    List.length_eq_one_iff.mp hreports.length_eq
  simp only [ruled, hturn] at hperm hreports
  have htable : turn.1.toTable = table := List.singleton_perm_singleton.mp hperm
  obtain ⟨⟨_, haborted, hcauses⟩, -⟩ := List.forall₂_cons.mp hreports
  obtain ⟨cause, hcause, hmessage⟩ := (haborted reason).mp rfl
  exact ⟨turn, cause, hturn, htable, hcause, hmessage,
    hcauses (htable ▸ hdiscovered) cause hcause⟩

end Population

end SyntheticRows
