import SyntheticRows.Proofs.Catalog.References
import SyntheticRows.Proofs.Plan.Shape
import SyntheticRows.Proofs.Population.Recording
/-!
# Keys are sampled from tables that are filled already

A table of the catalog depends on every table that its columns reference, the order puts what a
table depends on before it, and tables are filled one after the other. So once a key of another
table is sampled, no row comes to that table any more, whatever the store answers.
-/

namespace SyntheticRows

variable {σ : Type}

/-- The calls that a store may get while a table is filled. -/
inductive CallFor (tables : List PlannedTable) (table : PlannedTable) : StoreCall → Prop where
  | insert (bindings : List ColumnBinding) (values : List String) :
      CallFor tables table (.insert table.name bindings values)
  | sample {column : PlannedColumn} {key : ReferenceKey} (mem : column ∈ table.insertColumns)
      (resolved : resolveReference table column tables = .ok key) :
      CallFor tables table (.sample key.table key.column)

namespace CallFor

variable {tables : List PlannedTable} {table : PlannedTable} {steps : List Step} {call : StoreCall}

theorem of_mem_block (hblock : TableBlock tables table steps)
    (hmem : call ∈ steps.filterMap Step.call?) : CallFor tables table call := by
  obtain ⟨step, hstep, hcall⟩ := List.mem_filterMap.mp hmem
  cases hblock.stepAt_of_mem hstep with
  | drew mem value => cases hcall
  | sampled mem resolved answer =>
      obtain rfl := Option.some.inj hcall
      exact .sample mem resolved
  | inserted complete answer =>
      obtain rfl := Option.some.inj hcall
      exact .insert _ _

/-- A table that is sampled is one that the table being filled depends on. -/
theorem mem_dependsOn (hlists : table.toTable.ListsReferences) {parent column : String}
    (h : CallFor tables table (.sample parent column)) : parent ∈ table.dependsOn := by
  cases h with
  | @sample column key mem resolved =>
      obtain ⟨reference, hreference, hname⟩ := exists_reference_of_resolveReference_eq_ok resolved
      have hcolumn : column.column ∈ table.toTable.columns :=
        List.mem_map_of_mem (List.mem_of_mem_filter mem)
      exact hname ▸ hlists _ hcolumn _ hreference

end CallFor

namespace Population

variable {tables rest : List PlannedTable} {table : PlannedTable} {store : RowStore σ}

/-! ### The calls of a run, table by table -/

/-- The calls noted while tables are filled in turn, each with the table that was being filled. -/
def callsInTurn (store : RowStore σ) (tables : List PlannedTable) :
    List PlannedTable → Progress (σ × Array StoreCall) → List (String × StoreCall)
  | [], _ => []
  | table :: rest, progress =>
      let after := (populateTable store.recording tables table progress).2
      (after.store.2.toList.drop progress.store.2.size).map (table.name, ·) ++
        callsInTurn store tables rest after

/-- The calls of a whole run; a run that finds no order makes none. -/
def runCalls (store : RowStore σ) (policy : MissingPolicy) (tables : List PlannedTable)
    (progress : Progress σ) : List (String × StoreCall) :=
  match topologicalOrder PlannedTable.node tables policy with
  | .error _ => []
  | .ok ordered =>
      callsInTurn store ordered.items ordered.items
        ((reportMissing ordered.missing (progress.mapStore (·, #[]))).report
          (.populationStarted ordered.items.length (ordered.items.map (·.name))))

/-- Filling a table adds calls for this table. -/
theorem calls_populateTable (store : RowStore σ) (tables : List PlannedTable)
    (table : PlannedTable) (progress : Progress (σ × Array StoreCall)) :
    ∃ calls, (populateTable store.recording tables table progress).2.store.2.toList =
        progress.store.2.toList ++ calls ∧
      ∀ call ∈ calls, CallFor tables table call := by
  obtain ⟨steps, hblock, htrace⟩ := trace_populateTable store.recording tables table progress
  obtain ⟨_, hcalls⟩ := RowStore.trace_of_trace_recording htrace
  exact ⟨_, hcalls, fun call hmem => .of_mem_block hblock hmem⟩

theorem callsInTurn_cons (store : RowStore σ) (tables rest : List PlannedTable)
    (table : PlannedTable) (progress : Progress (σ × Array StoreCall)) :
    ∃ calls, callsInTurn store tables (table :: rest) progress =
        calls.map (table.name, ·) ++
          callsInTurn store tables rest (populateTable store.recording tables table progress).2 ∧
      (populateTable store.recording tables table progress).2.store.2.toList =
        progress.store.2.toList ++ calls ∧
      ∀ call ∈ calls, CallFor tables table call := by
  obtain ⟨calls, hcalls, hall⟩ := calls_populateTable store tables table progress
  refine ⟨calls, ?_, hcalls, hall⟩
  have hdrop : ((populateTable store.recording tables table progress).2.store.2.toList.drop
      progress.store.2.size) = calls := by
    rw [hcalls, ← Array.length_toList, List.drop_left]
  simp only [callsInTurn, hdrop]

theorem calls_populateAll (store : RowStore σ) (tables rest : List PlannedTable)
    (progress : Progress (σ × Array StoreCall)) :
    (populateAll store.recording tables rest progress).2.store.2.toList =
      progress.store.2.toList ++ (callsInTurn store tables rest progress).map (·.2) := by
  induction rest generalizing progress with
  | nil => simp [populateAll, callsInTurn]
  | cons table rest ih =>
      obtain ⟨calls, hturn, hcalls, _⟩ := callsInTurn_cons store tables rest table progress
      have hnames : (calls.map (table.name, ·)).map (·.2) = calls := by simp [Function.comp_def]
      simp only [populateAll]
      rw [ih, hcalls, hturn, List.map_append, hnames, List.append_assoc]

/-- The calls that are noted in a run are its calls table by table. -/
theorem calls_run (store : RowStore σ) (policy : MissingPolicy) (tables : List PlannedTable)
    (progress : Progress σ) :
    (run store.recording policy tables (progress.mapStore (·, #[]))).2.store.2.toList =
      (runCalls store policy tables progress).map (·.2) := by
  unfold run runCalls
  cases topologicalOrder PlannedTable.node tables policy with
  | error cause => rfl
  | ok ordered =>
      have hstart : (reportMissing ordered.missing (progress.mapStore (·, #[]))).store.2 = #[] :=
        congrArg (fun world : World (σ × Array StoreCall) => world.1.2)
          (world_reportMissing ordered.missing (progress.mapStore (·, #[])))
      have hcalls := calls_populateAll store ordered.items ordered.items
        ((reportMissing ordered.missing (progress.mapStore (·, #[]))).report
          (.populationStarted ordered.items.length (ordered.items.map (·.name))))
      simp only [Progress.report, hstart] at hcalls
      exact hcalls

theorem callFor_of_mem_callsInTurn {progress : Progress (σ × Array StoreCall)}
    {entry : String × StoreCall} (h : entry ∈ callsInTurn store tables rest progress) :
    ∃ table ∈ rest, entry.1 = table.name ∧ CallFor tables table entry.2 := by
  induction rest generalizing progress with
  | nil => cases h
  | cons table rest ih =>
      obtain ⟨calls, hturn, _, hall⟩ := callsInTurn_cons store tables rest table progress
      rw [hturn, List.mem_append] at h
      rcases h with h | h
      · obtain ⟨call, hcall, rfl⟩ := List.mem_map.mp h
        exact ⟨table, List.mem_cons_self, rfl, hall call hcall⟩
      · obtain ⟨other, hmem, hother⟩ := ih h
        exact ⟨other, List.mem_cons_of_mem _ hmem, hother⟩

/-! ### Samples come behind the rows of their table -/

/-- A sample of another table than the one being filled closes it: no row comes to it later. -/
def Closes (earlier later : String × StoreCall) : Prop :=
  ∀ parent column, earlier.2 = .sample parent column → parent ≠ earlier.1 →
    ∀ bindings values, later.2 ≠ .insert parent bindings values

theorem closes_of_callFor {call later : StoreCall} (hlater : CallFor tables table later) :
    Closes (table.name, call) (table.name, later) := by
  rintro parent column _ hne bindings values rfl
  cases hlater
  exact hne rfl

theorem closes_of_notMem {call : StoreCall} {entry : String × StoreCall} {other : PlannedTable}
    (hlists : table.toTable.ListsReferences) (hfree : other.name ∉ table.dependsOn)
    (hcall : CallFor tables table call) (hentry : CallFor tables other entry.2) :
    Closes (table.name, call) entry := by
  rintro parent column rfl _ bindings values hinsert
  have hname : other.name = parent := by
    rw [hinsert] at hentry
    cases hentry
    rfl
  exact hfree (hname ▸ hcall.mem_dependsOn hlists)

/-- In an order without forward dependencies each sample closes its table. -/
theorem callsInTurn_pairwise_closes (hlists : ∀ table ∈ rest, table.toTable.ListsReferences)
    (horder : rest.Pairwise fun earlier later => later.name ∉ earlier.dependsOn)
    (progress : Progress (σ × Array StoreCall)) :
    (callsInTurn store tables rest progress).Pairwise Closes := by
  induction rest generalizing progress with
  | nil => exact .nil
  | cons table rest ih =>
      obtain ⟨hlists, hrest⟩ := List.forall_mem_cons.mp hlists
      obtain ⟨hfree, horder⟩ := List.pairwise_cons.mp horder
      obtain ⟨calls, hturn, _, hcalls⟩ := callsInTurn_cons store tables rest table progress
      rw [hturn, List.pairwise_append]
      refine ⟨?_, ih hrest horder _, ?_⟩
      · rw [List.pairwise_map]
        exact List.pairwise_of_forall_mem_list fun _ _ later hlater =>
          closes_of_callFor (hcalls later hlater)
      · intro entry hentry later hlater
        obtain ⟨call, hcall, rfl⟩ := List.mem_map.mp hentry
        obtain ⟨other, hother, _, hfor⟩ := callFor_of_mem_callsInTurn hlater
        exact closes_of_notMem hlists (hfree other hother) (hcalls call hcall) hfor

theorem runCalls_pairwise_closes (store : RowStore σ) (policy : MissingPolicy)
    (hlists : ∀ table ∈ tables, table.toTable.ListsReferences)
    (hnames : (tables.map (·.name)).Nodup) (progress : Progress σ) :
    (runCalls store policy tables progress).Pairwise Closes := by
  unfold runCalls
  cases hordered : topologicalOrder PlannedTable.node tables policy with
  | error cause => exact .nil
  | ok ordered =>
      have hperm := Dependency.items_perm_of_topologicalOrder_eq_ok hordered
      refine callsInTurn_pairwise_closes
        (fun table hmem => hlists table (hperm.mem_iff.mp hmem)) ?_ _
      exact Dependency.items_pairwise_of_topologicalOrder_eq_ok hordered hnames

/-- **Keys are sampled from filled tables.** Tables of the catalog with different names are mapped,
planned, given rules and filled through any store. The calls that are noted in the run belong each
to the table being filled, and once a key of another table is sampled, that table gets no row. -/
theorem run_samples_filled_tables {σ : Type} (store : RowStore σ) (policy : MissingPolicy)
    (namespaceName : String) (answers : List CatalogTable) (schema : Schema) (config : RulesConfig)
    (progress : Progress σ) (hnames : (answers.map (·.name)).Nodup)
    (hmapped : answers.mapM (·.toTable namespaceName) = .ok schema.tables) :
    let tables := (applyRules (planTables schema) config).tables
    let noted := run store.recording policy tables (progress.mapStore (·, #[]))
    let calls := runCalls store policy tables progress
    run store policy tables progress = noted.map id (Progress.mapStore Prod.fst) ∧
      noted.2.store.2.toList = calls.map (·.2) ∧ calls.Pairwise Closes := by
  intro tables noted calls
  have hshape : tables.map (·.toTable) = schema.tables := by
    rw [applyRules_toTable, planTables_toTable]
  have htables : (tables.map (·.name)).Nodup := by
    have hkept : tables.map (·.name) = (tables.map (·.toTable)).map (·.name) := by
      rw [List.map_map]
      rfl
    rwa [hkept, hshape, CatalogTable.map_name_of_mapM_toTable_eq_ok hmapped]
  have hlists : ∀ table ∈ tables, table.toTable.ListsReferences := by
    intro table hmem
    have htable : table.toTable ∈ schema.tables := hshape ▸ List.mem_map_of_mem hmem
    obtain ⟨found, _, hfound⟩ := exists_mem_of_forall₂ (forall₂_of_mapM_eq_ok hmapped) htable
    exact CatalogTable.listsReferences_of_toTable_eq_ok hfound
  have hinner : run store policy tables progress = noted.map id (Progress.mapStore Prod.fst) :=
    run_mapStore store.recording_projects policy tables (progress.mapStore (·, #[]))
  exact ⟨hinner, calls_run store policy tables progress,
    runCalls_pairwise_closes store policy hlists htables progress⟩

/-- Orders reference users by two constraints of one column, and earlier orders. Users are filled
first, and the second order samples anew. -/
theorem run_samples_filled_tables_of_orders :
    let column (name : String) : CatalogColumn := ⟨name, "integer", none, false, false⟩
    let orders : CatalogTable :=
      ⟨"orders", [column "id", column "user_id", column "parent_id"], ["id"],
        [⟨"user", "user_id", "public", "users", "id"⟩,
          ⟨"audit", "user_id", "audit", "users", "id"⟩,
          ⟨"parent", "parent_id", "public", "orders", "id"⟩]⟩
    let users : CatalogTable := ⟨"users", [column "id"], ["id"], []⟩
    let field (name : String) (references : Option Reference) : Column :=
      ⟨name, "integer", .plain .integer, references.isSome, references, false⟩
    let schema : Schema :=
      { engine := "postgres"
        database := none
        namespaceName := "public"
        tables :=
          [⟨"orders", [field "id" none, field "user_id" (some ⟨"users", some "id"⟩),
              field "parent_id" (some ⟨"orders", some "id"⟩)], ["id"],
              ["users", "audit.users", "orders"]⟩,
            ⟨"users", [field "id" none], ["id"], []⟩] }
    let config : RulesConfig :=
      { tables := .ofList [("orders", ⟨2, .empty⟩), ("users", ⟨1, .empty⟩)] }
    let store : RowStore Unit :=
      { insertRow := fun _ _ _ state stream => ⟨.ok (), state, stream, []⟩
        sampleKey := fun _ _ state stream => ⟨.ok (some "1"), state, stream, []⟩ }
    let bindings : List ColumnBinding := [⟨"user_id", "integer"⟩, ⟨"parent_id", "integer"⟩]
    let order : List (String × StoreCall) :=
      [("orders", .sample "users" "id"), ("orders", .sample "orders" "id"),
        ("orders", .insert "orders" bindings ["1", "1"])]
    let calls := ("users", .insert "users" [] []) :: order ++ order
    ([orders, users].map (·.name)).Nodup ∧
      [orders, users].mapM (·.toTable "public") = .ok schema.tables ∧
      runCalls store .skip (applyRules (planTables schema) config).tables (.start () (.ofSeed 0)) =
        calls ∧ calls.Pairwise Closes := by
  intro column orders users field schema config store bindings order calls
  have hnames : ([orders, users].map (·.name)).Nodup := by decide
  have hmapped : [orders, users].mapM (·.toTable "public") = .ok schema.tables := by decide +kernel
  have hcalls : runCalls store .skip (applyRules (planTables schema) config).tables
      (.start () (.ofSeed 0)) = calls := by decide +kernel
  obtain ⟨_, _, hcloses⟩ := run_samples_filled_tables store .skip "public" [orders, users] schema
    config (.start () (.ofSeed 0)) hnames hmapped
  exact ⟨hnames, hmapped, hcalls, hcalls ▸ hcloses⟩

end Population

end SyntheticRows
