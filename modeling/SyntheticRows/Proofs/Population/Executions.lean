import SyntheticRows.Proofs.Catalog.Supplied
import SyntheticRows.Proofs.Population.Recording
import SyntheticRows.Proofs.Sql.ReadBack
import SyntheticRows.Store.Server
/-!
# What a run sends to its server

A server that notes the statements it executes answers as the server inside. Each row that a run
hands over has a value for each column, so no row is held back, and the statements fall into one
block for each table. All statements of a block supply the columns that the catalog shows to need a
value, whatever rules there are for the others.
-/

namespace SyntheticRows

open Text Sql

variable {σ : Type}

/-- A statement sent for execution, with the values of its parameters. -/
structure Execution where
  statement : String
  parameters : List String
  deriving DecidableEq

namespace Server

def passOn {α : Type} (ask : σ → ServerReply σ α) (noted : σ × Array Execution) :
    ServerReply (σ × Array Execution) α :=
  (ask noted.1).map id (·, noted.2)

/-- Passes everything on and notes what is executed. -/
def noting (server : Server σ) : Server (σ × Array Execution) :=
  { databaseName := passOn server.databaseName
    tableNames := fun namespaceName partitioned =>
      passOn (server.tableNames namespaceName partitioned)
    columns := fun namespaceName table => passOn (server.columns namespaceName table)
    primaryKey := fun namespaceName table => passOn (server.primaryKey namespaceName table)
    foreignKeys := fun namespaceName table => passOn (server.foreignKeys namespaceName table)
    execute := fun statement parameters (state, sent) =>
      passOn (server.execute statement parameters) (state, sent.push ⟨statement, parameters⟩)
    queryText := fun statement => passOn (server.queryText statement) }

theorem rowStore_noting_projects (server : Server σ) (namespaceName : String) :
    (server.noting.rowStore namespaceName).Projects Prod.fst (server.rowStore namespaceName) := by
  constructor
  · intro table bindings values state stream
    simp only [rowStore, insertRow]
    split <;> rfl
  · intro table column state stream
    rfl

end Server

/-- What a server is sent for a call. -/
def StoreCall.execution? (namespaceName : String) : StoreCall → Option Execution
  | insert table columns values => some ⟨insertStatement namespaceName table columns, values⟩
  | sample _ _ => none

def Step.execution? (namespaceName : String) (step : Step) : Option Execution :=
  step.call?.bind (StoreCall.execution? namespaceName)

/-! ### What is noted -/

section Noting

variable {server : Server σ} {namespaceName : String} {state state' : σ}
  {sent sent' : Array Execution} {stream stream' : RandomStream} {step : Step} {steps : List Step}
  {tables : List PlannedTable} {table : PlannedTable}

theorem Server.sent_insertRow (server : Server σ) (namespaceName table : String)
    {bindings : List ColumnBinding} {values : List String} (h : values.length = bindings.length)
    (state : σ) (sent : Array Execution) (stream : RandomStream) :
    (server.noting.insertRow namespaceName table bindings values (state, sent) stream).store.2 =
      sent.push ⟨insertStatement namespaceName table bindings, values⟩ := by
  rw [insertRow, if_neg (not_not.mpr h.symm)]
  rfl

/-- A row that has a value for each column is sent. -/
theorem Server.sent_of_occurs
    (h : Occurs (server.noting.rowStore namespaceName) ((state, sent), stream) step
      ((state', sent'), stream')) (hstep : StepAt tables table step) :
    sent'.toList = sent.toList ++ (step.execution? namespaceName).toList := by
  generalize hfirst : ((state, sent), stream) = first at h
  generalize hlast : ((state', sent'), stream') = last at h
  cases h with
  | drew generator =>
      cases hfirst
      cases hlast
      simp [Step.execution?, Step.call?]
  | sampled key =>
      cases hfirst
      cases hlast
      simp [Step.execution?, Step.call?, StoreCall.execution?]
  | inserted name bindings values =>
      cases hfirst
      have hlength : values.length = bindings.length := by
        cases hstep with
        | inserted complete answer => rw [complete, List.length_map]
      have hsent := Server.sent_insertRow server namespaceName name hlength state sent stream
      have hnoted : sent' = sent.push ⟨insertStatement namespaceName name bindings, values⟩ :=
        (congrArg (·.1.2) hlast).trans hsent
      simp [hnoted, Step.execution?, Step.call?, StoreCall.execution?]

theorem Server.sent_of_trace
    (h : Trace (server.noting.rowStore namespaceName) ((state, sent), stream) steps
      ((state', sent'), stream')) (hsteps : ∀ step ∈ steps, ∃ table, StepAt tables table step) :
    sent'.toList = sent.toList ++ steps.filterMap (Step.execution? namespaceName) := by
  induction steps generalizing state sent stream with
  | nil =>
      cases h
      simp
  | cons step steps ih =>
      obtain ⟨⟨table, hstep⟩, hsteps⟩ := List.forall_mem_cons.mp hsteps
      cases h with
      | @cons _ second _ _ _ head tail =>
          obtain ⟨⟨state, sent⟩, stream⟩ := second
          rw [ih tail hsteps, Server.sent_of_occurs head hstep]
          cases hexecution : step.execution? namespaceName <;> simp [hexecution]

/-- What is noted of a run, with its steps in one block for each of the tables in an order. -/
structure NotedInBlocks (namespaceName : String) (tables items : List PlannedTable)
    (blocks : List (List Step))
    (noted : Except GenerationError PopulationReport ×
      Progress ((σ × Array Execution) × Array StoreCall)) : Prop where
  perm : items.Perm tables
  reported : ∀ report, noted.1 = .ok report → report.order = items.map (·.name)
  steps : List.Forall₂ (fun table steps => ∀ step ∈ steps, StepAt items table step) items blocks
  calls : noted.2.store.2.toList = blocks.flatten.filterMap Step.call?
  sent : noted.2.store.1.2.toList = blocks.flatten.filterMap (Step.execution? namespaceName)

/-- A run without an order ends before its first call. -/
theorem notedInBlocks_of_no_order {policy : MissingPolicy} {cause : DependencyError}
    (h : topologicalOrder PlannedTable.node tables policy = .error cause) (server : Server σ)
    (namespaceName : String) (progress : Progress σ) :
    NotedInBlocks namespaceName tables tables (tables.map fun _ => [])
      (Population.run (server.noting.rowStore namespaceName).recording policy tables
        (progress.mapStore fun state => ((state, #[]), #[]))) := by
  have hflatten : (tables.map fun _ => ([] : List Step)).flatten = [] := by simp
  rw [Population.run_eq_error h]
  constructor
  case perm => exact .refl _
  case reported => exact nofun
  case steps =>
    rw [List.forall₂_map_right_iff]
    exact List.forall₂_same.mpr fun table _ => List.forall_mem_nil _
  case calls =>
    rw [hflatten]
    rfl
  case sent =>
    rw [hflatten]
    rfl

/-- In a run with an order each row that is handed over is sent. -/
theorem exists_notedInBlocks_of_order {policy : MissingPolicy}
    {ordered : DependencyOrder PlannedTable}
    (h : topologicalOrder PlannedTable.node tables policy = .ok ordered) (server : Server σ)
    (namespaceName : String) (progress : Progress σ) :
    ∃ blocks, NotedInBlocks namespaceName tables ordered.items blocks
      (Population.run (server.noting.rowStore namespaceName).recording policy tables
        (progress.mapStore fun state => ((state, #[]), #[]))) := by
  obtain ⟨report, ⟨⟨⟨state, sent⟩, calls⟩, stream, events⟩, blocks, hrun, horder, hblocks,
    htrace⟩ :=
    Population.trace_run h (server.noting.rowStore namespaceName).recording
      (progress.mapStore fun state => ((state, #[]), #[]))
  obtain ⟨htrace, hcalls⟩ := RowStore.trace_of_trace_recording htrace
  have hsteps : List.Forall₂
      (fun table steps => ∀ step ∈ steps, StepAt ordered.items table step) ordered.items blocks :=
    hblocks.imp fun _ _ hblock _ => hblock.stepAt_of_mem
  have hall : ∀ step ∈ blocks.flatten, ∃ table, StepAt ordered.items table step := by
    intro step hmem
    obtain ⟨block, hblock, hmem⟩ := List.mem_flatten.mp hmem
    obtain ⟨table, -, htable⟩ := exists_mem_of_forall₂ hsteps hblock
    exact ⟨table, htable step hmem⟩
  have hsent := Server.sent_of_trace htrace hall
  rw [hrun]
  refine ⟨blocks, Dependency.items_perm_of_topologicalOrder_eq_ok h, ?_, hsteps, ?_, ?_⟩
  · rintro report ⟨⟩
    exact horder
  · simpa using hcalls
  · simpa using hsent

theorem Server.exists_notedInBlocks (server : Server σ) (namespaceName : String)
    (policy : MissingPolicy) (tables : List PlannedTable) (progress : Progress σ) :
    ∃ items blocks, NotedInBlocks namespaceName tables items blocks
      (Population.run (server.noting.rowStore namespaceName).recording policy tables
        (progress.mapStore fun state => ((state, #[]), #[]))) := by
  cases hordered : topologicalOrder PlannedTable.node tables policy with
  | error cause =>
      exact ⟨tables, _, notedInBlocks_of_no_order hordered server namespaceName progress⟩
  | ok ordered =>
      exact ⟨ordered.items, exists_notedInBlocks_of_order hordered server namespaceName progress⟩

end Noting

/-! ### The statements of a run -/

/-- An insert that supplies the columns which the catalog shows to need a value. -/
structure InsertsSupplied (namespaceName : String) (table : CatalogTable) (sent : Execution) :
    Prop where
  default : sent.statement.toList =
      "INSERT INTO ".toList ++ (qualifiedName namespaceName.toList table.name.toList ++
        " DEFAULT VALUES".toList) ↔ table.suppliedColumns = []
  listed : table.suppliedColumns ≠ [] → sent.statement.toList =
    "INSERT INTO ".toList ++ (qualifiedName namespaceName.toList table.name.toList ++
      ([' ', '('] ++
        (joinWith [',', ' ']
            (table.suppliedColumns.map fun column => inQuotes column.name.toList) ++
          (") VALUES (".toList ++
            (joinWith [',', ' '] (table.suppliedColumns.mapIdx fun i column =>
              '$' :: decimal (i + 1) ++ ':' :: ':' :: column.declaredType.toList) ++ [')'])))))
  bound : sent.parameters.length = table.suppliedColumns.length

theorem placeholders_map {α : Type} (number : Nat) (binding : α → ColumnBinding)
    (items : List α) :
    placeholders number (items.map binding) =
      items.mapIdx fun i item => placeholder (number + i) (binding item).sqlType := by
  induction items generalizing number with
  | nil => rfl
  | cons item items ih =>
      rw [List.map_cons, placeholders, ih, List.mapIdx_cons]
      simp only [Nat.add_assoc, Nat.add_comm 1, Nat.add_zero]

theorem insertsSupplied_insertStatement {namespaceName : String} {found : CatalogTable}
    {planned : PlannedTable} (h : found.toTable namespaceName = .ok planned.toTable)
    {values : List String} (hvalues : values.length = planned.insertColumns.length) :
    InsertsSupplied namespaceName found
      ⟨insertStatement namespaceName planned.name (planned.insertColumns.map (·.binding)),
        values⟩ := by
  obtain ⟨-, hname, -, -⟩ := CatalogTable.toTable_eq_ok_iff.mp h
  have hplanned : planned.name = found.name := hname
  have hbindings := CatalogTable.map_binding_insertColumns h
  have hlength := congrArg List.length hbindings
  rw [List.length_map, List.length_map] at hlength
  rw [hbindings]
  generalize hcolumns : (found.suppliedColumns.map fun column =>
    (⟨column.name, column.declaredType⟩ : ColumnBinding)) = columns
  have htext : (insertStatement namespaceName planned.name columns).toList =
      "INSERT INTO ".toList ++
        (qualifiedName namespaceName.toList found.name.toList ++ insertedColumns columns) := by
    rw [insertStatement, String.toList_ofList, insertText_eq, hplanned]
  constructor
  · rw [htext, List.append_cancel_left_eq, List.append_cancel_left_eq,
      insertedColumns_eq_default_iff, ← hcolumns, List.map_eq_nil_iff]
  · intro hsupplied
    have hne : columns ≠ [] := by
      rw [← hcolumns]
      exact fun h => hsupplied (List.map_eq_nil_iff.mp h)
    have hnames : (columns.map (·.name.toList)).map inQuotes =
        found.suppliedColumns.map fun column => inQuotes column.name.toList := by
      rw [← hcolumns, List.map_map, List.map_map]
      rfl
    have hparameters : placeholders 1 columns = found.suppliedColumns.mapIdx fun i column =>
        '$' :: decimal (i + 1) ++ ':' :: ':' :: column.declaredType.toList := by
      rw [← hcolumns, placeholders_map]
      simp only [placeholder, Nat.add_comm 1]
    rw [htext, insertedColumns_of_ne_nil hne, hnames, hparameters]
  · exact hvalues.trans hlength

theorem StepAt.insertsSupplied {namespaceName : String} {found : CatalogTable}
    {tables : List PlannedTable} {planned : PlannedTable} {step : Step} {execution : Execution}
    (hstep : StepAt tables planned step)
    (h : found.toTable namespaceName = .ok planned.toTable)
    (hexecution : step.execution? namespaceName = some execution) :
    InsertsSupplied namespaceName found execution := by
  cases hstep with
  | drew mem value => cases hexecution
  | sampled mem resolved answer => cases hexecution
  | inserted complete answer =>
      obtain rfl := Option.some.inj hexecution
      exact insertsSupplied_insertStatement h complete

/-- **Inserts supply what the catalog shows to need a value.** Tables of the catalog are mapped,
planned, given rules and filled through a server. What the server is sent falls into one block for
each table. Every statement of a block lists, in the order of the catalog, the columns that have no
other source of values, each with a parameter that is cast to the declared type, and comes with one
value for each; if there are none, it inserts the defaults. Each row that is handed over is sent, so
values always match their columns. -/
theorem run_inserts_supplied_columns (server : Server σ) (namespaceName : String)
    (policy : MissingPolicy) (answers : List CatalogTable) (schema : Schema) (config : RulesConfig)
    (progress : Progress σ)
    (hmapped : answers.mapM (·.toTable namespaceName) = .ok schema.tables) :
    let tables := (applyRules (planTables schema) config).tables
    let noted := Population.run (server.noting.rowStore namespaceName).recording policy tables
      (progress.mapStore fun state => ((state, #[]), #[]))
    let sent := noted.2.store.1.2.toList
    Population.run (server.rowStore namespaceName) policy tables progress =
        noted.map id (Progress.mapStore fun state => state.1.1) ∧
      sent = noted.2.store.2.toList.filterMap (StoreCall.execution? namespaceName) ∧
      ∃ order blocks, order.Perm answers ∧
        (∀ report, noted.1 = .ok report → report.order = order.map (·.name)) ∧
        List.Forall₂ (fun table block => ∀ execution ∈ block,
          InsertsSupplied namespaceName table execution) order blocks ∧
        sent = blocks.flatten := by
  intro tables noted sent
  have hprojects : (server.noting.rowStore namespaceName).recording.Projects
      (Prod.fst ∘ Prod.fst) (server.rowStore namespaceName) :=
    (RowStore.recording_projects _).trans (server.rowStore_noting_projects namespaceName)
  have hinner : Population.run (server.rowStore namespaceName) policy tables progress =
      noted.map id (Progress.mapStore fun state => state.1.1) :=
    Population.run_mapStore hprojects policy tables
      (progress.mapStore fun state => ((state, #[]), #[]))
  have hshape : tables.map (·.toTable) = schema.tables := by
    rw [applyRules_toTable, planTables_toTable]
  have hplanned : List.Forall₂
      (fun planned table => table.toTable namespaceName = .ok planned.toTable) tables answers := by
    have hmapped := forall₂_of_mapM_eq_ok hmapped
    rw [← hshape, List.forall₂_map_right_iff] at hmapped
    exact hmapped.flip
  obtain ⟨items, blocks, hitems, hreport, hblocks, hcalls, hsent⟩ :=
    server.exists_notedInBlocks namespaceName policy tables progress
  obtain ⟨order, horder, hperm⟩ := List.perm_comp_forall₂ hitems hplanned
  have hnames : items.map (·.name) = order.map (·.name) := by
    refine map_eq_map_of_forall₂ (horder.imp fun planned table htable => ?_)
    exact (CatalogTable.toTable_eq_ok_iff.mp htable).2.1
  refine ⟨hinner, ?_, order, blocks.map (List.filterMap (Step.execution? namespaceName)), hperm,
    fun report hok => (hreport report hok).trans hnames, ?_, ?_⟩
  · exact hsent.trans ((congrArg _ hcalls).trans List.filterMap_filterMap).symm
  · rw [List.forall₂_map_right_iff]
    refine forall₂_trans horder.flip hblocks ?_
    intro table planned steps htable hsteps execution hmem
    obtain ⟨step, hstep, hexecution⟩ := List.mem_filterMap.mp hmem
    exact (hsteps step hstep).insertsSupplied htable hexecution
  · exact hsent.trans List.filterMap_flatten

/-- Rules for a key and for a column that a sequence fills change nothing. -/
theorem run_inserts_supplied_columns_of_orders :
    let orders : CatalogTable :=
      { name := "orders"
        columns :=
          [⟨"id", "integer", some " nextval('orders_id_seq'::regclass)", false, false⟩,
            ⟨"code", "uuid", none, false, false⟩,
            ⟨"amount", "numeric(10, 2)", some "0", false, false⟩,
            ⟨"line", "bigint", none, true, false⟩,
            ⟨"search", "tsvector", none, false, false⟩,
            ⟨"no \"te", "text", none, false, false⟩]
        primaryKey := ["code"]
        foreignKeys := [] }
    let visits : CatalogTable :=
      ⟨"visits", [⟨"visit", "timestamp", none, false, true⟩], [], []⟩
    let schema : Schema :=
      { engine := "postgres"
        database := none
        namespaceName := "public"
        tables :=
          [⟨"orders",
              [⟨"id", "integer", .plain .serial, false, none, true⟩,
                ⟨"code", "uuid", .plain .uuid, false, none, false⟩,
                ⟨"amount", "numeric(10, 2)", .numeric (some 10) (some 2), false, none, false⟩,
                ⟨"line", "bigint", .plain .bigInt, false, none, true⟩,
                ⟨"search", "tsvector", .plain .tsVector, false, none, false⟩,
                ⟨"no \"te", "text", .plain .text, false, none, false⟩], ["code"], []⟩,
            ⟨"visits", [⟨"visit", "timestamp", .timestamp none false, false, none, true⟩], [],
              []⟩] }
    let config : RulesConfig :=
      { tables := .ofList
          [("orders", ⟨1, .ofList [("id", "constant[7]"), ("code", "constant[x]"),
              ("amount", "constant[1.50]"), ("no \"te", "constant[paid]")]⟩),
            ("visits", ⟨2, .empty⟩)] }
    let server : Server Unit :=
      { databaseName := fun _ => (.ok "shop", ())
        tableNames := fun _ _ _ => (.ok [], ())
        columns := fun _ _ _ => (.ok [], ())
        primaryKey := fun _ _ _ => (.ok [], ())
        foreignKeys := fun _ _ _ => (.ok [], ())
        execute := fun _ _ _ => (.ok (), ())
        queryText := fun _ _ => (.ok none, ()) }
    let noted := Population.run (server.noting.rowStore "public").recording .skip
      (applyRules (planTables schema) config).tables
      ((Progress.start () (.ofSeed 0)).mapStore fun state => ((state, #[]), #[]))
    let sent : List Execution :=
      [⟨"INSERT INTO \"public\".\"orders\" (\"amount\", \"no \"\"te\") " ++
          "VALUES ($1::numeric(10, 2), $2::text)", ["1.50", "paid"]⟩,
        ⟨"INSERT INTO \"public\".\"visits\" DEFAULT VALUES", []⟩,
        ⟨"INSERT INTO \"public\".\"visits\" DEFAULT VALUES", []⟩]
    [orders, visits].mapM (·.toTable "public") = .ok schema.tables ∧
      noted.2.store.1.2.toList = sent ∧
      ∃ order blocks, order.Perm [orders, visits] ∧
        List.Forall₂ (fun table block => ∀ execution ∈ block,
          InsertsSupplied "public" table execution) order blocks ∧ sent = blocks.flatten := by
  intro orders visits schema config server noted sent
  have hmapped : [orders, visits].mapM (·.toTable "public") = .ok schema.tables := by
    decide +kernel
  have hsent : noted.2.store.1.2.toList = sent := by decide +kernel
  obtain ⟨_, _, order, blocks, hperm, _, hblocks, hflatten⟩ :=
    run_inserts_supplied_columns server "public" .skip [orders, visits] schema config
      (.start () (.ofSeed 0)) hmapped
  exact ⟨hmapped, hsent, order, blocks, hperm, hblocks, hsent.symm.trans hflatten⟩

end SyntheticRows
