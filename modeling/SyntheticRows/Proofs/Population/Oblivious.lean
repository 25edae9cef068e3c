import SyntheticRows.Proofs.Dependency.Order
import SyntheticRows.Proofs.Population.Recording
import SyntheticRows.Proofs.Store.MemoryShape
/-!
# Runs do not look at values

Two runs over an oblivious store, for tables that differ in their generators only, go hand in hand:
they ask the same, with other values, and end alike. Each piece of the run is taken from a pair of
states that are alike to another such pair. The random streams of the two runs have nothing to do
with one another.
-/

namespace SyntheticRows

variable {σ : Type}

/-- States of two runs that agree but for the values in the stores and the random streams. -/
structure Progress.Alike (alike : σ → σ → Prop) (left right : Progress σ) : Prop where
  store : alike left.store right.store
  events : left.events = right.events

/-- Outcomes of two runs: the same failure or results that belong together, with states that are
alike behind them. -/
inductive AlikeOutcomes {α : Type} (alike : σ → σ → Prop) (related : α → α → Prop) :
    Except GenerationError α × Progress σ → Except GenerationError α × Progress σ → Prop where
  | error {left right : Progress σ} (cause : GenerationError) (behind : left.Alike alike right) :
      AlikeOutcomes alike related (.error cause, left) (.error cause, right)
  | ok {result result' : α} {left right : Progress σ} (results : related result result')
      (behind : left.Alike alike right) :
      AlikeOutcomes alike related (.ok result, left) (.ok result', right)

/-- The reference that a value is taken from; a generated value has none. -/
def ValueSource.key? : ValueSource → Option ReferenceKey
  | generated _ => none
  | referenced key => some key

/-- Tables that differ in their generators only. -/
structure PlannedTable.Alike (left right : PlannedTable) : Prop where
  toTable : left.toTable = right.toTable
  rows : left.rows = right.rows

namespace Progress.Alike

variable {alike : σ → σ → Prop} {left right : Progress σ}

theorem report (h : left.Alike alike right) (event : Event) :
    (left.report event).Alike alike (right.report event) :=
  ⟨h.store, congrArg (·.push event) h.events⟩

theorem draw {α : Type} (h : left.Alike alike right) (draw draw' : Draw α) :
    (left.draw draw).2.Alike alike (right.draw draw').2 :=
  ⟨h.store, h.events⟩

theorem afterReply {α β : Type} {view : α → β} {reply reply' : StoreReply σ α}
    (h : left.Alike alike right) (hreply : reply.Alike alike view reply') :
    (left.afterReply reply).Alike alike (right.afterReply reply') :=
  ⟨hreply.store, by simp only [Progress.afterReply, h.events, hreply.events]⟩

end Progress.Alike

/-! ### What tables tell about references -/

theorem keyColumnOf?_congr {tables tables' : List PlannedTable}
    (h : tables.map (·.toTable) = tables'.map (·.toTable)) (name : String) :
    keyColumnOf? tables name = keyColumnOf? tables' name := by
  have hkey : ∀ tables : List PlannedTable, keyColumnOf? tables name =
      ((tables.map (·.toTable)).find? (·.name == name)).bind (·.primaryKey.head?) := by
    intro tables
    rw [List.find?_map, Option.bind_map]
    rfl
  rw [hkey, hkey, h]

namespace PlannedTable.Alike

variable {table table' : PlannedTable} {tables tables' : List PlannedTable}

theorem name (h : table.Alike table') : table.name = table'.name :=
  congrArg Table.name h.toTable

theorem node (h : table.Alike table') : table.node = table'.node :=
  congrArg (fun kept : Table => (⟨kept.name, kept.dependsOn⟩ : DependencyNode)) h.toTable

theorem insertColumns (h : table.Alike table') :
    table.insertColumns.map (·.column) = table'.insertColumns.map (·.column) := by
  have hcolumns : ∀ table : PlannedTable, table.insertColumns.map (·.column) =
      table.toTable.columns.filter fun column =>
        column.isInsertable && !table.toTable.primaryKey.contains column.name := by
    intro table
    simp only [PlannedTable.toTable, List.filter_map]
    rfl
  rw [hcolumns, hcolumns, h.toTable]

theorem bindings (h : table.Alike table') :
    table.insertColumns.map (·.binding) = table'.insertColumns.map (·.binding) := by
  have hbinding : ∀ columns : List PlannedColumn, columns.map (·.binding) =
      (columns.map (·.column)).map fun column => ⟨column.name, column.rawType⟩ := by
    intro columns
    rw [List.map_map]
    rfl
  rw [hbinding, hbinding, h.insertColumns]

theorem resolveReference (h : table.Alike table')
    (htables : tables.map (·.toTable) = tables'.map (·.toTable)) {column column' : PlannedColumn}
    (hcolumn : column.column = column'.column) :
    SyntheticRows.resolveReference table column tables =
      SyntheticRows.resolveReference table' column' tables' := by
  unfold SyntheticRows.resolveReference PlannedColumn.name
  simp only [h.name, hcolumn, keyColumnOf?_congr htables]

theorem source (h : table.Alike table')
    (htables : tables.map (·.toTable) = tables'.map (·.toTable)) {column column' : PlannedColumn}
    (hcolumn : column.column = column'.column) :
    (column.source table tables).map (Prod.map id ValueSource.key?) =
      (column'.source table' tables').map (Prod.map id ValueSource.key?) := by
  unfold PlannedColumn.source PlannedColumn.name
  rw [h.resolveReference htables hcolumn, hcolumn]
  split
  · cases SyntheticRows.resolveReference table' column' tables' <;> rfl
  · rfl

/-- The sources of the columns agree in all but their generators, or fail for the same reason. -/
theorem sources (h : table.Alike table')
    (htables : tables.map (·.toTable) = tables'.map (·.toTable)) :
    (table.insertColumns.mapM fun column : PlannedColumn => column.source table tables).map
        (List.map (Prod.map id ValueSource.key?)) =
      (table'.insertColumns.mapM fun column : PlannedColumn => column.source table' tables').map
        (List.map (Prod.map id ValueSource.key?)) :=
  map_mapM_congr ((forall₂_of_map_eq_map h.insertColumns).imp fun _ _ => h.source htables)

end PlannedTable.Alike

namespace Population

variable {store : RowStore σ} {alike : σ → σ → Prop} {left right : Progress σ}

theorem columnValue_alike (hstore : store.Oblivious alike) (table column : String)
    {source source' : ValueSource} (hsource : source.key? = source'.key?)
    (h : left.Alike alike right) :
    AlikeOutcomes alike (fun _ _ => True) (columnValue store table column source left)
      (columnValue store table column source' right) := by
  cases source with
  | generated generator =>
      cases source' with
      | generated generator' => exact .ok trivial (h.draw generator.draw generator'.draw)
      | referenced key' => cases hsource
  | referenced key =>
      cases source' with
      | generated generator' => cases hsource
      | referenced key' =>
          obtain rfl := Option.some.inj hsource
          have hreply := hstore.sampleKey key.table key.column left.stream right.stream h.store
          have hafter := h.afterReply hreply
          unfold columnValue
          dsimp only
          rcases error_or_ok_of_map_eq_map hreply.answer with
            ⟨cause, hleft, hright⟩ | ⟨value, value', hleft, hright, hsome⟩
          · rw [hleft, hright]
            exact .error _ hafter
          · rw [hleft, hright]
            -- There is a value on both sides or on neither.
            cases value <;> cases value'
            · exact .error _ hafter
            · cases hsome
            · cases hsome
            · exact .ok trivial hafter

/-- Rows get as many values, or fail for the same reason. -/
theorem rowValues_alike (hstore : store.Oblivious alike) (table : String)
    {sources sources' : List (String × ValueSource)}
    (hsources : sources.map (Prod.map id ValueSource.key?) =
      sources'.map (Prod.map id ValueSource.key?)) (h : left.Alike alike right) :
    AlikeOutcomes alike (fun values values' => values.length = values'.length)
      (rowValues store table sources left) (rowValues store table sources' right) := by
  replace hsources := forall₂_of_map_eq_map hsources
  induction hsources generalizing left right with
  | nil => exact .ok rfl h
  | @cons entry entry' sources sources' hentry _ ih =>
      obtain ⟨hcolumn, hsource⟩ := Prod.mk.inj hentry
      have hvalue := columnValue_alike hstore table entry.1 hsource h
      unfold rowValues
      rw [show entry'.1 = entry.1 from hcolumn.symm]
      generalize columnValue store table entry.1 entry.2 left = first at hvalue ⊢
      generalize columnValue store table entry.1 entry'.2 right = second at hvalue ⊢
      cases hvalue with
      | error cause hmiddle => exact .error cause hmiddle
      | @ok _ _ middle middle' _ hmiddle =>
          have hrest := ih hmiddle
          dsimp only
          generalize rowValues store table sources middle = first at hrest ⊢
          generalize rowValues store table sources' middle' = second at hrest ⊢
          cases hrest with
          | error cause hlast => exact .error cause hlast
          | ok hlength hlast => exact .ok (congrArg (· + 1) hlength) hlast

theorem insertValues_alike (hstore : store.Oblivious alike) (table : String)
    (bindings : List ColumnBinding) (row : Nat) {values values' : List String}
    (hvalues : values.length = values'.length) (tally : Tally) (h : left.Alike alike right) :
    let first := insertValues store table bindings row values tally left
    let second := insertValues store table bindings row values' tally right
    first.1 = second.1 ∧ first.2.Alike alike second.2 := by
  have hreply := hstore.insertRow table bindings left.stream right.stream hvalues h.store
  have hafter := h.afterReply hreply
  unfold insertValues
  dsimp only
  rcases error_or_ok_of_map_eq_map hreply.answer with
    ⟨cause, hleft, hright⟩ | ⟨_, _, hleft, hright, _⟩
  · rw [hleft, hright]
    exact ⟨rfl, hafter.report _⟩
  · rw [hleft, hright]
    exact ⟨rfl, hafter⟩

theorem attemptRows_alike (hstore : store.Oblivious alike) (table : String)
    (bindings : List ColumnBinding) {sources sources' : List (String × ValueSource)}
    (hsources : sources.map (Prod.map id ValueSource.key?) =
      sources'.map (Prod.map id ValueSource.key?)) (remaining row : Nat) (tally : Tally)
    (h : left.Alike alike right) :
    let first := attemptRows store table bindings sources remaining row tally left
    let second := attemptRows store table bindings sources' remaining row tally right
    first.1 = second.1 ∧ first.2.1 = second.2.1 ∧ first.2.2.Alike alike second.2.2 := by
  induction remaining generalizing row tally left right with
  | zero => exact ⟨rfl, rfl, h⟩
  | succ remaining ih =>
      have hvalues := rowValues_alike hstore table hsources h
      unfold attemptRows
      generalize rowValues store table sources left = first at hvalues ⊢
      generalize rowValues store table sources' right = second at hvalues ⊢
      cases hvalues with
      | error cause hmiddle => exact ⟨rfl, rfl, hmiddle⟩
      | ok hlength hmiddle =>
          -- The values differ from here on, and only their number goes into the answer.
          obtain ⟨htally, hnext⟩ :=
            insertValues_alike hstore table bindings row hlength tally hmiddle
          dsimp only
          rw [htally]
          exact ih (row + 1) _ hnext

variable {table table' : PlannedTable} {tables tables' : List PlannedTable}

theorem insertRows_alike (hstore : store.Oblivious alike) (htable : table.Alike table')
    (htables : tables.map (·.toTable) = tables'.map (·.toTable)) (h : left.Alike alike right) :
    let first := insertRows store table tables left
    let second := insertRows store table' tables' right
    first.1 = second.1 ∧ first.2.1 = second.2.1 ∧ first.2.2.Alike alike second.2.2 := by
  unfold insertRows
  dsimp only
  rcases error_or_ok_of_map_eq_map (htable.sources htables) with
    ⟨cause, hleft, hright⟩ | ⟨sources, sources', hleft, hright, hsources⟩
  · rw [hleft, hright]
    exact ⟨rfl, rfl, h⟩
  · rw [hleft, hright]
    dsimp only
    rw [htable.name, htable.bindings, htable.rows]
    exact attemptRows_alike hstore _ _ hsources _ 0 ⟨0, 0⟩ h

theorem tableReport_congr (h : table.Alike table') (tally : Tally) (status : TableStatus) :
    tableReport table tally status = tableReport table' tally status := by
  rw [tableReport, tableReport, h.name, h.rows]

theorem populateTable_alike (hstore : store.Oblivious alike) (htable : table.Alike table')
    (htables : tables.map (·.toTable) = tables'.map (·.toTable)) (h : left.Alike alike right) :
    let first := populateTable store tables table left
    let second := populateTable store tables' table' right
    first.1 = second.1 ∧ first.2.Alike alike second.2 := by
  unfold populateTable
  simp only [htable.rows, htable.name, tableReport_congr htable]
  split
  · exact ⟨rfl, h.report _⟩
  · obtain ⟨houtcome, htally, hlast⟩ := insertRows_alike hstore htable htables
      (h.report (.populatingTable table'.name table'.rows))
    generalize insertRows store table tables
      (left.report (.populatingTable table'.name table'.rows)) = first at houtcome htally hlast ⊢
    generalize insertRows store table' tables'
      (right.report (.populatingTable table'.name table'.rows)) = second at houtcome htally hlast ⊢
    obtain ⟨outcome, tally, after⟩ := first
    obtain ⟨outcome', tally', after'⟩ := second
    obtain rfl : outcome = outcome' := houtcome
    obtain rfl : tally = tally' := htally
    cases outcome with
    | error cause => exact ⟨rfl, hlast.report _⟩
    | ok => exact ⟨rfl, hlast.report _⟩

theorem populateAll_alike (hstore : store.Oblivious alike)
    (htables : tables.map (·.toTable) = tables'.map (·.toTable)) {rest rest' : List PlannedTable}
    (hrest : List.Forall₂ PlannedTable.Alike rest rest') (h : left.Alike alike right) :
    let first := populateAll store tables rest left
    let second := populateAll store tables' rest' right
    first.1 = second.1 ∧ first.2.Alike alike second.2 := by
  induction hrest generalizing left right with
  | nil => exact ⟨rfl, h⟩
  | cons htable _ ih =>
      obtain ⟨hreport, hmiddle⟩ := populateTable_alike hstore htable htables h
      obtain ⟨hreports, hlast⟩ := ih hmiddle
      exact ⟨congrArg₂ List.cons hreport hreports, hlast⟩

theorem reportMissing_alike (missing : List MissingDependency) (h : left.Alike alike right) :
    (reportMissing missing left).Alike alike (reportMissing missing right) := by
  induction missing generalizing left right with
  | nil => exact h
  | cons entry missing ih => exact ih (h.report _)

theorem runOrdered_alike (hstore : store.Oblivious alike)
    {ordered ordered' : DependencyOrder PlannedTable}
    (hitems : List.Forall₂ PlannedTable.Alike ordered.items ordered'.items)
    (hmissing : ordered.missing = ordered'.missing) (h : left.Alike alike right) :
    let first := runOrdered store ordered left
    let second := runOrdered store ordered' right
    first.1 = second.1 ∧ first.2.Alike alike second.2 := by
  have htables := map_eq_map_of_forall₂ (hitems.imp fun _ _ => PlannedTable.Alike.toTable)
  have hnames := map_eq_map_of_forall₂ (hitems.imp fun _ _ => PlannedTable.Alike.name)
  have hstart := (reportMissing_alike ordered'.missing h).report
    (.populationStarted ordered'.items.length (ordered'.items.map (·.name)))
  obtain ⟨hreports, hlast⟩ := populateAll_alike hstore htables hitems hstart
  unfold runOrdered
  dsimp only at hreports ⊢
  rw [hmissing, hnames, hitems.length_eq, hreports]
  exact ⟨rfl, hlast.report _⟩

/-- Runs for tables that differ in their generators only end alike. -/
theorem run_alike (hstore : store.Oblivious alike) (policy : MissingPolicy)
    (htables : List.Forall₂ PlannedTable.Alike tables tables') (h : left.Alike alike right) :
    AlikeOutcomes alike (· = ·) (run store policy tables left)
      (run store policy tables' right) := by
  unfold run
  rcases Dependency.topologicalOrder_forall₂ htables (fun _ _ => PlannedTable.Alike.node)
      policy with
    ⟨cause, hleft, hright⟩ | ⟨ordered, ordered', hleft, hright, hitems, hmissing⟩
  · rw [hleft, hright]
    exact .error _ h
  · rw [hleft, hright]
    obtain ⟨hreport, hafter⟩ := runOrdered_alike hstore hitems hmissing h
    exact .ok hreport hafter

/-! ### Runs in memory -/

/-- A run for a schema over a fresh store in memory, behind outages, with a record of its calls. -/
def recordedRun (schema : Schema) (config : RulesConfig) (policy : MissingPolicy)
    (outages : Outages) (stream : RandomStream) :
    Except GenerationError PopulationReport × Progress (Faulty MemoryStore × Array StoreCall) :=
  let tables := (applyRules (planTables schema) config).tables
  run (MemoryStore.rowStore.interrupted outages).recording policy tables
    (.start (⟨.ofTables tables, 0, 0⟩, #[]) stream)

theorem interrupted_never_projects (inner : RowStore σ) :
    RowStore.Projects Faulty.store (inner.interrupted .never) inner :=
  ⟨fun _ _ _ _ _ => rfl, fun _ _ _ _ => rfl⟩

/-- Without outages the recorded run is the run in memory. -/
theorem populateInMemory_eq_recordedRun_never (schema : Schema) (config : RulesConfig)
    (policy : MissingPolicy) (stream : RandomStream) :
    populateInMemory policy (applyRules (planTables schema) config).tables stream =
      (recordedRun schema config policy .never stream).map id
        (Progress.mapStore (Faulty.store ∘ Prod.fst)) := by
  have hprojects := (RowStore.recording_projects _).trans
    (interrupted_never_projects MemoryStore.rowStore)
  unfold populateInMemory recordedRun
  dsimp only
  rw [← run_mapStore hprojects]
  rfl

theorem toTable_applyRules_congr (schema : Schema) (config config' : RulesConfig) :
    (applyRules (planTables schema) config).tables.map (·.toTable) =
      (applyRules (planTables schema) config').tables.map (·.toTable) :=
  (applyRules_toTable (planTables schema) config).trans
    (applyRules_toTable (planTables schema) config').symm

theorem alike_applyRules {schema : Schema} {config config' : RulesConfig}
    (hrows : (applyRules (planTables schema) config).tables.map (·.rows) =
      (applyRules (planTables schema) config').tables.map (·.rows)) :
    List.Forall₂ PlannedTable.Alike (applyRules (planTables schema) config).tables
      (applyRules (planTables schema) config').tables := by
  have hkept := forall₂_of_map_eq_map (toTable_applyRules_congr schema config config')
  have hcounts := forall₂_of_map_eq_map hrows
  exact List.forall₂_iff_get.mpr ⟨hkept.length_eq, fun position hlt hlt' =>
    ⟨hkept.get hlt hlt', hcounts.get hlt hlt'⟩⟩

/-- **A run in memory does not depend on values.** Two configurations that ask for as many rows of
each table lead to the same outcome, the same events and the same calls but for the values,
whatever the random streams are and whichever calls the outages cut off. -/
theorem recordedRun_independent_of_values (schema : Schema) (config config' : RulesConfig)
    (hrows : (applyRules (planTables schema) config).tables.map (·.rows) =
      (applyRules (planTables schema) config').tables.map (·.rows))
    (policy : MissingPolicy) (outages : Outages) (stream stream' : RandomStream) :
    let first := recordedRun schema config policy outages stream
    let second := recordedRun schema config' policy outages stream'
    first.1 = second.1 ∧ first.2.events = second.2.events ∧
      first.2.store.2.map StoreCall.blank = second.2.store.2.map StoreCall.blank := by
  intro first second
  have hfresh : (MemoryStore.ofTables (applyRules (planTables schema) config).tables).Alike
      (.ofTables (applyRules (planTables schema) config').tables) := by
    intro name
    rw [MemoryStore.ofTables_congr (toTable_applyRules_congr schema config config')]
  have hstore := (MemoryStore.rowStore_oblivious.interrupted outages).recording
  have hrun : AlikeOutcomes _ (· = ·) first second :=
    run_alike hstore policy (alike_applyRules hrows) ⟨⟨⟨hfresh, rfl, rfl⟩, rfl⟩, rfl⟩
  generalize first = first at hrun ⊢
  generalize second = second at hrun ⊢
  cases hrun with
  | error cause hafter => exact ⟨rfl, hafter.events, hafter.store.2⟩
  | ok hreport hafter => exact ⟨congrArg Except.ok hreport, hafter.events, hafter.store.2⟩

/-- Orders hold the codes of users. -/
def codeSchema : Schema :=
  { engine := "postgres"
    database := none
    namespaceName := "public"
    tables :=
      [⟨"orders", [⟨"user_code", "text", .plain .text, true, some ⟨"users", some "code"⟩, false⟩],
          [], ["users"]⟩,
        ⟨"users", [⟨"code", "text", .plain .text, false, none, false⟩], [], []⟩] }

/-- Two users, whose codes follow a rule, and three orders. -/
def codeConfig (rule : String) : RulesConfig :=
  { tables := .ofList [("orders", ⟨3, .empty⟩), ("users", ⟨2, .ofList [("code", rule)]⟩)] }

/-- The second user is refused and the second sample comes back empty. -/
def codeFaults : FaultPlan :=
  { rejectedInserts := [2], failedSamples := [], emptySamples := [2] }

/-- Orders end at the empty sample, whether the codes of users are drawn or all the same. -/
theorem recordedRun_independent_of_codes :
    let report : PopulationReport :=
      { order := ["users", "orders"]
        missing := []
        tables := [⟨"users", 2, 1, 1, .completed⟩,
          ⟨"orders", 3, 1, 0,
            .aborted "foreign key orders.user_code: no rows available in users"⟩] }
    let calls : Array StoreCall :=
      #[.insert "users" [⟨"code", "text"⟩] [""], .insert "users" [⟨"code", "text"⟩] [""],
        .sample "users" "code", .insert "orders" [⟨"user_code", "text"⟩] [""],
        .sample "users" "code"]
    (applyRules (planTables codeSchema) (codeConfig "constant[x]")).tables.map (·.rows) =
        (applyRules (planTables codeSchema) (codeConfig "int(1,99)")).tables.map (·.rows) ∧
      (recordedRun codeSchema (codeConfig "constant[x]") .skip (.ofPlan codeFaults)
        (.ofSeed 0)).1 = .ok report ∧
      (recordedRun codeSchema (codeConfig "int(1,99)") .skip (.ofPlan codeFaults)
        (.ofSeed 1)).1 = .ok report ∧
      (recordedRun codeSchema (codeConfig "int(1,99)") .skip (.ofPlan codeFaults)
        (.ofSeed 1)).2.store.2.map StoreCall.blank = calls := by
  intro report calls
  have hrows :
      (applyRules (planTables codeSchema) (codeConfig "constant[x]")).tables.map (·.rows) =
        (applyRules (planTables codeSchema) (codeConfig "int(1,99)")).tables.map (·.rows) := by
    decide +kernel
  have hreport : (recordedRun codeSchema (codeConfig "constant[x]") .skip (.ofPlan codeFaults)
      (.ofSeed 0)).1 = .ok report := by decide +kernel
  have hcalls : (recordedRun codeSchema (codeConfig "constant[x]") .skip (.ofPlan codeFaults)
      (.ofSeed 0)).2.store.2.map StoreCall.blank = calls := by decide +kernel
  obtain ⟨houtcome, _, hblank⟩ := recordedRun_independent_of_values codeSchema
    (codeConfig "constant[x]") (codeConfig "int(1,99)") hrows .skip (.ofPlan codeFaults)
    (.ofSeed 0) (.ofSeed 1)
  exact ⟨hrows, hreport, houtcome.symm.trans hreport, hblank.symm.trans hcalls⟩

end Population

end SyntheticRows
