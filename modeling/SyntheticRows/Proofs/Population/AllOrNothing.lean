import SyntheticRows.Proofs.Population.StoredRows
/-!
# A dry run fills a table or leaves it empty

A store in memory takes every row of a table that it knows, and a value that it holds stays there. So
a table gets all its rows if each key that it references can be sampled when its turn comes, and none
otherwise: a key that is missing is missing at the first row.
-/

namespace SyntheticRows

open MemoryStore

/-- Each foreign key that inserts name leads to a column that holds a value. -/
def KeysThere (tables : List PlannedTable) (store : MemoryStore) (table : PlannedTable) : Prop :=
  ∀ column ∈ table.insertColumns, column.column.isForeignKey = true →
    ∃ key, resolveReference table column tables = .ok key ∧ store.Registered key ∧
      ∃ value, store.Holds key value

/-- A foreign key that inserts name references the table itself. -/
def PlannedTable.RefersToItself (table : PlannedTable) : Prop :=
  ∃ column ∈ table.insertColumns, column.column.isForeignKey = true ∧
    ∃ reference, column.column.references = some reference ∧ reference.table = table.name

/-- What becomes of a table, by the state in which its turn comes. -/
structure AllOrNothing (tables : List PlannedTable) (turn : PlannedTable × Progress MemoryStore)
    (report : TableReport) : Prop where
  table : report.table = turn.1.name
  rowsRequested : report.rowsRequested = turn.1.rows
  rowsFailed : report.rowsFailed = 0
  rowsInserted : report.rowsInserted = 0 ∨ report.rowsInserted = report.rowsRequested
  completed_iff : turn.1.rows ≠ 0 →
    (report.status = .completed ↔ KeysThere tables turn.2.store turn.1)
  filled : report.status = .completed → report.rowsInserted = report.rowsRequested
  aborted : turn.1.rows ≠ 0 → ¬KeysThere tables turn.2.store turn.1 →
    (∃ reason, report.status = .aborted reason) ∧ report.rowsInserted = 0
  refersToItself : turn.1.rows ≠ 0 → turn.1.RefersToItself →
    (∃ reason, report.status = .aborted reason) ∧ report.rowsInserted = 0

/-! ### The store while a table is filled -/

namespace MemoryStore

variable {planned : List PlannedTable} {store after : MemoryStore} {steps earlier : List Step}
  {stream stream' : RandomStream} {key : ReferenceKey} {value : String}

theorem holds_of_trace (h : Trace rowStore (store, stream) steps (after, stream'))
    (hheld : store.Holds key value) : after.Holds key value := by
  induction steps generalizing store stream with
  | nil =>
      cases h
      exact hheld
  | cons step steps ih =>
      cases h with
      | @cons _ second _ _ _ head tail =>
          obtain ⟨middle, between⟩ := second
          rcases insertion_or_unchanged_of_occurs head with
            ⟨_, _, _, _, _, hinsertion⟩ | ⟨rfl, _⟩
          · exact ih tail (hinsertion.holds key value hheld)
          · exact ih tail hheld

/-- A value that is there stands in a column of a registered table. -/
theorem Records.registered_of_holds (h : Records planned steps store)
    (hheld : store.Holds key value) : store.Registered key := by
  obtain ⟨row, hrow, hvalue⟩ := hheld
  have hname := h key.table
  cases hfound : store.tables.get? key.table with
  | none => simp [rows, hfound] at hrow
  | some found =>
      rw [rows_of_get?_eq_some hfound] at hrow
      rw [hfound] at hname
      generalize planned.reverse.find? (·.name == key.table) = start? at hname
      cases hname with
      | some hrecords =>
          obtain ⟨index, hindex⟩ := List.mem_iff_getElem?.mp hrow
          obtain ⟨insert, _, hrowOf⟩ := hrecords.exists_rowOf hindex
          refine ⟨found, hfound, hrecords.columns ▸ hrowOf.known key.column ?_⟩
          exact NameMap.mem_keys_iff.mpr ⟨value, hvalue⟩

/-- A key that can be sampled at the start of a trace is sampled all along. -/
theorem Records.answer_of_sampled (h : Records planned earlier store)
    (htrace : Trace rowStore (store, stream) steps (after, stream')) (hheld : store.Holds key value)
    {answer : Except StoreError (Option String)} (hmem : .sampled key answer ∈ steps) :
    ∃ found, answer = .ok (some found) := by
  obtain ⟨front, ⟨middle, between⟩, _, hfront, hoccurs⟩ := htrace.exists_occurs_of_mem hmem
  have hmiddle := holds_of_trace hfront hheld
  have hregistered := (h.trace rowStore.intercepts_self hfront).registered_of_holds hmiddle
  cases hoccurs
  rcases answer_sampleKey_cases middle between key with
    ⟨hunregistered, _⟩ | ⟨_, hnone, _⟩ | ⟨_, _, hanswer⟩
  · exact absurd hregistered hunregistered
  · exact absurd hmiddle (hnone value)
  · exact hanswer

/-- A registered table takes every row of the columns that inserts name. -/
theorem Records.answer_of_inserted {tables : List PlannedTable} {table : PlannedTable}
    (h : Records planned earlier store) (hnames : DistinctNames planned) (hmem : table ∈ planned)
    (htrace : Trace rowStore (store, stream) steps (after, stream'))
    (hsteps : ∀ step ∈ steps, StepAt tables table step) {answer : Except StoreError Unit}
    (hanswer : answer ∈ steps.filterMap Step.insertAnswer?) : answer = .ok () := by
  obtain ⟨step, hstep, hsome⟩ := List.mem_filterMap.mp hanswer
  obtain ⟨front, ⟨middle, between⟩, _, hfront, hoccurs⟩ := htrace.exists_occurs_of_mem hstep
  cases hsteps step hstep with
  | drew mem value => cases hsome
  | sampled mem resolved answer => cases hsome
  | inserted complete answer =>
      obtain rfl := Option.some.inj hsome
      obtain ⟨found, hfound, htable⟩ :=
        (h.trace rowStore.intercepts_self hfront).exists_table hnames hmem
      cases hoccurs
      refine (insertRow_answer_eq_ok_iff middle between _ _ _).mpr
        ⟨by simp [complete], found, hfound, ?_⟩
      intro binding hbinding
      obtain ⟨column, hcolumn, rfl⟩ := List.mem_map.mp hbinding
      rw [htable.columns]
      exact List.mem_map_of_mem (List.mem_of_mem_filter hcolumn)

end MemoryStore

/-! ### Reports that count one kind of answer -/

namespace TableReport.AddsUp

variable {report : TableReport} {answers : List (Except StoreError Unit)}

theorem eq_zero_of_rowsRequested (h : report.AddsUp answers) (hrows : report.rowsRequested = 0) :
    report.rowsFailed = 0 ∧ report.rowsInserted = 0 := by
  have hbound := h.bounded
  rw [hrows, UInt64.toNat_zero] at hbound
  constructor
  · exact UInt64.toNat_inj.mp (by rw [UInt64.toNat_zero]; omega)
  · exact UInt64.toNat_inj.mp (by rw [UInt64.toNat_zero]; omega)

theorem completed_of_replicate
    (h : report.AddsUp (List.replicate report.rowsRequested.toNat (.ok ())))
    (hrows : report.rowsRequested ≠ 0) :
    report.rowsFailed = 0 ∧ report.rowsInserted = report.rowsRequested ∧
      report.status = .completed := by
  have hinserted := h.inserted
  have hfailed := h.failed
  simp only [List.countP_replicate, Except.isOk, Except.toBool, Bool.not_true, if_true,
    Bool.false_eq_true, if_false] at hinserted hfailed
  have hpositive : 0 < report.rowsRequested := UInt64.pos_iff_ne_zero.mpr hrows
  refine ⟨UInt64.toNat_inj.mp hfailed, UInt64.toNat_inj.mp hinserted, h.completed.mpr
    ⟨hpositive, ?_⟩⟩
  rw [hinserted, hfailed, Nat.add_zero]

theorem aborted_of_nil (h : report.AddsUp []) (hrows : report.rowsRequested ≠ 0) :
    report.rowsFailed = 0 ∧ report.rowsInserted = 0 ∧
      ∃ reason, report.status = .aborted reason := by
  have hinserted : report.rowsInserted.toNat = 0 := h.inserted
  have hfailed : report.rowsFailed.toNat = 0 := h.failed
  refine ⟨UInt64.toNat_inj.mp hfailed, UInt64.toNat_inj.mp hinserted, h.aborted.mpr ?_⟩
  rw [hinserted, hfailed, Nat.add_zero]
  exact Nat.pos_of_ne_zero fun hzero => hrows (UInt64.toNat_inj.mp hzero)

end TableReport.AddsUp

/-! ### The answers at a table -/

section Block

variable {planned tables : List PlannedTable} {table : PlannedTable} {store after : MemoryStore}
  {steps earlier last : List Step} {stream stream' : RandomStream} {sources : List ValueSource}
  {attempts : List Attempt}

theorem filterMap_insertAnswer?_supply (sources : List ValueSource) (values : List String) :
    (List.zipWith ValueSource.supply sources values).filterMap Step.insertAnswer? = [] := by
  rw [List.filterMap_eq_nil_iff, ← List.map_uncurry_zip_eq_zipWith, List.forall_mem_map]
  rintro ⟨_ | _, _⟩ _ <;> rfl

theorem filterMap_insertAnswer?_attemptSteps (table : PlannedTable) (sources : List ValueSource)
    (attempts : List Attempt) :
    (attemptSteps table sources attempts).filterMap Step.insertAnswer? =
      attempts.map (·.answer) := by
  induction attempts with
  | nil => rfl
  | cons attempt attempts ih =>
      have hfirst : (attempt.steps table.name (table.insertColumns.map (·.binding))
          sources).filterMap Step.insertAnswer? = [attempt.answer] := by
        rw [Attempt.steps, List.filterMap_append, filterMap_insertAnswer?_supply]
        rfl
      rw [attemptSteps, List.flatMap_cons, List.filterMap_append, hfirst]
      exact congrArg _ ih

/-- The first row takes its keys from the store as it was. -/
theorem keysThere_of_attempt {attempt : Attempt} (hrecords : MemoryStore.Records planned earlier store)
    (hsupplied : List.Forall₂ (SuppliedBy tables table) table.insertColumns sources)
    (hlength : attempt.values.length = sources.length)
    (htrace : Trace rowStore (store, stream) (attemptSteps table sources (attempt :: attempts) ++ last)
      (after, stream')) :
    KeysThere tables store table := by
  rw [attemptSteps, List.flatMap_cons, Attempt.steps, List.append_assoc, List.append_assoc] at htrace
  obtain ⟨⟨_, _⟩, hvalues, _⟩ := htrace.exists_of_append
  obtain ⟨_, hheld⟩ := Population.holds_of_trace_supply hvalues
  intro column hcolumn hforeign
  obtain ⟨source, value, hsource, hzip, _⟩ :=
    Population.exists_mem_zip_of_supplied hsupplied hlength hcolumn
  cases hsource with
  | generated own =>
      rw [own] at hforeign
      cases hforeign
  | @referenced key _ resolved =>
      have hvalue := hheld key value hzip
      exact ⟨key, resolved, hrecords.registered_of_holds hvalue, value, hvalue⟩

/-- A key that the store did not give was missing from the start. -/
theorem not_keysThere_of_stuck (hrecords : MemoryStore.Records planned earlier store)
    (hsupplied : List.Forall₂ (SuppliedBy tables table) table.insertColumns sources)
    (hstuck : Stuck sources last)
    (htrace : Trace rowStore (store, stream) (steps ++ last) (after, stream')) :
    ¬KeysThere tables store table := by
  intro hkeys
  cases hstuck with
  | @mk front back key values answer split supplied refused =>
      have hkey : .referenced key ∈ sources := split ▸ List.mem_append_right _ List.mem_cons_self
      obtain ⟨column, hcolumn, hsource⟩ := exists_mem_of_forall₂ hsupplied hkey
      cases hsource with
      | referenced foreign resolved =>
          obtain ⟨key', resolved', _, value, hheld⟩ := hkeys column hcolumn foreign
          obtain rfl := Except.ok.inj (resolved.symm.trans resolved')
          have hlast : Step.sampled key answer ∈
              steps ++ (List.zipWith ValueSource.supply front values ++ [.sampled key answer]) :=
            List.mem_append_right _ (List.mem_append_right _ List.mem_cons_self)
          obtain ⟨found, hanswer⟩ := hrecords.answer_of_sampled htrace hheld hlast
          exact refused found hanswer

/-- A table that wants rows gets all of them or hands none over, as its keys are there or not. -/
theorem answers_of_block (hrecords : MemoryStore.Records planned earlier store)
    (hnames : DistinctNames planned) (hmem : table ∈ planned) (hrows : table.rows ≠ 0)
    (hblock : TableBlock tables table steps)
    (htrace : Trace rowStore (store, stream) steps (after, stream')) :
    (KeysThere tables store table ∧
      steps.filterMap Step.insertAnswer? = List.replicate table.rows.toNat (.ok ())) ∨
    (¬KeysThere tables store table ∧ steps.filterMap Step.insertAnswer? = []) := by
  have hok : ∀ answer ∈ steps.filterMap Step.insertAnswer?, answer = .ok () := fun _ =>
    hrecords.answer_of_inserted hnames hmem htrace fun _ => hblock.stepAt_of_mem
  cases hblock with
  | idle rows => exact absurd rows hrows
  | unresolved mem foreign failed =>
      refine .inr ⟨fun hkeys => ?_, rfl⟩
      obtain ⟨key, resolved, _⟩ := hkeys _ mem foreign
      cases failed.symm.trans resolved
  | @filled sources attempts _ supplied complete count =>
      have hanswers := filterMap_insertAnswer?_attemptSteps table sources attempts
      refine .inl ⟨?_, List.eq_replicate_iff.mpr ⟨?_, hok⟩⟩
      · cases attempts with
        | nil => exact absurd (UInt64.toNat_inj.mp count.symm) hrows
        | cons attempt attempts =>
            rw [← List.append_nil (attemptSteps _ _ _)] at htrace
            exact keysThere_of_attempt hrecords supplied (complete attempt List.mem_cons_self) htrace
      · rw [hanswers, List.length_map, count]
  | @interrupted sources attempts last _ supplied complete count stuck =>
      have hmissing := not_keysThere_of_stuck hrecords supplied stuck htrace
      refine .inr ⟨hmissing, ?_⟩
      cases attempts with
      | nil =>
          obtain ⟨_, _, _⟩ := stuck
          rw [List.filterMap_append, List.filterMap_append, filterMap_insertAnswer?_supply]
          rfl
      | cons attempt attempts =>
          exact absurd (keysThere_of_attempt hrecords supplied (complete attempt List.mem_cons_self)
            htrace) hmissing

/-- A table without rows of its own gives no key to itself. -/
theorem not_keysThere_of_refersToItself (hrecords : MemoryStore.Records planned earlier store)
    (hnames : DistinctNames planned) (hmem : table ∈ planned)
    (hfresh : acceptedInserts table.name earlier = []) (hself : table.RefersToItself) :
    ¬KeysThere tables store table := by
  intro hkeys
  obtain ⟨column, hcolumn, hforeign, reference, hreference, hname⟩ := hself
  obtain ⟨key, resolved, _, value, row, hrow, _⟩ := hkeys column hcolumn hforeign
  obtain ⟨other, hother, hkey⟩ := exists_reference_of_resolveReference_eq_ok resolved
  obtain rfl := Option.some.inj (hreference.symm.trans hother)
  obtain ⟨found, hfound, htable⟩ := hrecords.exists_table hnames hmem
  have hempty : found.rows.toList = [] := by
    rw [← List.length_eq_zero_iff, htable.length, hfresh, List.length_nil]
  rw [hkey, hname, rows_of_get?_eq_some hfound, hempty] at hrow
  cases hrow

end Block

namespace Population

variable {σ : Type} {planned tables rest : List PlannedTable} {table : PlannedTable}
  {earlier : List Step} {progress : Progress MemoryStore}

/-- The tables with the states in which their turns come. -/
def turns (store : RowStore σ) (tables : List PlannedTable) :
    List PlannedTable → Progress σ → List (PlannedTable × Progress σ)
  | [], _ => []
  | table :: rest, progress =>
      (table, progress) :: turns store tables rest (populateTable store tables table progress).2

/-- The turns of a whole run; a run that finds no order has none. -/
def runTurns (store : RowStore σ) (policy : MissingPolicy) (tables : List PlannedTable)
    (progress : Progress σ) : List (PlannedTable × Progress σ) :=
  match topologicalOrder PlannedTable.node tables policy with
  | .error _ => []
  | .ok ordered =>
      turns store ordered.items ordered.items ((reportMissing ordered.missing progress).report
        (.populationStarted ordered.items.length (ordered.items.map (·.name))))

theorem map_fst_turns (store : RowStore σ) (tables rest : List PlannedTable)
    (progress : Progress σ) : (turns store tables rest progress).map (·.1) = rest := by
  induction rest generalizing progress with
  | nil => rfl
  | cons table rest ih => rw [turns, List.map_cons, ih]

/-- Each table is filled in the state of its turn. -/
theorem populateAll_eq_map_turns (store : RowStore σ) (tables rest : List PlannedTable)
    (progress : Progress σ) :
    (populateAll store tables rest progress).1 =
      (turns store tables rest progress).map fun turn =>
        (populateTable store tables turn.1 turn.2).1 := by
  induction rest generalizing progress with
  | nil => rfl
  | cons table rest ih => exact congrArg _ (ih _)

/-- A turn behind calls that put nothing into its table. -/
theorem allOrNothing_populateTable (hrecords : MemoryStore.Records planned earlier progress.store)
    (hnames : DistinctNames planned) (hmem : table ∈ planned)
    (hfresh : acceptedInserts table.name earlier = []) :
    AllOrNothing tables (table, progress) (populateTable rowStore tables table progress).1 := by
  obtain ⟨steps, ⟨hblock, hname, hrequested, haddsUp⟩, htrace⟩ :=
    reportedBlock_populateTable rowStore tables table progress
  dsimp only at hblock hname hrequested haddsUp
  have hself : table.RefersToItself → ¬KeysThere tables progress.store table :=
    not_keysThere_of_refersToItself hrecords hnames hmem hfresh
  generalize (populateTable rowStore tables table progress).1 = report at hname hrequested haddsUp ⊢
  by_cases hrows : table.rows = 0
  · obtain ⟨hfailed, hinserted⟩ := haddsUp.eq_zero_of_rowsRequested (hrequested.trans hrows)
    refine ⟨hname, hrequested, hfailed, .inl hinserted, fun h => absurd hrows h, fun _ => ?_,
      fun h => absurd hrows h, fun h => absurd hrows h⟩
    rw [hinserted, hrequested, hrows]
  have hwanted : report.rowsRequested ≠ 0 := hrequested ▸ hrows
  rcases answers_of_block hrecords hnames hmem hrows hblock htrace with
    ⟨hkeys, hanswers⟩ | ⟨hmissing, hanswers⟩
  · rw [hanswers, ← hrequested] at haddsUp
    obtain ⟨hfailed, hinserted, hstatus⟩ := haddsUp.completed_of_replicate hwanted
    exact ⟨hname, hrequested, hfailed, .inr hinserted, fun _ => iff_of_true hstatus hkeys,
      fun _ => hinserted, fun _ hmissing => absurd hkeys hmissing,
      fun _ hrefers => absurd hkeys (hself hrefers)⟩
  · rw [hanswers] at haddsUp
    obtain ⟨hfailed, hinserted, hstatus⟩ := haddsUp.aborted_of_nil hwanted
    have hincomplete : report.status ≠ .completed := by
      obtain ⟨reason, hreason⟩ := hstatus
      simp [hreason]
    exact ⟨hname, hrequested, hfailed, .inl hinserted, fun _ => iff_of_false hincomplete hmissing,
      fun hcompleted => absurd hcompleted hincomplete, fun _ _ => ⟨hstatus, hinserted⟩,
      fun _ _ => ⟨hstatus, hinserted⟩⟩

/-- Turn after turn, the tables that are left have no rows yet. -/
theorem forall₂_allOrNothing (hrecords : MemoryStore.Records planned earlier progress.store)
    (hnames : DistinctNames planned) (hrest : ∀ table ∈ rest, table ∈ planned)
    (hnodup : (rest.map (·.name)).Nodup)
    (hfresh : ∀ table ∈ rest, acceptedInserts table.name earlier = []) :
    List.Forall₂ (AllOrNothing tables) (turns rowStore tables rest progress)
      (populateAll rowStore tables rest progress).1 := by
  induction rest generalizing earlier progress with
  | nil => exact .nil
  | cons table rest ih =>
      obtain ⟨hmem, hrest⟩ := List.forall_mem_cons.mp hrest
      obtain ⟨hempty, hfresh⟩ := List.forall_mem_cons.mp hfresh
      rw [List.map_cons, List.nodup_cons] at hnodup
      obtain ⟨steps, hreported, htrace⟩ := reportedBlock_populateTable rowStore tables table progress
      refine .cons (allOrNothing_populateTable hrecords hnames hmem hempty)
        (ih (hrecords.trace rowStore.intercepts_self htrace) hrest hnodup.2 fun other hother => ?_)
      have hname : table.name ≠ other.name := fun heq =>
        hnodup.1 (heq ▸ List.mem_map_of_mem hother)
      rw [acceptedInserts_append, hfresh other hother, hreported.block.acceptedInserts_eq_nil hname,
        List.append_nil]

/-- **A dry run fills a table or leaves it empty.** A run over a fresh store in memory, for a schema
that passes validation and can be ordered, takes each table in its turn. None of its rows is refused.
It gets all rows that are wanted if each key that inserts sample can be found at its turn, else none,
which is so of every table that references itself. -/
theorem tables_filled_or_left_empty (schema : Schema) (config : RulesConfig)
    (policy : MissingPolicy) (stream : RandomStream) (ordered : DependencyOrder PlannedTable)
    (hvalid : schema.validate = .ok ())
    (hordered : topologicalOrder PlannedTable.node (applyRules (planTables schema) config).tables
      policy = .ok ordered) :
    let tables := (applyRules (planTables schema) config).tables
    let turns := runTurns rowStore policy tables (.start (ofTables tables) stream)
    ∃ report after, populateInMemory policy tables stream = (.ok report, after) ∧
      turns.map (·.1) = ordered.items ∧ ordered.items.Perm tables ∧
      (report.tables = turns.map fun turn =>
        (populateTable rowStore ordered.items turn.1 turn.2).1) ∧
      List.Forall₂ (AllOrNothing ordered.items) turns report.tables := by
  intro tables turns
  have hnames : DistinctNames tables := distinctNames_of_validate_eq_ok hvalid config
  have hperm := Dependency.items_perm_of_topologicalOrder_eq_ok hordered
  have hturns : turns = Population.turns rowStore ordered.items ordered.items
      ((reportMissing ordered.missing (.start (ofTables tables) stream)).report
        (.populationStarted ordered.items.length (ordered.items.map (·.name)))) := by
    simp only [turns, runTurns, tables, hordered]
  have hstart : (reportMissing ordered.missing (.start (ofTables tables) stream)).store =
      ofTables tables :=
    congrArg (·.1) (world_reportMissing ordered.missing (.start (ofTables tables) stream))
  refine ⟨_, _, run_eq_runOrdered hordered rowStore _, ?_, hperm, ?_, ?_⟩
  · rw [hturns, map_fst_turns]
  · rw [hturns]
    exact populateAll_eq_map_turns rowStore ordered.items ordered.items _
  · rw [hturns]
    have hrecords : MemoryStore.Records tables []
        (reportMissing ordered.missing (.start (ofTables tables) stream)).store := by
      rw [hstart]
      exact records_ofTables tables
    exact forall₂_allOrNothing hrecords hnames (fun _ => hperm.mem_iff.mp)
      (hnames.perm hperm.symm).tableNames fun _ _ => rfl

/-- Teams, badges that name a team, and staff that name each other. -/
def staffSchema : Schema :=
  { engine := "postgres"
    database := none
    namespaceName := "public"
    tables :=
      [⟨"badges",
          [⟨"id", "integer", .plain .integer, false, none, false⟩,
            ⟨"team_id", "integer", .plain .integer, true, some ⟨"teams", none⟩, false⟩],
          ["id"], ["teams"]⟩,
        ⟨"staff",
          [⟨"id", "integer", .plain .integer, false, none, false⟩,
            ⟨"lead_id", "integer", .plain .integer, true, some ⟨"staff", some "id"⟩, false⟩],
          ["id"], ["staff"]⟩,
        ⟨"teams", [⟨"id", "integer", .plain .integer, false, none, false⟩], ["id"], []⟩] }

def staffConfig : RulesConfig :=
  { tables := .ofList [("badges", ⟨3, .empty⟩), ("staff", ⟨2, .empty⟩), ("teams", ⟨2, .empty⟩)] }

/-- Badges find a team, and staff never find a first lead. -/
theorem tables_filled_or_left_empty_of_staff :
    let tables := (applyRules (planTables staffSchema) staffConfig).tables
    let report : PopulationReport :=
      { order := ["teams", "badges", "staff"]
        missing := []
        tables := [⟨"teams", 2, 2, 0, .completed⟩, ⟨"badges", 3, 3, 0, .completed⟩,
          ⟨"staff", 2, 0, 0, .aborted "foreign key staff.lead_id: no rows available in staff"⟩] }
    staffSchema.validate = .ok () ∧
      (populateInMemory .skip tables (.ofSeed 0)).1 = .ok report ∧
      ∃ ordered, topologicalOrder PlannedTable.node tables .skip = .ok ordered ∧
        List.Forall₂ (AllOrNothing ordered.items)
          (runTurns rowStore .skip tables (.start (ofTables tables) (.ofSeed 0))) report.tables := by
  intro tables report
  have hvalid : staffSchema.validate = .ok () := by decide
  have hreport : (populateInMemory .skip tables (.ofSeed 0)).1 = .ok report := by decide +kernel
  obtain ⟨ordered, hordered⟩ :
      ∃ ordered, topologicalOrder PlannedTable.node tables .skip = .ok ordered := by
    have hok : (topologicalOrder PlannedTable.node tables .skip).isOk = true := by decide +kernel
    cases hordered : topologicalOrder PlannedTable.node tables .skip with
    | error cause => simp [hordered, Except.isOk, Except.toBool] at hok
    | ok ordered => exact ⟨ordered, rfl⟩
  obtain ⟨found, _, hrun, _, _, _, hturns⟩ := tables_filled_or_left_empty staffSchema staffConfig
    .skip (.ofSeed 0) ordered hvalid hordered
  rw [hrun] at hreport
  obtain rfl := Except.ok.inj hreport
  exact ⟨hvalid, congrArg (·.1) hrun, ordered, hordered, hturns⟩

end Population

end SyntheticRows
