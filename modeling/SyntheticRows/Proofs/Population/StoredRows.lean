import SyntheticRows.Proofs.Population.ReportedBlocks
import SyntheticRows.Proofs.Population.References
/-!
# The rows of a dry run agree with its report

The report counts the inserts that were accepted, the store in memory keeps a row for each, and its
counters number them. No insert names a column that is numbered, so the numbers have no gaps, however
many calls fail on the way to the store.
-/

namespace SyntheticRows

/-- The store gives the numbers of the rows to the column, a key column or a generated one. -/
def PlannedTable.Numbers (table : PlannedTable) (name : String) : Prop :=
  name ∈ table.primaryKey ∨
    ∃ column ∈ table.columns, column.name = name ∧ column.column.autoGenerated = true

/-- How the rows of a table go with its report and its columns. -/
structure RowsAgree (table : PlannedTable) (report : TableReport) (rows : List Row) : Prop where
  count : rows.length = report.rowsInserted.toNat
  numbered : ∀ name, table.Numbers name →
    rows.map (·.get? name) = (List.range rows.length).map fun index => some (toString (index + 1))
  distinct : ∀ name, table.Numbers name → (rows.map (·.get? name)).Nodup
  others : ∀ row ∈ rows, ∀ name,
    name ∈ row.keys ∧ ¬table.Numbers name ↔ name ∈ table.insertColumns.map (·.name)

variable {σ : Type} {tables : List PlannedTable} {table : PlannedTable} {steps : List Step}

theorem PlannedTable.mem_sequenceColumns_iff (h : table.toTable.Consistent) {name : String} :
    name ∈ (MemoryTable.ofTable table).sequenceColumns ↔ table.Numbers name := by
  have hsequence : name ∈ (MemoryTable.ofTable table).sequenceColumns ↔ ∃ column ∈ table.columns,
      (column.column.autoGenerated = true ∨ column.name ∈ table.primaryKey) ∧
        column.name = name := by
    simp [MemoryTable.ofTable, MemoryTable.isSequenceColumn, isPrimaryKey, and_assoc]
  rw [hsequence]
  constructor
  · rintro ⟨column, hmem, hgenerated | hkey, rfl⟩
    · exact .inr ⟨column, hmem, rfl, hgenerated⟩
    · exact .inl hkey
  · rintro (hkey | ⟨column, hmem, hname, hgenerated⟩)
    · obtain ⟨_, hmem, hname⟩ := h.keys name hkey
      obtain ⟨column, hcolumn, rfl⟩ := List.mem_map.mp hmem
      obtain rfl : column.name = name := hname
      exact ⟨column, hcolumn, .inr hkey, rfl⟩
    · exact ⟨column, hmem, .inl hgenerated, hname⟩

/-- No column that inserts name is numbered. -/
theorem DistinctNames.notMem_sequenceColumns (h : DistinctNames tables) (hmem : table ∈ tables)
    {name : String} (hname : name ∈ table.insertColumns.map (·.name)) :
    name ∉ (MemoryTable.ofTable table).sequenceColumns := by
  obtain ⟨column, hcolumn, rfl⟩ := List.mem_map.mp hname
  obtain ⟨hcolumn, hinserts⟩ := List.mem_filter.mp hcolumn
  intro hsequence
  have hnumbered := (h.name_mem_filter_iff hmem hcolumn).mp hsequence
  rw [Population.inserts_eq_false_of_isSequenceColumn hnumbered] at hinserts
  cases hinserts

theorem MemoryStore.Records.exists_table {store : MemoryStore}
    (h : MemoryStore.Records tables steps store) (hnames : DistinctNames tables)
    (hmem : table ∈ tables) :
    ∃ found, store.tables.get? table.name = some found ∧
      MemoryTable.Records (.ofTable table) (acceptedInserts table.name steps) found := by
  have hregistered : tables.reverse.find? (·.name == table.name) = some table :=
    (hnames.perm (List.reverse_perm tables).symm).find?_eq_some_iff.mpr
      ⟨List.mem_reverse.mpr hmem, rfl⟩
  have hname := h table.name
  rw [hregistered] at hname
  generalize store.tables.get? table.name = found? at hname
  cases hname with
  | @some _ found hrecords => exact ⟨found, rfl, hrecords⟩

/-- A table with a row for each accepted insert of its columns agrees with a report that counts
them. -/
theorem rowsAgree_of_records {report : TableReport} {inserts : List AcceptedInsert}
    {found : MemoryTable} (hconsistent : table.toTable.Consistent) (hnames : DistinctNames tables)
    (hmem : table ∈ tables) (hrecords : MemoryTable.Records (.ofTable table) inserts found)
    (hinserts : ∀ insert ∈ inserts, insert.names = table.insertColumns.map (·.name))
    (hcount : inserts.length = report.rowsInserted.toNat) :
    RowsAgree table report found.rows.toList := by
  have hfree : ∀ name, table.Numbers name → name ∉ table.insertColumns.map (·.name) :=
    fun name hnumbers hname => hnames.notMem_sequenceColumns hmem hname
      ((PlannedTable.mem_sequenceColumns_iff hconsistent).mpr hnumbers)
  have hnumbered : ∀ name, table.Numbers name → found.rows.toList.map (·.get? name) =
      (List.range found.rows.toList.length).map fun index => some (toString (index + 1)) := by
    intro name hnumbers
    refine List.ext_getElem (by simp) fun index hindex _ => ?_
    rw [List.length_map] at hindex
    obtain ⟨insert, hinsert, hrowOf⟩ := hrecords.exists_rowOf (List.getElem?_eq_getElem hindex)
    rw [List.getElem_map, List.getElem_map, List.getElem_range]
    exact hrowOf.numbered name ((PlannedTable.mem_sequenceColumns_iff hconsistent).mpr hnumbers)
      (hinserts insert hinsert ▸ hfree name hnumbers)
  refine ⟨hrecords.length.trans hcount, hnumbered, fun name hnumbers => ?_,
    fun row hstored name => ?_⟩
  · rw [hnumbered name hnumbers]
    refine List.nodup_range.map fun first second heq => ?_
    have := Population.toString_injective (Option.some.inj heq)
    omega
  · obtain ⟨index, hindex⟩ := List.mem_iff_getElem?.mp hstored
    obtain ⟨insert, hinsert, hrowOf⟩ := hrecords.exists_rowOf hindex
    rw [hrowOf.keys, hinserts insert hinsert, PlannedTable.mem_sequenceColumns_iff hconsistent]
    constructor
    · rintro ⟨hname | hnumbers, hother⟩
      · exact hname
      · exact absurd hnumbers hother
    · exact fun hname => ⟨.inl hname, fun hnumbers => hfree name hnumbers hname⟩

namespace Population

/-- **The rows of a dry run agree with its report.** Behind any store that passes calls on or fails
them, a run leaves as many rows in each table as the report counts. The key columns and the generated
columns hold the numbers of the rows, and the other values stand in the columns that inserts name. -/
theorem stored_rows_agree_with_report {σ : Type} (store : RowStore σ) (inner : σ → MemoryStore)
    (hstore : RowStore.Intercepts inner store MemoryStore.rowStore) (schema : Schema)
    (config : RulesConfig) (policy : MissingPolicy) (progress after : Progress σ)
    (report : PopulationReport) (hvalid : schema.validate = .ok ())
    (hfresh : inner progress.store = .ofTables (applyRules (planTables schema) config).tables)
    (hrun : run store policy (applyRules (planTables schema) config).tables progress =
      (.ok report, after)) :
    let tables := (applyRules (planTables schema) config).tables
    (report.tables.map (·.table)).Perm (tables.map (·.name)) ∧
      ∀ table ∈ tables, ∀ entry ∈ report.tables, entry.table = table.name →
        RowsAgree table entry ((inner after.store).rows table.name) := by
  intro tables
  have hnames : DistinctNames tables := distinctNames_of_validate_eq_ok hvalid config
  cases hordered : topologicalOrder PlannedTable.node tables policy with
  | error cause => simp [run, tables, hordered] at hrun
  | ok ordered =>
      have hperm := Dependency.items_perm_of_topologicalOrder_eq_ok hordered
      obtain ⟨_, _, entries, hrun', _, hreported, hreports, htrace⟩ :=
        reportedBlocks_run hordered store progress
      cases hrun.symm.trans hrun'
      have hrecords : MemoryStore.Records tables (entries.flatMap (·.1)) (inner after.store) :=
        MemoryStore.Records.trace hstore (hfresh ▸ MemoryStore.records_ofTables tables) htrace
      have hentries : entries.map (·.2.table) = ordered.items.map (·.name) :=
        (map_eq_map_of_forall₂ (hreported.imp fun _ _ hfirst => hfirst.name.symm)).symm
      constructor
      · rw [hreports, List.map_map]
        exact (List.Perm.of_eq hentries).trans (hperm.map _)
      · intro table hmem report hreport hname
        rw [hreports] at hreport
        obtain ⟨entry, hentry, rfl⟩ := List.mem_map.mp hreport
        have hordered := hperm.mem_iff.mpr hmem
        obtain ⟨hblock, haccepted⟩ :=
          acceptedInserts_flatMap hreported (hnames.perm hperm.symm).tableNames hordered hentry hname
        obtain ⟨found, hfound, hrecords⟩ := hrecords.exists_table hnames hmem
        rw [haccepted] at hrecords
        rw [MemoryStore.rows_of_get?_eq_some hfound]
        exact rowsAgree_of_records (consistent_of_validate_eq_ok hvalid config hmem) hnames hmem
          hrecords (fun _ => hblock.block.names_of_mem_acceptedInserts) hblock.length_acceptedInserts

/-- Users with a key and a serial number, and orders that name a user. -/
def serialSchema : Schema :=
  { engine := "postgres"
    database := none
    namespaceName := "public"
    tables :=
      [⟨"orders",
          [⟨"id", "integer", .plain .integer, false, none, false⟩,
            ⟨"user_id", "integer", .plain .integer, true, some ⟨"users", none⟩, false⟩],
          ["id"], ["users"]⟩,
        ⟨"users",
          [⟨"id", "integer", .plain .integer, false, none, false⟩,
            ⟨"serial", "integer", .plain .integer, false, none, true⟩,
            ⟨"name", "text", .plain .text, false, none, false⟩],
          ["id"], []⟩] }

/-- Three users of one name and three orders. -/
def serialConfig : RulesConfig :=
  { tables := .ofList
      [("orders", ⟨3, .empty⟩), ("users", ⟨3, .ofList [("name", "constant[x]")]⟩)] }

/-- The second user is refused and the second sample comes back empty. -/
def serialRun : Except GenerationError PopulationReport × Progress (Faulty MemoryStore) :=
  let tables := (applyRules (planTables serialSchema) serialConfig).tables
  run (MemoryStore.rowStore.faulty ⟨[2], [], [2]⟩) .skip tables
    (.start ⟨.ofTables tables, 0, 0⟩ (.ofSeed 0))

/-- The third user gets the second serial number, and orders end at the second one. -/
theorem stored_rows_agree_with_report_of_serials :
    serialSchema.validate = .ok () ∧
      serialRun.1 = .ok
        { order := ["users", "orders"]
          missing := []
          tables := [⟨"users", 3, 2, 1, .completed⟩,
            ⟨"orders", 3, 1, 0,
              .aborted "foreign key orders.user_id: no rows available in users"⟩] } ∧
      (serialRun.2.store.store.rows "users").map (·.get? "serial") = [some "1", some "2"] ∧
      ∀ row ∈ serialRun.2.store.store.rows "users", "name" ∈ row.keys := by
  have hvalid : serialSchema.validate = .ok () := by decide
  have hreport : serialRun.1 = .ok
      { order := ["users", "orders"]
        missing := []
        tables := [⟨"users", 3, 2, 1, .completed⟩,
          ⟨"orders", 3, 1, 0,
            .aborted "foreign key orders.user_id: no rows available in users"⟩] } := by
    decide +kernel
  have hstore : RowStore.Intercepts Faulty.store (MemoryStore.rowStore.faulty ⟨[2], [], [2]⟩)
      MemoryStore.rowStore := by
    rw [RowStore.faulty_eq_interrupted]
    exact RowStore.interrupted_intercepts _ _
  obtain ⟨_, hagree⟩ := stored_rows_agree_with_report _ Faulty.store hstore serialSchema serialConfig
    .skip _ serialRun.2 _ hvalid rfl (Prod.ext hreport rfl)
  obtain ⟨table, hmem, hname, hserial, hinserted⟩ :
      ∃ table ∈ (applyRules (planTables serialSchema) serialConfig).tables,
        table.name = "users" ∧
        (∃ column ∈ table.columns, column.name = "serial" ∧ column.column.autoGenerated = true) ∧
        "name" ∈ table.insertColumns.map (·.name) := by decide
  have husers := hagree table hmem _ List.mem_cons_self hname.symm
  rw [hname] at husers
  refine ⟨hvalid, hreport, ?_, fun row hrow => ((husers.others row hrow "name").mpr hinserted).1⟩
  rw [husers.numbered "serial" (.inr hserial), husers.count]
  decide

end Population

end SyntheticRows
