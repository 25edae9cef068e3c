import Mathlib.Data.List.Nodup
import SyntheticRows.Plan.Reference
import SyntheticRows.Plan.Rules
import SyntheticRows.Proofs.Schema.Validation
/-!
# Plans keep the tables of the schema

Rules set row counts and generators and nothing else, so planned tables are the tables of the schema
before and after. If their names differ, then a name tells a table or a column, whatever the order
of the tables.
-/

namespace SyntheticRows

/-- What a planned table keeps of its table. -/
def PlannedTable.toTable (table : PlannedTable) : Table :=
  { name := table.name, columns := table.columns.map (·.column), primaryKey := table.primaryKey,
    dependsOn := table.dependsOn }

theorem map_updateFirst {α β : Type} (test : α → Bool) {change : α → α} {f : α → β}
    (h : ∀ item, f (change item) = f item) (items : List α) :
    (updateFirst test change items).map f = items.map f := by
  induction items with
  | nil => rfl
  | cons item items ih =>
      unfold updateFirst
      split
      · rw [List.map_cons, List.map_cons, h]
      · rw [List.map_cons, List.map_cons, ih]

namespace PlannedTable

theorem toTable_ofTable (table : Table) : (ofTable table).toTable = table := by
  have hcolumns : (table.columns.map PlannedColumn.ofColumn).map (·.column) = table.columns := by
    rw [List.map_map]
    exact List.map_id table.columns
  simp only [ofTable, toTable, hcolumns]

theorem toTable_setGenerator (table : PlannedTable) (name : String) (generator : Producer) :
    (table.setGenerator name generator).toTable = table.toTable := by
  have hkeep : ∀ column : PlannedColumn, ({ column with generator } : PlannedColumn).column =
      column.column := fun _ => rfl
  have hcolumns := map_updateFirst (·.name == name) hkeep table.columns
  simp only [setGenerator, toTable, hcolumns]

theorem toTable_attach (table : PlannedTable) (rows : UInt64)
    (generators : List (String × Generator)) :
    (table.attach rows generators).toTable = table.toTable := by
  have hrows : ({ table with rows } : PlannedTable).toTable = table.toTable := rfl
  rw [← hrows]
  unfold attach
  generalize ({ table with rows } : PlannedTable) = start
  induction generators generalizing start with
  | nil => rfl
  | cons entry generators ih => rw [List.foldl_cons, ih, toTable_setGenerator]

end PlannedTable

theorem planTables_toTable (schema : Schema) :
    (planTables schema).map (·.toTable) = schema.tables := by
  rw [planTables, List.map_map]
  exact (List.map_congr_left fun table _ => PlannedTable.toTable_ofTable table).trans
    (List.map_id schema.tables)

namespace AppliedRules

theorem toTable_ofTable (tables : List PlannedTable) (name : String) (rule : TableRule) :
    (ofTable tables name rule).tables.map (·.toTable) = tables.map (·.toTable) := by
  unfold ofTable
  cases tables.find? (·.name == name) with
  | none => rfl
  | some table =>
      rcases hcompiled : table.compileRules rule.columns.entries with ⟨events, _ | generators⟩
      · simp only [hcompiled]
      · simp only [hcompiled]
        exact map_updateFirst _ (fun table => table.toTable_attach rule.rows generators) tables

theorem toTable_ofTables (tables : List PlannedTable) (rules : List (String × TableRule)) :
    (ofTables tables rules).tables.map (·.toTable) = tables.map (·.toTable) := by
  induction rules generalizing tables with
  | nil => rfl
  | cons entry rules ih =>
      obtain ⟨name, rule⟩ := entry
      unfold ofTables
      dsimp only
      split
      · exact toTable_ofTable tables name rule
      · rw [ih, toTable_ofTable]

end AppliedRules

/-- Rules change no table in what it keeps of the schema. -/
theorem applyRules_toTable (tables : List PlannedTable) (config : RulesConfig) :
    (applyRules tables config).tables.map (·.toTable) = tables.map (·.toTable) :=
  AppliedRules.toTable_ofTables tables config.tables.entries

theorem exists_reference_of_resolveReference_eq_ok {table : PlannedTable} {column : PlannedColumn}
    {tables : List PlannedTable} {key : ReferenceKey}
    (h : resolveReference table column tables = .ok key) :
    ∃ reference, column.column.references = some reference ∧ key.table = reference.table := by
  unfold resolveReference at h
  split at h
  · cases h
  · next reference hreference =>
      split at h
      · cases h
      · obtain rfl := Except.ok.inj h
        exact ⟨reference, (Option.filter_eq_some_iff.mp hreference).1, rfl⟩

/-! ### Names that differ -/

structure DistinctNames (tables : List PlannedTable) : Prop where
  tableNames : (tables.map (·.name)).Nodup
  columnNames : ∀ table ∈ tables, (table.columns.map (·.name)).Nodup

/-- Tables planned for a schema that passes validation are consistent. -/
theorem consistent_of_validate_eq_ok {schema : Schema} (h : schema.validate = .ok ())
    (config : RulesConfig) {table : PlannedTable}
    (hmem : table ∈ (applyRules (planTables schema) config).tables) : table.toTable.Consistent := by
  have hshape := applyRules_toTable (planTables schema) config
  rw [planTables_toTable] at hshape
  exact ((Schema.validate_eq_ok_iff schema).mp h).tables _ (hshape ▸ List.mem_map_of_mem hmem)

/-- Tables planned for a schema that passes validation have different names. -/
theorem distinctNames_of_validate_eq_ok {schema : Schema} (h : schema.validate = .ok ())
    (config : RulesConfig) : DistinctNames (applyRules (planTables schema) config).tables := by
  have hshape := applyRules_toTable (planTables schema) config
  rw [planTables_toTable] at hshape
  constructor
  · have hnames := ((Schema.validate_eq_ok_iff schema).mp h).tableNames
    rw [← hshape, List.map_map] at hnames
    exact hnames
  · intro table hmem
    have hnames := (consistent_of_validate_eq_ok h config hmem).columnNames
    rw [PlannedTable.toTable, List.map_map] at hnames
    exact hnames

namespace DistinctNames

variable {tables tables' : List PlannedTable} {table other : PlannedTable}
  {column column' : PlannedColumn}

theorem perm (h : DistinctNames tables) (hperm : tables.Perm tables') : DistinctNames tables' :=
  ⟨(hperm.map _).nodup_iff.mp h.tableNames, fun table hmem =>
    h.columnNames table (hperm.mem_iff.mpr hmem)⟩

theorem table_eq (h : DistinctNames tables) (hmem : table ∈ tables) (hother : other ∈ tables)
    (hname : table.name = other.name) : table = other :=
  List.inj_on_of_nodup_map h.tableNames hmem hother hname

theorem column_eq (h : DistinctNames tables) (hmem : table ∈ tables)
    (hcolumn : column ∈ table.columns) (hcolumn' : column' ∈ table.columns)
    (hname : column.name = column'.name) : column = column' :=
  List.inj_on_of_nodup_map (h.columnNames table hmem) hcolumn hcolumn' hname

/-- Columns that are picked by a test are told by their names. -/
theorem name_mem_filter_iff (h : DistinctNames tables) (hmem : table ∈ tables)
    (hcolumn : column ∈ table.columns) {test : PlannedColumn → Bool} :
    column.name ∈ (table.columns.filter test).map (·.name) ↔ test column = true := by
  constructor
  · intro hname
    obtain ⟨other, hother, hsame⟩ := List.mem_map.mp hname
    obtain ⟨hother, htest⟩ := List.mem_filter.mp hother
    rwa [h.column_eq hmem hcolumn hother hsame.symm]
  · intro htest
    exact List.mem_map_of_mem (List.mem_filter.mpr ⟨hcolumn, htest⟩)

theorem find?_eq_some_iff (h : DistinctNames tables) {name : String} :
    tables.find? (·.name == name) = some table ↔ table ∈ tables ∧ table.name = name := by
  constructor
  · intro hfound
    exact ⟨List.mem_of_find?_eq_some hfound, by simpa using List.find?_some hfound⟩
  · rintro ⟨hmem, hname⟩
    cases hfound : tables.find? (·.name == name) with
    | none => exact absurd hname (by simpa using List.find?_eq_none.mp hfound table hmem)
    | some other =>
        have hother : other.name = name := by simpa using List.find?_some hfound
        rw [h.table_eq (List.mem_of_find?_eq_some hfound) hmem (hother.trans hname.symm)]

/-- The order of the tables does not matter to a reference. -/
theorem resolveReference_perm (h : DistinctNames tables) (hperm : tables.Perm tables')
    (table : PlannedTable) (column : PlannedColumn) :
    resolveReference table column tables' = resolveReference table column tables := by
  have hfind : ∀ name : String, tables'.find? (·.name == name) = tables.find? (·.name == name) := by
    intro name
    apply Option.ext
    intro table
    rw [(h.perm hperm).find?_eq_some_iff, h.find?_eq_some_iff, hperm.mem_iff]
  unfold resolveReference keyColumnOf?
  simp only [hfind]

end DistinctNames

end SyntheticRows
