import SyntheticRows.Proofs.Elementwise
import SyntheticRows.Proofs.Plan.Atomicity
/-!
# Rules that no value follows

No value is drawn from the generator of a foreign key or of a column that inserts leave out. So what
matters of a planned table is the table with these generators reset, and configurations that agree
in all other rules lead to the same tables in this respect.
-/

namespace SyntheticRows

namespace PlannedTable

/-- The generator of the column supplies its values. -/
def generates (table : PlannedTable) (column : PlannedColumn) : Bool :=
  table.inserts column && !column.column.isForeignKey

/-- The first column of the name, which rules for the name go to, is one that is generated. -/
def generatesFor (table : PlannedTable) (name : String) : Bool :=
  (table.column? name).any table.generates

/-- Gives a column that is not generated the generator of its type again. -/
def resetColumn (table : PlannedTable) (column : PlannedColumn) : PlannedColumn :=
  if table.generates column then column else .ofColumn column.column

def resetIdle (table : PlannedTable) : PlannedTable :=
  { table with columns := table.columns.map table.resetColumn }

variable {table table' : PlannedTable} {name : String}

theorem column_resetColumn (table : PlannedTable) (column : PlannedColumn) :
    (table.resetColumn column).column = column.column := by
  unfold resetColumn
  split <;> rfl

theorem generates_congr {column column' : PlannedColumn} (h : column.column = column'.column) :
    table.generates column = table.generates column' := by
  simp only [generates, inserts, PlannedColumn.name, h]

theorem toTable_resetIdle (table : PlannedTable) : table.resetIdle.toTable = table.toTable := by
  simp [toTable, resetIdle, Function.comp_def, column_resetColumn]

theorem generatesFor_congr (h : table.toTable = table'.toTable) :
    table.generatesFor = table'.generatesFor := by
  have hkept : ∀ table : PlannedTable, table.generatesFor = fun name =>
      (table.toTable.columns.find? (·.name == name)).any fun column =>
        column.isInsertable && !table.toTable.primaryKey.contains column.name &&
          !column.isForeignKey := by
    intro table
    funext name
    rw [generatesFor, column?, toTable, List.find?_map, Option.any_map]
    rfl
  rw [hkept, hkept, h]

/-- A generator that is set for a column either shows or is reset again. -/
theorem map_resetColumn_updateFirst (table : PlannedTable) (name : String) (generator : Producer)
    (columns : List PlannedColumn) :
    (updateFirst (·.name == name) (fun column => { column with generator }) columns).map
        table.resetColumn =
      if (columns.find? (·.name == name)).any table.generates then
        updateFirst (·.name == name) (fun column => { column with generator })
          (columns.map table.resetColumn)
      else columns.map table.resetColumn := by
  induction columns with
  | nil => rfl
  | cons column columns ih =>
      have hname : (table.resetColumn column).name = column.name :=
        congrArg Column.name (table.column_resetColumn column)
      have hgenerates : table.generates { column with generator } = table.generates column :=
        generates_congr rfl
      by_cases hfirst : (column.name == name) = true
      · cases hcolumn : table.generates column <;>
          simp [updateFirst, hfirst, hcolumn, resetColumn, hgenerates]
      · have hreset : ¬((table.resetColumn column).name == name) = true := by rwa [hname]
        rw [updateFirst, if_neg hfirst, List.map_cons, ih, List.map_cons,
          List.find?_cons_of_neg (by simpa using hfirst), updateFirst, if_neg hreset]
        split <;> rfl

theorem resetIdle_setGenerator (table : PlannedTable) (name : String) (generator : Producer) :
    (table.setGenerator name generator).resetIdle =
      if table.generatesFor name then table.resetIdle.setGenerator name generator
      else table.resetIdle := by
  have hreset : (table.setGenerator name generator).resetIdle =
      { table with
        columns := (updateFirst (·.name == name) (fun column => { column with generator })
          table.columns).map table.resetColumn } := rfl
  rw [hreset, map_resetColumn_updateFirst, generatesFor, column?]
  split <;> rfl

/-- Of the generators that rules attach, those of generated columns show. -/
theorem resetIdle_attach (table : PlannedTable) (rows : UInt64)
    (generators : List (String × Generator)) :
    (table.attach rows generators).resetIdle =
      table.resetIdle.attach rows (generators.filter (table.generatesFor ·.1)) := by
  have hstart : ({ table with rows } : PlannedTable).generatesFor = table.generatesFor :=
    generatesFor_congr rfl
  have hreset : ({ table.resetIdle with rows } : PlannedTable) =
      ({ table with rows } : PlannedTable).resetIdle := rfl
  unfold attach
  rw [← hstart, hreset]
  generalize ({ table with rows } : PlannedTable) = start
  induction generators generalizing start with
  | nil => rfl
  | cons entry generators ih =>
      have hkept : (start.setGenerator entry.1 entry.2.producer).generatesFor =
          start.generatesFor :=
        generatesFor_congr (start.toTable_setGenerator entry.1 entry.2.producer)
      rw [List.foldl_cons, ih, hkept, resetIdle_setGenerator]
      cases hentry : start.generatesFor entry.1 with
      | false => rw [List.filter_cons_of_neg (by simp [hentry]), if_neg (by simp)]
      | true => rw [List.filter_cons_of_pos (by simpa using hentry), if_pos rfl, List.foldl_cons]

/-- Of rules that compile the first one is skipped, or is compiled in front of the others. -/
theorem compileRules_cons_cases {text : String} {rules : List (String × String)}
    {generators : List (String × Generator)}
    (h : (table.compileRules ((name, text) :: rules)).2 = .ok generators) :
    (table.column? name = none ∧ (table.compileRules rules).2 = .ok generators) ∨
      ∃ column generator others, table.column? name = some column ∧
        Rule.compile text = .ok generator ∧ (table.compileRules rules).2 = .ok others ∧
          generators = (name, generator) :: others := by
  rw [compileRules] at h
  cases hcolumn : table.column? name with
  | none =>
      simp only [hcolumn] at h
      exact .inl ⟨rfl, h⟩
  | some column =>
      cases hcompiled : Rule.compile text with
      | error cause =>
          simp only [hcolumn, hcompiled] at h
          cases h
      | ok generator =>
          simp only [hcolumn, hcompiled] at h
          obtain ⟨others, hothers, rfl⟩ := map_eq_ok_iff.mp h
          exact .inr ⟨column, generator, others, rfl, rfl, hothers, rfl⟩

/-- Rules that compile do so without the rules for some columns. -/
theorem compileRules_filter {rules : List (String × String)}
    {generators : List (String × Generator)} (h : (table.compileRules rules).2 = .ok generators)
    (keep : String → Bool) :
    (table.compileRules (rules.filter (keep ·.1))).2 = .ok (generators.filter (keep ·.1)) := by
  induction rules generalizing generators with
  | nil =>
      obtain rfl := Except.ok.inj h
      rfl
  | cons entry rules ih =>
      obtain ⟨name, text⟩ := entry
      rcases compileRules_cons_cases h with
        ⟨hcolumn, hothers⟩ | ⟨column, generator, others, hcolumn, hcompiled, hothers, rfl⟩
      · have hrest := ih hothers
        cases hkeep : keep name
        · simpa [hkeep] using hrest
        · simpa [hkeep, compileRules, hcolumn] using hrest
      · have hrest := ih hothers
        cases hkeep : keep name
        · simpa [hkeep] using hrest
        · simp [hkeep, compileRules, hcolumn, hcompiled, hrest, Except.map]

end PlannedTable

/-! ### Tables by their places -/

theorem getElem?_updateFirst {α : Type} (test : α → Bool) (change : α → α) (items : List α)
    (position : Nat) :
    (updateFirst test change items)[position]? =
      if items.findIdx? test = some position then items[position]?.map change
      else items[position]? := by
  induction items generalizing position with
  | nil => rfl
  | cons item items ih =>
      rw [updateFirst, List.findIdx?_cons]
      cases htest : test item <;> cases position <;> simp [ih]

variable {tables tables' : List PlannedTable} {table : PlannedTable} {config config' : RulesConfig}
  {position : Nat}

theorem findIdx?_name_congr (h : tables.map (·.toTable) = tables'.map (·.toTable))
    (name : String) :
    tables.findIdx? (·.name == name) = tables'.findIdx? (·.name == name) := by
  have hkept : ∀ tables : List PlannedTable, tables.findIdx? (·.name == name) =
      (tables.map (·.toTable)).findIdx? (·.name == name) := by
    intro tables
    rw [List.findIdx?_map]
    rfl
  rw [hkept, hkept, h]

/-- Rules for a name leave all tables as they are but the first one of the name. -/
theorem AppliedRules.getElem?_ofTables_of_later {rules : List (String × TableRule)}
    (h : tables[position]? = some table)
    (hlater : tables.findIdx? (·.name == table.name) ≠ some position) :
    (ofTables tables rules).tables[position]? = some table := by
  -- Names stay, so the table is still a later one of its name behind each entry.
  induction rules generalizing tables with
  | nil => exact h
  | cons entry rules ih =>
      obtain ⟨name, rule⟩ := entry
      have hfirst : (ofTable tables name rule).tables[position]? = some table := by
        by_cases hname : table.name = name
        · rcases tables_ofTable_cases tables name rule with heq | ⟨generators, heq⟩
          · rw [heq, h]
          · rw [heq, getElem?_updateFirst, ← hname, if_neg hlater, h]
        · exact getElem?_ofTable_of_ne h hname rule
      cases houtcome : (ofTable tables name rule).outcome with
      | error cause => rwa [ofTables_cons_of_error houtcome]
      | ok =>
          rw [(ofTables_cons_of_ok houtcome rules).2]
          refine ih hfirst ?_
          rwa [findIdx?_name_congr (toTable_ofTable tables name rule)]

theorem find?_name_of_findIdx?_eq (hposition : tables[position]? = some table)
    (hfirst : tables.findIdx? (·.name == table.name) = some position) :
    tables.find? (·.name == table.name) = some table := by
  rw [List.find?_eq_bind_findIdx?_getElem?, hfirst]
  exact hposition

theorem getElem?_applyRules_of_first (hok : (applyRules tables config).outcome = .ok ())
    (hposition : tables[position]? = some table)
    (hfirst : tables.findIdx? (·.name == table.name) = some position) {rule : TableRule}
    (hrule : config.table? table.name = some rule) :
    ∃ generators, (table.compileRules rule.columns.entries).2 = .ok generators ∧
      (applyRules tables config).tables[position]? = some (table.attach rule.rows generators) := by
  obtain ⟨generators, hcompiled, happlied⟩ := find?_applyRules_of_table?_eq_some hok hrule
    (find?_name_of_findIdx?_eq hposition hfirst)
  refine ⟨generators, hcompiled, ?_⟩
  rwa [List.find?_eq_bind_findIdx?_getElem?,
    findIdx?_name_congr (applyRules_toTable tables config), hfirst] at happlied

/-! ### Configurations that differ in idle rules -/

/-- The rule for a column. -/
def RulesConfig.rule? (config : RulesConfig) (table column : String) : Option String :=
  (config.table? table).bind (·.columns.get? column)

/-- The configurations ask for the same rows of the same tables, and their rules for a column are
the same unless it is a foreign key or inserts leave it out. -/
structure DifferInIdleRules (tables : List PlannedTable) (config config' : RulesConfig) : Prop where
  rows : ∀ name, (config.table? name).map (·.rows) = (config'.table? name).map (·.rows)
  rules : ∀ name table column, tables.find? (·.name == name) = some table →
    table.column? column.name = some column → table.inserts column = true →
      column.column.isForeignKey = false →
        config.rule? name column.name = config'.rule? name column.name

namespace DifferInIdleRules

/-- It is enough to compare the rows and the rules of all columns that are generated. -/
theorem of_forall (hrows : config.tables.toFields (·.rows) = config'.tables.toFields (·.rows))
    (hrules : ∀ table ∈ tables, ∀ column ∈ table.columns, table.generates column = true →
      config.rule? table.name column.name = config'.rule? table.name column.name) :
    DifferInIdleRules tables config config' := by
  constructor
  · intro name
    unfold RulesConfig.table?
    rw [← NameMap.lookup_toFields, hrows, NameMap.lookup_toFields]
  · intro name table column hfound hcolumn hinserts hkey
    obtain rfl : table.name = name := by simpa using List.find?_some hfound
    exact hrules table (List.mem_of_find?_eq_some hfound) column
      (List.mem_of_find?_eq_some hcolumn) (by simp [PlannedTable.generates, hinserts, hkey])

/-- Of two rules for a table, the generators that show are the same. -/
theorem filter_generators (h : DifferInIdleRules tables config config')
    (hfound : tables.find? (·.name == table.name) = some table) {rule rule' : TableRule}
    (hrule : config.table? table.name = some rule) (hrule' : config'.table? table.name = some rule')
    {generators generators' : List (String × Generator)}
    (hcompiled : (table.compileRules rule.columns.entries).2 = .ok generators)
    (hcompiled' : (table.compileRules rule'.columns.entries).2 = .ok generators') :
    generators.filter (table.generatesFor ·.1) = generators'.filter (table.generatesFor ·.1) := by
  have hentries : rule.columns.entries.filter (table.generatesFor ·.1) =
      rule'.columns.entries.filter (table.generatesFor ·.1) := by
    refine NameMap.filter_entries_congr fun name hname => ?_
    obtain ⟨column, hcolumn, hgenerates⟩ := (Option.any_eq_true _ _).mp hname
    obtain rfl : column.name = name := by simpa using List.find?_some hcolumn
    obtain ⟨hinserts, hkey⟩ := Bool.and_eq_true_iff.mp hgenerates
    have hsame := h.rules _ _ column hfound hcolumn hinserts (by simpa using hkey)
    simpa [RulesConfig.rule?, hrule, hrule'] using hsame
  have hkept := PlannedTable.compileRules_filter hcompiled table.generatesFor
  rw [hentries, PlannedTable.compileRules_filter hcompiled' table.generatesFor] at hkept
  exact (Except.ok.inj hkept).symm

theorem resetIdle_of_first (h : DifferInIdleRules tables config config')
    (hok : (applyRules tables config).outcome = .ok ())
    (hok' : (applyRules tables config').outcome = .ok ())
    (hposition : tables[position]? = some table)
    (hfirst : tables.findIdx? (·.name == table.name) = some position) :
    (applyRules tables config).tables[position]?.map (·.resetIdle) =
      (applyRules tables config').tables[position]?.map (·.resetIdle) := by
  have hrows := h.rows table.name
  cases hrule : config.table? table.name with
  | none =>
      rw [hrule] at hrows
      have hrule' : config'.table? table.name = none := by simpa using hrows.symm
      rw [getElem?_applyRules_of_table?_eq_none hposition hrule,
        getElem?_applyRules_of_table?_eq_none hposition hrule']
  | some rule =>
      rw [hrule] at hrows
      obtain ⟨rule', hrule', hsame⟩ := Option.map_eq_some_iff.mp hrows.symm
      obtain ⟨generators, hcompiled, happlied⟩ :=
        getElem?_applyRules_of_first hok hposition hfirst hrule
      obtain ⟨generators', hcompiled', happlied'⟩ :=
        getElem?_applyRules_of_first hok' hposition hfirst hrule'
      have hshown := h.filter_generators (find?_name_of_findIdx?_eq hposition hfirst) hrule hrule'
        hcompiled hcompiled'
      rw [happlied, happlied', Option.map_some, Option.map_some, PlannedTable.resetIdle_attach,
        PlannedTable.resetIdle_attach, hsame, hshown]

/-- The tables are the same but for generators that no value is drawn from. -/
theorem map_resetIdle (h : DifferInIdleRules tables config config')
    (hok : (applyRules tables config).outcome = .ok ())
    (hok' : (applyRules tables config').outcome = .ok ()) :
    (applyRules tables config).tables.map (·.resetIdle) =
      (applyRules tables config').tables.map (·.resetIdle) := by
  -- Place by place: the first table of a name has the rules for it, and all others are as before.
  refine List.ext_getElem? fun position => ?_
  rw [List.getElem?_map, List.getElem?_map]
  cases hposition : tables[position]? with
  | none =>
      have hnone : ∀ config, (applyRules tables config).tables[position]? = none := by
        intro config
        have hkept := congrArg (·[position]?) (applyRules_toTable tables config)
        simpa [hposition] using hkept
      rw [hnone, hnone]
  | some table =>
      by_cases hfirst : tables.findIdx? (·.name == table.name) = some position
      · exact h.resetIdle_of_first hok hok' hposition hfirst
      · have hkept : ∀ config, (applyRules tables config).tables[position]? = some table :=
          fun config => AppliedRules.getElem?_ofTables_of_later hposition hfirst
        rw [hkept, hkept]

end DifferInIdleRules

end SyntheticRows
