import SyntheticRows.Proofs.Plan.IdleRules
/-!
# Configurations that override each other

What a configuration that applies does can be said at once for all tables: the first table of each
name takes its row count and, column by column, the generators of its rules. So a second
configuration decides where it says something and leaves the rest to the first one, which is what one
configuration with the entries of both does.
-/

namespace SyntheticRows

/-! ### The first items of their names -/

section Firsts

variable {α : Type} {nameOf : α → String} {change : α → α} {items : List α}

/-- Changes each item that is the first of its name. -/
def onFirsts (nameOf : α → String) (change : α → α) (items : List α) : List α :=
  items.mapIdx fun position item =>
    if items.findIdx? (nameOf · == nameOf item) = some position then change item else item

theorem onFirsts_congr {change' : α → α}
    (h : ∀ (position : Nat) item, items[position]? = some item →
      items.findIdx? (nameOf · == nameOf item) = some position → change item = change' item) :
    onFirsts nameOf change items = onFirsts nameOf change' items := by
  refine List.ext_getElem? fun position => ?_
  rw [onFirsts, onFirsts, List.getElem?_mapIdx, List.getElem?_mapIdx]
  cases hitem : items[position]? with
  | none => rfl
  | some item =>
      rw [Option.map_some, Option.map_some]
      split
      next hfirst => rw [h position item hitem hfirst]
      next => rfl

theorem onFirsts_eq_self (h : ∀ item ∈ items, change item = item) :
    onFirsts nameOf change items = items := by
  refine List.mapIdx_eq_iff.mpr fun position => ?_
  cases hitem : items[position]? with
  | none => rfl
  | some item => simp [h item (List.mem_of_getElem? hitem)]

theorem map_name_onFirsts (h : ∀ item, nameOf (change item) = nameOf item) (items : List α) :
    (onFirsts nameOf change items).map nameOf = items.map nameOf := by
  refine List.ext_getElem? fun position => ?_
  rw [List.getElem?_map, List.getElem?_map, onFirsts, List.getElem?_mapIdx, Option.map_map]
  refine congrArg (items[position]?.map ·) (funext fun item => ?_)
  rw [Function.comp_apply]
  split
  · exact h item
  · rfl

theorem findIdx?_name_of_map_eq {items' : List α} (h : items.map nameOf = items'.map nameOf)
    (name : String) :
    items.findIdx? (nameOf · == name) = items'.findIdx? (nameOf · == name) := by
  have hnames : ∀ items : List α,
      items.findIdx? (nameOf · == name) = (items.map nameOf).findIdx? (· == name) := by
    intro items
    rw [List.findIdx?_map]
    rfl
  rw [hnames, hnames, h]

/-- Changes that keep names are made one after the other. -/
theorem onFirsts_onFirsts (h : ∀ item, nameOf (change item) = nameOf item) (change' : α → α)
    (items : List α) :
    onFirsts nameOf change' (onFirsts nameOf change items) =
      onFirsts nameOf (fun item => change' (change item)) items := by
  have hfind := findIdx?_name_of_map_eq (map_name_onFirsts h items)
  refine List.ext_getElem? fun position => ?_
  rw [onFirsts, List.getElem?_mapIdx]
  simp only [hfind]
  rw [onFirsts, onFirsts, List.getElem?_mapIdx, List.getElem?_mapIdx, Option.map_map]
  refine congrArg (items[position]?.map ·) (funext fun item => ?_)
  rw [Function.comp_apply]
  split
  · next hfirst => rw [h, if_pos hfirst]
  · rfl

theorem updateFirst_eq_onFirsts (name : String) (change : α → α) (items : List α) :
    updateFirst (nameOf · == name) change items =
      onFirsts nameOf (fun item => if nameOf item = name then change item else item) items := by
  refine List.ext_getElem? fun position => ?_
  rw [getElem?_updateFirst, onFirsts, List.getElem?_mapIdx]
  cases hitem : items[position]? with
  | none => simp
  | some item =>
      by_cases hname : nameOf item = name
      · subst hname
        simp only [Option.map_some, if_true]
        split <;> rfl
      · have hlater : items.findIdx? (nameOf · == name) ≠ some position := by
          intro hfirst
          have htest := List.of_findIdx?_eq_some hfirst
          rw [hitem] at htest
          exact hname (by simpa using htest)
        simp [hlater, hname]

end Firsts

/-! ### The rules of one table -/

namespace PlannedTable

variable {table : PlannedTable} {rules : List (String × String)}
  {generators : List (String × Generator)}

theorem isSome_column?_iff {name : String} :
    (table.column? name).isSome = true ↔ name ∈ table.columns.map (·.name) := by
  rw [column?, List.find?_isSome]
  simp

/-- Each rule for a column of the table gives the generator that it compiles to. -/
theorem lookup_of_compileRules_eq_ok (h : (table.compileRules rules).2 = .ok generators)
    {name : String} (hname : name ∈ table.columns.map (·.name)) :
    generators.lookup name =
      (rules.lookup name).bind fun text => (Rule.compile text).toOption := by
  induction rules generalizing generators with
  | nil =>
      obtain rfl := Except.ok.inj h
      rfl
  | cons entry rules ih =>
      obtain ⟨key, text⟩ := entry
      rw [NameMap.lookup_cons_eq_ite]
      rcases compileRules_cons_cases h with
        ⟨hcolumn, hothers⟩ | ⟨column, generator, others, -, hcompiled, hothers, rfl⟩
      · have hne : name ≠ key := by
          rintro rfl
          have hsome := isSome_column?_iff.mpr hname
          rw [hcolumn] at hsome
          cases hsome
        rw [if_neg hne, ih hothers]
      · rw [NameMap.lookup_cons_eq_ite, ih hothers]
        by_cases heq : name = key
        · simp [heq, hcompiled, Except.toOption]
        · simp [heq]

theorem names_sublist_of_compileRules_eq_ok (h : (table.compileRules rules).2 = .ok generators) :
    (generators.map (·.1)).Sublist (rules.map (·.1)) := by
  induction rules generalizing generators with
  | nil =>
      obtain rfl := Except.ok.inj h
      exact List.nil_sublist []
  | cons entry rules ih =>
      obtain ⟨key, text⟩ := entry
      rcases compileRules_cons_cases h with
        ⟨-, hothers⟩ | ⟨column, generator, others, -, -, hothers, rfl⟩
      · exact (ih hothers).cons key
      · exact (ih hothers).cons_cons key

/-- The column with the generator of its name, if there is one. -/
def withGenerator (generator? : String → Option Generator) (column : PlannedColumn) :
    PlannedColumn :=
  { column with
    generator := ((generator? column.name).map Generator.producer).getD column.generator }

/-- Of generators that are set in turn the later ones stay. -/
theorem onFirsts_withGenerator (generator? generator?' : String → Option Generator)
    (columns : List PlannedColumn) :
    onFirsts PlannedColumn.name (withGenerator generator?')
        (onFirsts PlannedColumn.name (withGenerator generator?) columns) =
      onFirsts PlannedColumn.name
        (withGenerator fun name => (generator?' name).or (generator? name)) columns := by
  have hboth : ∀ column, withGenerator generator?' (withGenerator generator? column) =
      withGenerator (fun name => (generator?' name).or (generator? name)) column := by
    intro column
    simp only [withGenerator, PlannedColumn.name, Option.map_or, Option.getD_or]
  have hkeep : ∀ column, (withGenerator generator? column).name = column.name := fun _ => rfl
  rw [onFirsts_onFirsts hkeep]
  exact onFirsts_congr fun _ column _ _ => hboth column

theorem setGenerator_eq (table : PlannedTable) (name : String) (generator : Generator) :
    table.setGenerator name generator.producer =
      { table with
        columns := onFirsts PlannedColumn.name
          (withGenerator fun other => [(name, generator)].lookup other) table.columns } := by
  have hchange : (fun column : PlannedColumn =>
      if column.name = name then { column with generator := generator.producer } else column) =
        withGenerator fun other => [(name, generator)].lookup other := by
    funext column
    rw [withGenerator, NameMap.lookup_cons_eq_ite]
    split <;> rfl
  rw [setGenerator, updateFirst_eq_onFirsts, hchange]

/-- Generators of different names are set for the first columns of their names. -/
theorem attach_eq (hnames : (generators.map (·.1)).Nodup) (table : PlannedTable)
    (rows : UInt64) :
    table.attach rows generators =
      { table with
        rows
        columns := onFirsts PlannedColumn.name (withGenerator fun name => generators.lookup name)
          table.columns } := by
  induction generators generalizing table with
  | nil =>
      have hkept : onFirsts PlannedColumn.name (withGenerator fun _ => none) table.columns =
          table.columns := onFirsts_eq_self fun _ _ => rfl
      simp only [attach, List.foldl_nil, List.lookup_nil, hkept]
  | cons entry generators ih =>
      obtain ⟨key, generator⟩ := entry
      rw [List.map_cons, List.nodup_cons] at hnames
      have hlookup : ∀ name, (generators.lookup name).or ([(key, generator)].lookup name) =
          ((key, generator) :: generators).lookup name := by
        intro name
        rw [NameMap.lookup_cons_eq_ite, NameMap.lookup_cons_eq_ite]
        by_cases heq : name = key
        · simp [heq, NameMap.lookup_eq_none_of_notMem hnames.1]
        · simp [heq]
      have hfirst : table.attach rows ((key, generator) :: generators) =
          (table.setGenerator key generator.producer).attach rows generators := rfl
      rw [hfirst, ih hnames.2, setGenerator_eq]
      simp only [onFirsts_withGenerator, hlookup]

end PlannedTable

/-! ### What a configuration does -/

section Config

variable {tables : List PlannedTable} {table : PlannedTable} {config : RulesConfig}

/-- The generator of the rule for a column, if there is one that compiles. -/
def RulesConfig.generator? (config : RulesConfig) (table column : String) : Option Generator :=
  (config.rule? table column).bind fun text => (Rule.compile text).toOption

/-- The table with its row count and the generators of its columns. -/
def PlannedTable.ruledBy (config : RulesConfig) (table : PlannedTable) : PlannedTable :=
  { table with
    rows := ((config.table? table.name).map (·.rows)).getD table.rows
    columns := onFirsts PlannedColumn.name
      (PlannedTable.withGenerator (config.generator? table.name)) table.columns }

theorem PlannedTable.ruledBy_eq_self (h : config.table? table.name = none) :
    table.ruledBy config = table := by
  have hnone : config.generator? table.name = fun _ => none := by
    funext column
    simp [RulesConfig.generator?, RulesConfig.rule?, h]
  have hkept : onFirsts PlannedColumn.name (withGenerator fun _ => none) table.columns =
      table.columns := onFirsts_eq_self fun _ _ => rfl
  simp only [ruledBy, h, hnone, hkept, Option.map_none, Option.getD_none]

theorem PlannedTable.attach_eq_ruledBy {rule : TableRule}
    (hrule : config.table? table.name = some rule) {generators : List (String × Generator)}
    (hcompiled : (table.compileRules rule.columns.entries).2 = .ok generators) :
    table.attach rule.rows generators = table.ruledBy config := by
  have hnames : (generators.map (·.1)).Nodup :=
    (rule.columns.ascending.imp Std.ne_of_lt).sublist
      (names_sublist_of_compileRules_eq_ok hcompiled)
  have hcolumns : onFirsts PlannedColumn.name (withGenerator fun name => generators.lookup name)
      table.columns = onFirsts PlannedColumn.name
        (withGenerator (config.generator? table.name)) table.columns := by
    refine onFirsts_congr fun position column hcolumn _ => ?_
    have hname : column.name ∈ table.columns.map (·.name) :=
      List.mem_map_of_mem (List.mem_of_getElem? hcolumn)
    have hlookup : generators.lookup column.name = config.generator? table.name column.name := by
      rw [lookup_of_compileRules_eq_ok hcompiled hname, RulesConfig.generator?, RulesConfig.rule?,
        hrule]
      rfl
    simp only [withGenerator, hlookup]
  simp only [attach_eq hnames, ruledBy, hrule, hcolumns, Option.map_some, Option.getD_some]

/-- A configuration that applies rules the first table of each name. -/
theorem tables_applyRules (hok : (applyRules tables config).outcome = .ok ()) :
    (applyRules tables config).tables = onFirsts PlannedTable.name (·.ruledBy config) tables := by
  refine List.ext_getElem? fun position => ?_
  rw [onFirsts, List.getElem?_mapIdx]
  cases hposition : tables[position]? with
  | none =>
      have hkept := congrArg (·[position]?) (applyRules_toTable tables config)
      simpa [hposition] using hkept
  | some table =>
      rw [Option.map_some]
      split
      next hfirst =>
        cases hrule : config.table? table.name with
        | none =>
            rw [getElem?_applyRules_of_table?_eq_none hposition hrule,
              PlannedTable.ruledBy_eq_self hrule]
        | some rule =>
            obtain ⟨generators, hcompiled, happlied⟩ :=
              getElem?_applyRules_of_first hok hposition hfirst hrule
            rw [happlied, PlannedTable.attach_eq_ruledBy hrule hcompiled]
      next hlater => exact AppliedRules.getElem?_ofTables_of_later hposition hlater

end Config

/-! ### Configurations as one -/

/-- The row count of the other rule, and its rules for columns in front of those of this one. -/
def TableRule.overriddenBy (rule other : TableRule) : TableRule :=
  { rows := other.rows
    columns := rule.columns.mergeWith (fun _ text => text) other.columns }

/-- The entries of both configurations; where both have one for a table, the second overrides the
first. -/
def RulesConfig.overriddenBy (config other : RulesConfig) : RulesConfig :=
  { tables := config.tables.mergeWith TableRule.overriddenBy other.tables }

namespace RulesConfig

variable {first second : RulesConfig}

theorem table?_overriddenBy (first second : RulesConfig) (name : String) :
    (first.overriddenBy second).table? name =
      Option.merge TableRule.overriddenBy (first.table? name) (second.table? name) :=
  NameMap.get?_mergeWith TableRule.overriddenBy first.tables second.tables name

/-- The second configuration tells how many rows a table gets, and else the first does. -/
theorem rows_overriddenBy (first second : RulesConfig) (name : String) :
    ((first.overriddenBy second).table? name).map (·.rows) =
      ((second.table? name).map (·.rows)).or ((first.table? name).map (·.rows)) := by
  rw [table?_overriddenBy]
  cases first.table? name <;> cases second.table? name <;> rfl

/-- The second configuration tells the rule for a column, and else the first does. -/
theorem rule?_overriddenBy (first second : RulesConfig) (table column : String) :
    (first.overriddenBy second).rule? table column =
      (second.rule? table column).or (first.rule? table column) := by
  rw [rule?, rule?, rule?, table?_overriddenBy]
  cases first.table? table with
  | none => cases second.table? table <;> simp
  | some rule =>
      cases second.table? table with
      | none => simp
      | some other =>
          have hcolumns := NameMap.get?_mergeWith (fun _ text => text) rule.columns other.columns
            column
          simp only [Option.merge_some_some, Option.bind_some, TableRule.overriddenBy, hcolumns]
          cases rule.columns.get? column <;> cases other.columns.get? column <;> rfl

end RulesConfig

/-! ### Rules that do not compile -/

section Broken

variable {tables tables' : List PlannedTable} {config first second : RulesConfig}
  {name column text : String} {cause : RuleError}

theorem applyRules_eq_ok_iff :
    (applyRules tables config).outcome = .ok () ↔
      ∀ name column text cause, ¬BrokenRule tables config name column text cause := by
  rcases AppliedRules.ofTables_eq_ok_or_stopsAt tables config.tables.entries config.nodup_names with
    ⟨hok, hnone⟩ | ⟨front, name, rule, back, column, text, cause, hstops⟩
  · refine ⟨fun _ name column text cause hbroken => ?_, fun _ => hok⟩
    obtain ⟨rule, hmem, hbreaks⟩ := brokenRule_iff.mp hbroken
    exact hnone _ hmem column text cause hbreaks
  · have hmem : (name, rule) ∈ config.tables.entries := by
      rw [hstops.entries]
      exact List.mem_append_right _ List.mem_cons_self
    constructor
    · intro hok
      cases hok.symm.trans hstops.outcome
    · intro hnone
      exact absurd (brokenRule_iff.mpr ⟨rule, hmem, hstops.broken⟩) (hnone name column text cause)

theorem brokenRule_iff_rule? :
    BrokenRule tables config name column text cause ↔ config.rule? name column = some text ∧
      ∃ table, tables.find? (·.name == name) = some table ∧ table.Refuses (column, text) cause := by
  unfold BrokenRule TableRule.Breaks RulesConfig.rule?
  constructor
  · rintro ⟨rule, hrule, table, hfound, hmem, hrefuses⟩
    rw [hrule]
    exact ⟨NameMap.get?_eq_some_iff_mem.mpr hmem, table, hfound, hrefuses⟩
  · rintro ⟨htext, table, hfound, hrefuses⟩
    obtain ⟨rule, hrule, hcolumn⟩ := Option.bind_eq_some_iff.mp htext
    exact ⟨rule, hrule, table, hfound, NameMap.get?_eq_some_iff_mem.mp hcolumn, hrefuses⟩

/-- Whether a rule is broken depends on what rules leave of the tables. -/
theorem BrokenRule.congr (h : BrokenRule tables config name column text cause)
    (hsame : tables.map (·.toTable) = tables'.map (·.toTable)) :
    BrokenRule tables' config name column text cause := by
  obtain ⟨htext, table, hfound, hcolumn, hfails⟩ := brokenRule_iff_rule?.mp h
  have hfind : ∀ tables : List PlannedTable,
      (tables.find? (·.name == name)).map (·.toTable) =
        (tables.map (·.toTable)).find? (·.name == name) := by
    intro tables
    rw [List.find?_map]
    rfl
  have hfound' := hfind tables'
  rw [← hsame, ← hfind, hfound] at hfound'
  obtain ⟨table', hfound', htable⟩ := Option.map_eq_some_iff.mp hfound'
  refine brokenRule_iff_rule?.mpr ⟨htext, table', hfound', ?_, hfails⟩
  have hnames : ∀ table : PlannedTable,
      table.columns.map (·.name) = table.toTable.columns.map (·.name) := by
    intro table
    rw [PlannedTable.toTable, List.map_map]
    rfl
  rw [PlannedTable.isSome_column?_iff, hnames] at hcolumn ⊢
  rwa [htable]

/-- A rule that is broken in both configurations as one is broken in one of them. -/
theorem BrokenRule.of_overriddenBy
    (h : BrokenRule tables (first.overriddenBy second) name column text cause) :
    BrokenRule tables first name column text cause ∨
      BrokenRule tables second name column text cause := by
  obtain ⟨htext, hrefused⟩ := brokenRule_iff_rule?.mp h
  rw [RulesConfig.rule?_overriddenBy] at htext
  rcases Option.or_eq_some_iff.mp htext with hsecond | ⟨-, hfirst⟩
  · exact .inr (brokenRule_iff_rule?.mpr ⟨hsecond, hrefused⟩)
  · exact .inl (brokenRule_iff_rule?.mpr ⟨hfirst, hrefused⟩)

end Broken

/-! ### One configuration after the other -/

variable {tables : List PlannedTable} {first second : RulesConfig}

/-- Where the rules of the second configuration compile, those of the first one are left to it
where it has none. -/
theorem PlannedTable.ruledBy_ruledBy {table : PlannedTable}
    (hsound : ∀ column ∈ table.columns, ∀ text cause,
      second.rule? table.name column.name = some text → Rule.compile text ≠ .error cause) :
    (table.ruledBy first).ruledBy second = table.ruledBy (first.overriddenBy second) := by
  have hgenerator : ∀ column ∈ table.columns,
      (second.generator? table.name column.name).or (first.generator? table.name column.name) =
        (first.overriddenBy second).generator? table.name column.name := by
    intro column hcolumn
    unfold RulesConfig.generator?
    rw [RulesConfig.rule?_overriddenBy]
    cases htext : second.rule? table.name column.name with
    | none => simp
    | some text =>
        cases hcompiled : Rule.compile text with
        -- A rule that does not compile would leave the first configuration's generator in place.
        | error cause => exact absurd hcompiled (hsound column hcolumn text cause htext)
        | ok generator => simp [hcompiled, Except.toOption]
  have hcolumns : onFirsts PlannedColumn.name
      (withGenerator fun name =>
        (second.generator? table.name name).or (first.generator? table.name name)) table.columns =
      onFirsts PlannedColumn.name
        (withGenerator ((first.overriddenBy second).generator? table.name)) table.columns := by
    refine onFirsts_congr fun position column hcolumn _ => ?_
    simp only [withGenerator, hgenerator column (List.mem_of_getElem? hcolumn)]
  simp only [ruledBy, onFirsts_withGenerator, hcolumns, RulesConfig.rows_overriddenBy,
    Option.getD_or]

/-- **Configurations in turn are one configuration.** Where a configuration applies and then another
one does, the second overriding the first applies as well and leaves the same tables. All that rules
do not set is as it was. -/
theorem applyRules_overriddenBy (hfirst : (applyRules tables first).outcome = .ok ())
    (hsecond : (applyRules (applyRules tables first).tables second).outcome = .ok ()) :
    (applyRules tables (first.overriddenBy second)).outcome = .ok () ∧
      (applyRules tables (first.overriddenBy second)).tables =
        (applyRules (applyRules tables first).tables second).tables ∧
      (applyRules (applyRules tables first).tables second).tables.map (·.toTable) =
        tables.map (·.toTable) := by
  have hkept := applyRules_toTable tables first
  have hsound : ∀ name column text cause, ¬BrokenRule tables second name column text cause :=
    fun name column text cause hbroken =>
      applyRules_eq_ok_iff.mp hsecond name column text cause (hbroken.congr hkept.symm)
  have hok : (applyRules tables (first.overriddenBy second)).outcome = .ok () := by
    refine applyRules_eq_ok_iff.mpr fun name column text cause hbroken => ?_
    rcases hbroken.of_overriddenBy with hbroken | hbroken
    · exact applyRules_eq_ok_iff.mp hfirst name column text cause hbroken
    · exact hsound name column text cause hbroken
  refine ⟨hok, ?_, (applyRules_toTable _ second).trans hkept⟩
  have hname : ∀ table : PlannedTable, (table.ruledBy first).name = table.name := fun _ => rfl
  rw [tables_applyRules hok, tables_applyRules hsecond, tables_applyRules hfirst,
    onFirsts_onFirsts hname]
  refine onFirsts_congr fun position table hposition hplace => ?_
  refine (PlannedTable.ruledBy_ruledBy fun column hcolumn text cause htext hfails => ?_).symm
  refine hsound table.name column.name text cause (brokenRule_iff_rule?.mpr ⟨htext, table, ?_, ?_⟩)
  · exact find?_name_of_findIdx?_eq hposition hplace
  · exact ⟨PlannedTable.isSome_column?_iff.mpr (List.mem_map_of_mem hcolumn), hfails⟩

/-- The second configuration asks for no rows of a table that the first one fills, and has rules for
one of its columns, which comes twice like the table itself. -/
theorem applyRules_overriddenBy_of_users :
    let column (name : String) : PlannedColumn :=
      .ofColumn ⟨name, "integer", .plain .integer, false, none, false⟩
    let table (name : String) (columns : List PlannedColumn) (rows : UInt64) : PlannedTable :=
      ⟨name, columns, ["id"], [], rows⟩
    let users := table "users" [column "id", column "code", column "code", column "note"] 0
    let tables := [users, table "orders" [column "id"] 0, users]
    let first : RulesConfig :=
      { tables := .ofList
          [("users", ⟨4, .ofList [("code", "constant[1]"), ("note", "constant[2]")]⟩),
            ("ghosts", ⟨7, .ofList [("code", "nothing")]⟩)] }
    let second : RulesConfig :=
      { tables := .ofList
          [("users", ⟨0, .ofList [("code", "constant[3]"), ("absent", "nothing")]⟩),
            ("orders", ⟨2, .empty⟩)] }
    (applyRules tables first).outcome = .ok () ∧
      (applyRules (applyRules tables first).tables second).outcome = .ok () ∧
      (applyRules tables (first.overriddenBy second)).outcome = .ok () ∧
      (applyRules tables (first.overriddenBy second)).tables =
        [table "users"
            [column "id", { column "code" with generator := (Generator.constant "3").producer },
              column "code", { column "note" with generator := (Generator.constant "2").producer }]
            0,
          table "orders" [column "id"] 2, users] := by
  intro column table users tables first second
  have hfirst : (applyRules tables first).outcome = .ok () := by decide +kernel
  have hsecond : (applyRules (applyRules tables first).tables second).outcome = .ok () := by
    decide +kernel
  obtain ⟨hok, htables, -⟩ := applyRules_overriddenBy hfirst hsecond
  exact ⟨hfirst, hsecond, hok, htables.trans rfl⟩

end SyntheticRows
