import SyntheticRows.Proofs.NameMap
import SyntheticRows.Proofs.Plan.Shape
import SyntheticRows.Proofs.Text.ByteOrder
/-!
# A rule that fails stops a configuration between two tables

Tables and columns are taken in the order of their names, so the first rule that does not compile is
the least one. All tables before it are done, and neither its own table nor any later one is
touched: the tables are those that the part of the configuration below the failing table leaves.
-/

namespace SyntheticRows

/-- The part of a configuration for the tables below a name. -/
def RulesConfig.below (config : RulesConfig) (name : String) : RulesConfig :=
  { tables := config.tables.below name }

namespace PlannedTable

/-- A rule on a column of the table that does not compile. -/
def Refuses (table : PlannedTable) (entry : String × String) (cause : RuleError) : Prop :=
  (table.column? entry.1).isSome ∧ Rule.compile entry.2 = .error cause

/-- A rule that is not refused is skipped or compiled, and the rest decides. -/
theorem exists_compileRules_cons_eq_map {table : PlannedTable} {name text : String}
    (h : ∀ cause, ¬table.Refuses (name, text) cause) (rules : List (String × String)) :
    ∃ change, (table.compileRules ((name, text) :: rules)).2 =
      (table.compileRules rules).2.map change := by
  rw [compileRules]
  cases hcolumn : table.column? name with
  | none => exact ⟨id, by rw [Except.map_id]; rfl⟩
  | some column =>
      cases hcompiled : Rule.compile text with
      | error cause => exact absurd ⟨by simp [hcolumn], hcompiled⟩ (h cause)
      | ok generator => exact ⟨((name, generator) :: ·), rfl⟩

/-- Rules compile up to the first one that is refused. -/
theorem compileRules_eq_ok_or_error (table : PlannedTable) (rules : List (String × String)) :
    (∃ generators, (table.compileRules rules).2 = .ok generators ∧
      ∀ entry ∈ rules, ∀ cause, ¬table.Refuses entry cause) ∨
    ∃ front entry back cause, rules = front ++ entry :: back ∧
      (∀ other ∈ front, ∀ cause, ¬table.Refuses other cause) ∧ table.Refuses entry cause ∧
      (table.compileRules rules).2 = .error (.rule table.name entry.1 entry.2 cause) := by
  induction rules with
  | nil => exact .inl ⟨[], rfl, by simp⟩
  | cons entry rules ih =>
      obtain ⟨name, text⟩ := entry
      by_cases hrefused : ∃ cause, table.Refuses (name, text) cause
      · obtain ⟨cause, hrefuses⟩ := hrefused
        refine .inr ⟨[], (name, text), rules, cause, rfl, by simp, hrefuses, ?_⟩
        obtain ⟨hcolumn, hfails⟩ := hrefuses
        obtain ⟨column, hcolumn⟩ := Option.isSome_iff_exists.mp hcolumn
        simp only [compileRules, hcolumn, hfails]
      · have hfirst : ∀ cause, ¬table.Refuses (name, text) cause := not_exists.mp hrefused
        obtain ⟨change, hrest⟩ := exists_compileRules_cons_eq_map hfirst rules
        rw [hrest]
        rcases ih with ⟨generators, hok, hnone⟩ |
          ⟨front, entry, back, cause, rfl, hfront, hentry, herror⟩
        · rw [hok]
          exact .inl ⟨_, rfl, List.forall_mem_cons.mpr ⟨hfirst, hnone⟩⟩
        · rw [herror]
          exact .inr ⟨(name, text) :: front, entry, back, cause, rfl,
            List.forall_mem_cons.mpr ⟨hfirst, hfront⟩, hentry, rfl⟩

theorem name_attach (table : PlannedTable) (rows : UInt64)
    (generators : List (String × Generator)) :
    (table.attach rows generators).name = table.name :=
  congrArg (·.name) (table.toTable_attach rows generators)

end PlannedTable

/-! ### A change of the first item that passes a test -/

section UpdateFirst

variable {α : Type} {test other : α → Bool} {change : α → α} {items : List α}

theorem getElem?_updateFirst_of_neg {position : Nat} {item : α}
    (h : items[position]? = some item) (hneg : test item = false) :
    (updateFirst test change items)[position]? = some item := by
  induction items generalizing position with
  | nil => cases h
  | cons first items ih =>
      unfold updateFirst
      cases position with
      | zero =>
          obtain rfl := Option.some.inj h
          rw [if_neg (by simp [hneg])]
          rfl
      | succ position =>
          split
          · exact h
          · exact ih h

theorem find?_updateFirst_of_disjoint (h : ∀ item, test item = true → other item = false)
    (hchange : ∀ item, test (change item) = test item) :
    (updateFirst test change items).find? other = items.find? other := by
  induction items with
  | nil => rfl
  | cons first items ih =>
      unfold updateFirst
      split
      · next hfirst =>
          rw [List.find?_cons_of_neg (by simp [h _ ((hchange first).trans hfirst)]),
            List.find?_cons_of_neg (by simp [h first hfirst])]
      · rw [List.find?_cons, List.find?_cons, ih]

theorem find?_updateFirst_self (hchange : ∀ item, test (change item) = test item) :
    (updateFirst test change items).find? test = (items.find? test).map change := by
  induction items with
  | nil => rfl
  | cons first items ih =>
      unfold updateFirst
      split
      · next hfirst =>
          rw [List.find?_cons_of_pos hfirst, List.find?_cons_of_pos ((hchange first).trans hfirst),
            Option.map_some]
      · next hfirst => rw [List.find?_cons_of_neg hfirst, List.find?_cons_of_neg hfirst, ih]

end UpdateFirst

/-! ### The rules of one table -/

/-- A rule of an entry, on a column of the first table of its name, that does not compile. -/
def TableRule.Breaks (tables : List PlannedTable) (name : String) (rule : TableRule)
    (column text : String) (cause : RuleError) : Prop :=
  ∃ table, tables.find? (·.name == name) = some table ∧ (column, text) ∈ rule.columns.entries ∧
    table.Refuses (column, text) cause

namespace AppliedRules

variable {tables : List PlannedTable} {table : PlannedTable} {name other : String}
  {rule : TableRule}

/-- The rules of one table fail at the least column whose rule is broken, without any effect. -/
theorem ofTable_eq_ok_or_error (tables : List PlannedTable) (name : String) (rule : TableRule) :
    ((ofTable tables name rule).outcome = .ok () ∧
      ∀ column text cause, ¬rule.Breaks tables name column text cause) ∨
    ∃ column text cause, rule.Breaks tables name column text cause ∧
      (∀ column' text' cause', rule.Breaks tables name column' text' cause' → column ≤ column') ∧
      (ofTable tables name rule).outcome = .error (.rule name column text cause) ∧
      (ofTable tables name rule).tables = tables := by
  cases hfound : tables.find? (·.name == name) with
  | none =>
      refine .inl ⟨by simp only [ofTable, hfound], ?_⟩
      rintro column text cause ⟨table, htable, _⟩
      rw [hfound] at htable
      cases htable
  | some table =>
      have hbreaks : ∀ column text cause, rule.Breaks tables name column text cause ↔
          (column, text) ∈ rule.columns.entries ∧ table.Refuses (column, text) cause := by
        intro column text cause
        simp [TableRule.Breaks, hfound]
      have hname : table.name = name := by simpa using List.find?_some hfound
      simp only [hbreaks]
      rcases table.compileRules_eq_ok_or_error rule.columns.entries with
        ⟨generators, hok, hnone⟩ | ⟨front, entry, back, cause, hentries, hfront, hentry, herror⟩
      · refine .inl ⟨?_, fun column text cause hbroken => hnone _ hbroken.1 cause hbroken.2⟩
        rcases hcompiled : table.compileRules rule.columns.entries with ⟨events, _ | generators⟩
        · rw [hcompiled] at hok
          cases hok
        · simp only [ofTable, hfound, hcompiled]
      · refine .inr ⟨entry.1, entry.2, cause, ⟨?_, hentry⟩, ?_, ?_⟩
        · rw [hentries]
          exact List.mem_append_right _ List.mem_cons_self
        · rintro column text cause' ⟨hmem, hrefused⟩
          rcases NameMap.mem_entries_cases hentries hmem with hmem | heq | hlt
          · exact absurd hrefused (hfront _ hmem cause')
          · obtain ⟨rfl, _⟩ := Prod.mk.inj heq
            exact String.le_refl _
          · exact Std.le_of_lt hlt
        · rcases hcompiled : table.compileRules rule.columns.entries with ⟨events, _ | generators⟩
          · rw [hcompiled] at herror
            obtain rfl := Except.error.inj herror
            simp only [ofTable, hfound, hcompiled, hname, and_self]
          · rw [hcompiled] at herror
            cases herror

/-- What the rules of one table do: nothing, or a change of the first table of the name. -/
theorem tables_ofTable_cases (tables : List PlannedTable) (name : String) (rule : TableRule) :
    (ofTable tables name rule).tables = tables ∨
    ∃ generators, (ofTable tables name rule).tables =
      updateFirst (·.name == name) (·.attach rule.rows generators) tables := by
  unfold ofTable
  cases tables.find? (·.name == name) with
  | none => exact .inl rfl
  | some table =>
      dsimp only
      generalize table.compileRules rule.columns.entries = compiled
      obtain ⟨events, _ | generators⟩ := compiled
      · exact .inl rfl
      · exact .inr ⟨generators, rfl⟩

theorem getElem?_ofTable_of_ne {position : Nat} (h : tables[position]? = some table)
    (hne : table.name ≠ name) (rule : TableRule) :
    (ofTable tables name rule).tables[position]? = some table := by
  rcases tables_ofTable_cases tables name rule with heq | ⟨generators, heq⟩
  · rw [heq, h]
  · rw [heq]
    exact getElem?_updateFirst_of_neg h (by simpa using hne)

theorem find?_ofTable_of_ne (tables : List PlannedTable) (rule : TableRule) (hne : other ≠ name) :
    (ofTable tables name rule).tables.find? (·.name == other) =
      tables.find? (·.name == other) := by
  rcases tables_ofTable_cases tables name rule with heq | ⟨generators, heq⟩
  · rw [heq]
  · rw [heq]
    refine find?_updateFirst_of_disjoint (fun table htable => ?_) fun table => ?_
    · have hname : table.name = name := by simpa using htable
      simpa [hname] using hne.symm
    · rw [PlannedTable.name_attach]

/-- Rules that compile take effect on the first table of the name. -/
theorem find?_ofTable_self (hfound : tables.find? (·.name == name) = some table)
    (hok : (ofTable tables name rule).outcome = .ok ()) :
    ∃ generators, (table.compileRules rule.columns.entries).2 = .ok generators ∧
      (ofTable tables name rule).tables.find? (·.name == name) =
        some (table.attach rule.rows generators) := by
  unfold ofTable at hok ⊢
  simp only [hfound] at hok ⊢
  generalize table.compileRules rule.columns.entries = compiled at hok ⊢
  obtain ⟨events, cause | generators⟩ := compiled
  · cases hok
  · refine ⟨generators, rfl, ?_⟩
    rw [find?_updateFirst_self fun table => by rw [PlannedTable.name_attach], hfound,
      Option.map_some]

/-! ### The rules of all tables -/

theorem breaks_ofTable_iff {rules : List (String × TableRule)} (hfresh : name ∉ rules.map (·.1))
    {entry : String × TableRule} (hmem : entry ∈ rules) {column text : String} {cause : RuleError} :
    entry.2.Breaks (ofTable tables name rule).tables entry.1 column text cause ↔
      entry.2.Breaks tables entry.1 column text cause := by
  have hkey : entry.1 ∈ rules.map (·.1) := List.mem_map_of_mem hmem
  have hne : entry.1 ≠ name := by
    rintro rfl
    exact hfresh hkey
  unfold TableRule.Breaks
  rw [find?_ofTable_of_ne tables rule hne]

theorem ofTables_cons_of_ok (h : (ofTable tables name rule).outcome = .ok ())
    (rules : List (String × TableRule)) :
    (ofTables tables ((name, rule) :: rules)).outcome =
        (ofTables (ofTable tables name rule).tables rules).outcome ∧
      (ofTables tables ((name, rule) :: rules)).tables =
        (ofTables (ofTable tables name rule).tables rules).tables := by
  rw [ofTables]
  simp only [h, and_self]

theorem ofTables_cons_of_error {cause : GenerationError}
    (h : (ofTable tables name rule).outcome = .error cause) (rules : List (String × TableRule)) :
    ofTables tables ((name, rule) :: rules) = ofTable tables name rule := by
  rw [ofTables]
  simp only [h]

/-- Entries apply up to one with a broken rule, which fails at its least column that has one. -/
structure StopsAt (tables : List PlannedTable) (rules front : List (String × TableRule))
    (name : String) (rule : TableRule) (back : List (String × TableRule)) (column text : String)
    (cause : RuleError) : Prop where
  entries : rules = front ++ (name, rule) :: back
  sound : ∀ entry ∈ front, ∀ column text cause, ¬entry.2.Breaks tables entry.1 column text cause
  broken : rule.Breaks tables name column text cause
  least : ∀ column' text' cause', rule.Breaks tables name column' text' cause' → column ≤ column'
  done : (ofTables tables front).outcome = .ok ()
  outcome : (ofTables tables rules).outcome = .error (.rule name column text cause)
  kept : (ofTables tables rules).tables = (ofTables tables front).tables

theorem StopsAt.cons {rules front back : List (String × TableRule)} {last : String}
    {lastRule : TableRule} {column text : String} {cause : RuleError}
    (h : StopsAt (ofTable tables name rule).tables rules front last lastRule back column text cause)
    (hok : (ofTable tables name rule).outcome = .ok ())
    (hsound : ∀ column text cause, ¬rule.Breaks tables name column text cause)
    (hfresh : name ∉ rules.map (·.1)) :
    StopsAt tables ((name, rule) :: rules) ((name, rule) :: front) last lastRule back column text
      cause := by
  obtain ⟨houtcome, htables⟩ := ofTables_cons_of_ok hok rules
  obtain ⟨hdone, hfront⟩ := ofTables_cons_of_ok hok front
  have hlast : (last, lastRule) ∈ rules := by
    rw [h.entries]
    exact List.mem_append_right _ List.mem_cons_self
  constructor
  · rw [h.entries, List.cons_append]
  · refine List.forall_mem_cons.mpr ⟨hsound, fun entry hmem column text cause hbroken => ?_⟩
    have hentry : entry ∈ rules := by
      rw [h.entries]
      exact List.mem_append_left _ hmem
    exact h.sound entry hmem column text cause ((breaks_ofTable_iff hfresh hentry).mpr hbroken)
  · exact (breaks_ofTable_iff hfresh hlast).mp h.broken
  · intro column' text' cause' hbroken
    exact h.least column' text' cause' ((breaks_ofTable_iff hfresh hlast).mpr hbroken)
  · exact hdone.trans h.done
  · exact houtcome.trans h.outcome
  · rw [htables, hfront, h.kept]

/-- A configuration applies if it has no broken rule and else stops at the first table with one. -/
theorem ofTables_eq_ok_or_stopsAt (tables : List PlannedTable) (rules : List (String × TableRule))
    (hnames : (rules.map (·.1)).Nodup) :
    ((ofTables tables rules).outcome = .ok () ∧ ∀ entry ∈ rules, ∀ column text cause,
      ¬entry.2.Breaks tables entry.1 column text cause) ∨
    ∃ front name rule back column text cause,
      StopsAt tables rules front name rule back column text cause := by
  -- Names differ, so a rule is broken before an entry takes effect exactly if it is so after that.
  induction rules generalizing tables with
  | nil => exact .inl ⟨rfl, by simp⟩
  | cons entry rules ih =>
      obtain ⟨name, rule⟩ := entry
      rw [List.map_cons, List.nodup_cons] at hnames
      obtain ⟨hfresh, hnames⟩ := hnames
      rcases ofTable_eq_ok_or_error tables name rule with
        ⟨hok, hsound⟩ | ⟨column, text, cause, hbroken, hleast, herror, hkept⟩
      · rcases ih (ofTable tables name rule).tables hnames with
          ⟨hrest, hnone⟩ | ⟨front, last, lastRule, back, column, text, cause, hstops⟩
        · refine .inl ⟨(ofTables_cons_of_ok hok rules).1.trans hrest,
            List.forall_mem_cons.mpr ⟨hsound, ?_⟩⟩
          intro entry hmem column text cause hbroken
          exact hnone entry hmem column text cause ((breaks_ofTable_iff hfresh hmem).mpr hbroken)
        · exact .inr ⟨_, _, _, _, _, _, _, hstops.cons hok hsound hfresh⟩
      · -- The entries behind are not looked at.
        have hstopped := ofTables_cons_of_error herror rules
        exact .inr ⟨[], name, rule, rules, column, text, cause, rfl, by simp, hbroken, hleast, rfl,
          by rw [hstopped, herror], by rw [hstopped, hkept]; rfl⟩

/-- Tables that no entry names stay as they are. -/
theorem getElem?_ofTables_of_notMem {rules : List (String × TableRule)} {position : Nat}
    (h : tables[position]? = some table) (hfresh : table.name ∉ rules.map (·.1)) :
    (ofTables tables rules).tables[position]? = some table := by
  induction rules generalizing tables with
  | nil => exact h
  | cons entry rules ih =>
      obtain ⟨name, rule⟩ := entry
      rw [List.map_cons, List.mem_cons, not_or] at hfresh
      have hfirst := getElem?_ofTable_of_ne h hfresh.1 rule
      cases houtcome : (ofTable tables name rule).outcome with
      | error cause => rwa [ofTables_cons_of_error houtcome]
      | ok =>
          rw [(ofTables_cons_of_ok houtcome rules).2]
          exact ih hfirst hfresh.2

theorem find?_ofTables_of_notMem {rules : List (String × TableRule)} (tables : List PlannedTable)
    (hfresh : name ∉ rules.map (·.1)) :
    (ofTables tables rules).tables.find? (·.name == name) = tables.find? (·.name == name) := by
  induction rules generalizing tables with
  | nil => rfl
  | cons entry rules ih =>
      obtain ⟨first, rule⟩ := entry
      rw [List.map_cons, List.mem_cons, not_or] at hfresh
      have hfirst := find?_ofTable_of_ne tables rule hfresh.1
      cases houtcome : (ofTable tables first rule).outcome with
      | error cause => rw [ofTables_cons_of_error houtcome, hfirst]
      | ok => rw [(ofTables_cons_of_ok houtcome rules).2, ih _ hfresh.2, hfirst]

/-- Where all rules compile, each entry takes effect on the first table of its name. -/
theorem find?_ofTables_of_mem {rules : List (String × TableRule)} (hnames : (rules.map (·.1)).Nodup)
    (hok : (ofTables tables rules).outcome = .ok ()) (hmem : (name, rule) ∈ rules)
    (hfound : tables.find? (·.name == name) = some table) :
    ∃ generators, (table.compileRules rule.columns.entries).2 = .ok generators ∧
      (ofTables tables rules).tables.find? (·.name == name) =
        some (table.attach rule.rows generators) := by
  induction rules generalizing tables with
  | nil => cases hmem
  | cons entry rules ih =>
      obtain ⟨first, firstRule⟩ := entry
      rw [List.map_cons, List.nodup_cons] at hnames
      obtain ⟨hfresh, hnames⟩ := hnames
      cases houtcome : (ofTable tables first firstRule).outcome with
      | error cause =>
          rw [ofTables_cons_of_error houtcome, houtcome] at hok
          cases hok
      | ok =>
          obtain ⟨hoks, htables⟩ := ofTables_cons_of_ok houtcome rules
          rw [htables]
          rcases List.mem_cons.mp hmem with heq | hmem
          · obtain ⟨rfl, rfl⟩ := Prod.mk.inj heq
            rw [find?_ofTables_of_notMem _ hfresh]
            exact find?_ofTable_self hfound houtcome
          · have hkey : name ∈ rules.map (·.1) := List.mem_map_of_mem hmem
            have hne : name ≠ first := fun heq => hfresh (heq ▸ hkey)
            exact ih hnames (hoks.symm.trans hok) hmem
              ((find?_ofTable_of_ne tables firstRule hne).trans hfound)

end AppliedRules

/-! ### Configurations -/

variable {tables : List PlannedTable} {config : RulesConfig} {table : PlannedTable} {name : String}
  {rule : TableRule}

theorem RulesConfig.nodup_names (config : RulesConfig) :
    (config.tables.entries.map (·.1)).Nodup :=
  config.tables.ascending.imp Std.ne_of_lt

/-- A configuration that applies does so to the first table of each of its names. -/
theorem find?_applyRules_of_table?_eq_some (hok : (applyRules tables config).outcome = .ok ())
    (hrule : config.table? name = some rule)
    (hfound : tables.find? (·.name == name) = some table) :
    ∃ generators, (table.compileRules rule.columns.entries).2 = .ok generators ∧
      (applyRules tables config).tables.find? (·.name == name) =
        some (table.attach rule.rows generators) :=
  AppliedRules.find?_ofTables_of_mem config.nodup_names hok
    (NameMap.get?_eq_some_iff_mem.mp hrule) hfound

theorem getElem?_applyRules_of_table?_eq_none {position : Nat}
    (hposition : tables[position]? = some table) (hnone : config.table? table.name = none) :
    (applyRules tables config).tables[position]? = some table := by
  refine AppliedRules.getElem?_ofTables_of_notMem hposition fun hmem => ?_
  obtain ⟨⟨name, rule⟩, hentry, rfl⟩ := List.mem_map.mp hmem
  have hsome := NameMap.get?_eq_some_iff_mem.mpr hentry
  exact Option.some_ne_none rule (hsome.symm.trans hnone)

/-- A rule of a configuration, on a column of the first table of its name, that does not compile. -/
def BrokenRule (tables : List PlannedTable) (config : RulesConfig) (name column text : String)
    (cause : RuleError) : Prop :=
  ∃ rule, config.table? name = some rule ∧ rule.Breaks tables name column text cause

theorem brokenRule_iff {column text : String} {cause : RuleError} :
    BrokenRule tables config name column text cause ↔
      ∃ rule, (name, rule) ∈ config.tables.entries ∧
        rule.Breaks tables name column text cause := by
  simp only [BrokenRule, RulesConfig.table?, NameMap.get?_eq_some_iff_mem]

theorem AppliedRules.StopsAt.least_brokenRule {front back : List (String × TableRule)}
    {column text : String} {cause : RuleError}
    (h : StopsAt tables config.tables.entries front name rule back column text cause)
    {name' column' text' : String} {cause' : RuleError}
    (hbroken : BrokenRule tables config name' column' text' cause') :
    name < name' ∨ name = name' ∧ column ≤ column' := by
  obtain ⟨rule', hmem, hbreaks⟩ := brokenRule_iff.mp hbroken
  rcases NameMap.mem_entries_cases h.entries hmem with hfront | heq | hlt
  · exact absurd hbreaks (h.sound _ hfront column' text' cause')
  · obtain ⟨rfl, rfl⟩ := Prod.mk.inj heq
    exact .inr ⟨rfl, h.least column' text' cause' hbreaks⟩
  · exact .inl hlt

/-- **Rules are applied table by table.** A configuration applies exactly if it has no broken rule.
If it does not, the error is for the least table with a broken rule and the least column of that
table, in the order of their bytes, and the tables are those that the part of the configuration
below that table leaves, which applies: each table that the part is for has its rules, and all
others are as they were. -/
theorem applyRules_fails_at_least_broken_rule (tables : List PlannedTable) (config : RulesConfig) :
    ((applyRules tables config).outcome = .ok () ↔
      ¬∃ name column text cause, BrokenRule tables config name column text cause) ∧
    ∀ error, (applyRules tables config).outcome = .error error →
      ∃ name column text cause, error = .rule name column text cause ∧
        BrokenRule tables config name column text cause ∧
        (∀ name' column' text' cause', BrokenRule tables config name' column' text' cause' →
          Text.bytes name < Text.bytes name' ∨
            name = name' ∧ Text.bytes column ≤ Text.bytes column') ∧
        (applyRules tables (config.below name)).outcome = .ok () ∧
        (applyRules tables config).tables = (applyRules tables (config.below name)).tables ∧
        (∀ earlier rule table, earlier < name → config.table? earlier = some rule →
          tables.find? (·.name == earlier) = some table →
            ∃ generators, (table.compileRules rule.columns.entries).2 = .ok generators ∧
              (applyRules tables config).tables.find? (·.name == earlier) =
                some (table.attach rule.rows generators)) ∧
        ∀ (position : Nat) table, tables[position]? = some table → ¬table.name < name →
          (applyRules tables config).tables[position]? = some table := by
  rcases AppliedRules.ofTables_eq_ok_or_stopsAt tables config.tables.entries config.nodup_names with
    ⟨hok, hnone⟩ | ⟨front, name, rule, back, column, text, cause, hstops⟩
  · refine ⟨⟨fun _ => ?_, fun _ => hok⟩, fun error herror => ?_⟩
    · rintro ⟨name, column, text, cause, hbroken⟩
      obtain ⟨rule, hmem, hbreaks⟩ := brokenRule_iff.mp hbroken
      exact hnone _ hmem column text cause hbreaks
    · cases hok.symm.trans herror
  · have hmem : (name, rule) ∈ config.tables.entries := by
      rw [hstops.entries]
      exact List.mem_append_right _ List.mem_cons_self
    have hbroken : BrokenRule tables config name column text cause :=
      brokenRule_iff.mpr ⟨rule, hmem, hstops.broken⟩
    have happlied : applyRules tables (config.below name) = .ofTables tables front :=
      congrArg _ (NameMap.entries_below_of_append hstops.entries)
    have hdone : (applyRules tables (config.below name)).outcome = .ok () := by
      rw [happlied, hstops.done]
    have hkept : (applyRules tables config).tables =
        (applyRules tables (config.below name)).tables := by
      rw [happlied]
      exact hstops.kept
    refine ⟨⟨fun hok => ?_, fun hnone => ?_⟩, fun error hfailed => ?_⟩
    · cases hok.symm.trans hstops.outcome
    · exact absurd ⟨name, column, text, cause, hbroken⟩ hnone
    obtain rfl := Except.error.inj (hfailed.symm.trans hstops.outcome)
    refine ⟨name, column, text, cause, rfl, hbroken, fun name' column' text' cause' hbroken' => ?_,
      hdone, hkept, fun earlier rule table hlt hrule hfound => ?_,
      fun position table hposition hge => ?_⟩
    · exact (hstops.least_brokenRule hbroken').imp Text.lt_iff_bytes_lt.mp
        (And.imp_right Text.le_iff_bytes_le.mp)
    · rw [hkept]
      refine find?_applyRules_of_table?_eq_some hdone ?_ hfound
      exact (NameMap.get?_below_of_lt hlt).trans hrule
    · rw [hkept]
      exact getElem?_applyRules_of_table?_eq_none hposition (NameMap.get?_below_of_not_lt hge)

/-- Two tables have a broken rule, and the first of them has two. The table before them gets its
rows and its generator, a rule for a column that no table has is passed over. -/
theorem applyRules_fails_at_least_broken_rule_of_orders :
    let column (name : String) : Column :=
      ⟨name, "integer", .plain .integer, false, none, false⟩
    let table (name : String) : PlannedTable :=
      .ofTable ⟨name, [column "id", column "code"], ["id"], []⟩
    let tables := [table "users", table "orders", table "addresses"]
    let config : RulesConfig :=
      { tables := .ofList
          [("users", ⟨4, .ofList [("code", "int(")]⟩),
            ("orders", ⟨3, .ofList [("id", "nothing"), ("code", "int(0)"), ("absent", "nothing")]⟩),
            ("ghosts", ⟨7, .ofList [("code", "nothing")]⟩),
            ("addresses", ⟨2, .ofList [("code", "constant[7]")]⟩)] }
    let cause : RuleError := .malformed "int(0)" (.boundNotPositive 0)
    let filled := (table "addresses").attach 2 [("code", .constant "7")]
    (applyRules tables config).outcome = .error (.rule "orders" "code" "int(0)" cause) ∧
      BrokenRule tables config "orders" "code" "int(0)" cause ∧
      (applyRules tables (config.below "orders")).outcome = .ok () ∧
      (applyRules tables config).tables = [table "users", table "orders", filled] ∧
      (applyRules tables (config.below "orders")).tables =
        [table "users", table "orders", filled] := by
  intro column table tables config cause filled
  have houtcome : (applyRules tables config).outcome =
      .error (.rule "orders" "code" "int(0)" cause) := by decide +kernel
  have htables : (applyRules tables config).tables = [table "users", table "orders", filled] := by
    rfl
  obtain ⟨name, column, text, cause', herror, hbroken, _, hbelow, hsame, _⟩ :=
    (applyRules_fails_at_least_broken_rule tables config).2 _ houtcome
  obtain ⟨rfl, rfl, rfl, rfl⟩ := GenerationError.rule.inj herror
  exact ⟨houtcome, hbroken, hbelow, htables, hsame.symm.trans htables⟩

end SyntheticRows
