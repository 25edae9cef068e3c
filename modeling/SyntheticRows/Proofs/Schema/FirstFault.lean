import SyntheticRows.Proofs.Schema.Validation
/-!
# Validation reports the first fault

Each fault of a schema has a place: the numbers of the table, of the kind of check, of the column or
key and, for a column, of the check. Places are compared like words in a dictionary, so tables come
in their order, and within a table its name, its columns one by one and its key. Checks that are made
one after the other report a fault at the least place.
-/

namespace SyntheticRows

/-! ### Checks made in turn -/

section InTurn

variable {ε α : Type}

/-- A check passes if there is no fault at any place, and else reports one at the least place. -/
structure ReportsFirst (outcome : Except ε Unit) (faultAt : List Nat → ε → Prop) : Prop where
  ok : outcome = .ok () → ∀ place fault, ¬faultAt place fault
  error : ∀ fault, outcome = .error fault →
    ∃ place, faultAt place fault ∧ ∀ other fault', faultAt other fault' → place.le other

/-- The faults of a part, which is the one with a number. -/
def FaultBehind (number : Nat) (faultAt : List Nat → ε → Prop) (place : List Nat) (fault : ε) :
    Prop :=
  ∃ rest, place = number :: rest ∧ faultAt rest fault

theorem FaultBehind.le_of_lt {number number' : Nat} {faultAt faultAt' : List Nat → ε → Prop}
    {place place' : List Nat} {fault fault' : ε} (h : FaultBehind number faultAt place fault)
    (h' : FaultBehind number' faultAt' place' fault') (hlt : number < number') :
    place.le place' := by
  obtain ⟨rest, rfl, -⟩ := h
  obtain ⟨rest', rfl, -⟩ := h'
  exact List.cons_le_cons_iff.mpr (.inl hlt)

def refuse (condition : Prop) [Decidable condition] (fault : ε) : Except ε Unit :=
  if condition then .error fault else .ok ()

/-- Checks items in their order; each check is given the items in front. -/
def checkInTurn (check : List α → α → Except ε Unit) : (front : List α) → List α → Except ε Unit
  | _, [] => .ok ()
  | front, item :: items => do
      check front item
      checkInTurn check (front ++ [item]) items

namespace ReportsFirst

variable {outcome outcome' : Except ε Unit} {faultAt faultAt' : List Nat → ε → Prop}

theorem congr (h : ReportsFirst outcome faultAt)
    (hsame : ∀ place fault, faultAt place fault ↔ faultAt' place fault) :
    ReportsFirst outcome faultAt' := by
  have hfaults : faultAt = faultAt' := by
    funext place fault
    exact propext (hsame place fault)
  exact hfaults ▸ h

theorem of_refuse (condition : Prop) [Decidable condition] (fault : ε) :
    ReportsFirst (refuse condition fault)
      (fun place fault' => place = [] ∧ condition ∧ fault' = fault) := by
  unfold refuse
  split
  next h =>
    constructor
    · intro hok
      cases hok
    · intro fault' herror
      obtain rfl := Except.error.inj herror
      exact ⟨[], ⟨rfl, h, rfl⟩, fun other _ _ => List.nil_le other⟩
  next h =>
    constructor
    · rintro - place fault' ⟨-, hcondition, -⟩
      exact h hcondition
    · intro fault' herror
      cases herror

theorem behind (h : ReportsFirst outcome faultAt) (number : Nat) :
    ReportsFirst outcome (FaultBehind number faultAt) := by
  refine ⟨fun hok => ?_, fun fault herror => ?_⟩
  · rintro _ fault ⟨rest, rfl, hfault⟩
    exact h.ok hok rest fault hfault
  · obtain ⟨place, hfault, hleast⟩ := h.error fault herror
    refine ⟨number :: place, ⟨place, rfl, hfault⟩, ?_⟩
    rintro _ fault' ⟨rest, rfl, hother⟩
    exact List.cons_le_cons_iff.mpr (.inr ⟨rfl, hleast rest fault' hother⟩)

/-- A check whose places come first is made first. -/
theorem bind (h : ReportsFirst outcome faultAt) (h' : ReportsFirst outcome' faultAt')
    (hle : ∀ place fault place' fault', faultAt place fault → faultAt' place' fault' →
      place.le place') :
    ReportsFirst (outcome >>= fun _ => outcome')
      (fun place fault => faultAt place fault ∨ faultAt' place fault) := by
  cases houtcome : outcome with
  | error cause =>
      constructor
      · intro hok
        cases hok
      · intro fault herror
        obtain rfl := Except.error.inj herror
        obtain ⟨place, hfault, hleast⟩ := h.error cause houtcome
        refine ⟨place, .inl hfault, ?_⟩
        rintro other fault' (hother | hother)
        · exact hleast other fault' hother
        · exact hle place cause other fault' hfault hother
  | ok =>
      have hnone := h.ok houtcome
      exact h'.congr fun place fault => ⟨.inr, fun hfault =>
        hfault.resolve_left (hnone place fault)⟩

/-- Where the check of each item reports its first fault, the checks in turn report the first fault
of the first item that has one. -/
theorem of_checkInTurn {check : List α → α → Except ε Unit}
    {faultsOf : List α → α → List Nat → ε → Prop}
    (h : ∀ front item, ReportsFirst (check front item) (faultsOf front item))
    (front items : List α) :
    ReportsFirst (checkInTurn check front items)
      (fun place fault => ∃ i item, items[i]? = some item ∧
        FaultBehind (i + front.length) (faultsOf (front ++ items.take i) item) place fault) := by
  induction items generalizing front with
  | nil =>
      constructor
      · simp
      · intro fault herror
        cases herror
  | cons item items ih =>
      have hlength : ∀ i, i + (front ++ [item]).length = i + 1 + front.length := by
        intro i
        rw [List.length_append, List.length_singleton]
        omega
      have hfront : ∀ i, front ++ [item] ++ items.take i = front ++ (item :: items).take (i + 1) := by
        simp
      have hitems := ih (front ++ [item])
      simp only [hlength, hfront] at hitems
      refine (((h front item).behind front.length).bind hitems ?_).congr fun place fault => ⟨?_, ?_⟩
      -- The places of the first item come in front of those of all later ones.
      · rintro place fault place' fault' hfirst ⟨i, other, -, hlater⟩
        exact hfirst.le_of_lt hlater (by omega)
      · rintro (hfault | ⟨i, other, hother, hfault⟩)
        · exact ⟨0, item, rfl, by simpa using hfault⟩
        · exact ⟨i + 1, other, hother, hfault⟩
      · rintro ⟨i, other, hother, hfault⟩
        cases i with
        | zero =>
            obtain rfl := Option.some.inj hother
            exact .inl (by simpa using hfault)
        | succ i => exact .inr ⟨i, other, hother, hfault⟩

theorem eq_error_iff (h : ReportsFirst outcome faultAt)
    (hunique : ∀ place fault fault', faultAt place fault → faultAt place fault' → fault = fault')
    {fault : ε} :
    outcome = .error fault ↔
      ∃ place, faultAt place fault ∧ ∀ other fault', faultAt other fault' → place.le other := by
  refine ⟨h.error fault, ?_⟩
  rintro ⟨place, hfault, hleast⟩
  cases houtcome : outcome with
  | ok => exact absurd hfault (h.ok houtcome place fault)
  | error fault' =>
      obtain ⟨place', hfault', hleast'⟩ := h.error fault' houtcome
      obtain rfl : place = place' :=
        List.le_antisymm (hleast place' fault' hfault') (hleast' place fault hfault)
      rw [hunique place fault fault' hfault hfault']

end ReportsFirst

end InTurn

/-! ### The faults of a schema -/

/-- The faults of a table behind tables of some names: its name is one of those, a column repeats
the name of a column before it or has a reference without being a foreign key, a part of the key is
no column. -/
inductive Table.FaultAt (namespaceName : String) (earlier : List String) (table : Table) :
    List Nat → SchemaFault → Prop
  | name (h : table.name ∈ earlier) :
      FaultAt namespaceName earlier table [0] (.duplicateTable namespaceName table.name)
  | column {i : Nat} {column : Column} (hcolumn : table.columns[i]? = some column)
      (h : column.name ∈ (table.columns.take i).map (·.name)) :
      FaultAt namespaceName earlier table [1, i, 0]
        (.duplicateColumn namespaceName table.name column.name)
  | reference {i : Nat} {column : Column} (hcolumn : table.columns[i]? = some column)
      (hflag : column.isForeignKey = false) (h : column.references ≠ none) :
      FaultAt namespaceName earlier table [1, i, 1]
        (.strayReference namespaceName table.name column.name)
  | key {i : Nat} {key : String} (hkey : table.primaryKey[i]? = some key)
      (h : ∀ column ∈ table.columns, column.name ≠ key) :
      FaultAt namespaceName earlier table [2, i] (.missingKeyColumn namespaceName table.name key)

/-- The faults of a schema are those of its tables, each behind the tables in front of it. -/
inductive Schema.FaultAt (schema : Schema) : List Nat → SchemaFault → Prop
  | table {i : Nat} {table : Table} {place : List Nat} {fault : SchemaFault}
      (htable : schema.tables[i]? = some table)
      (h : table.FaultAt schema.namespaceName ((schema.tables.take i).map (·.name)) place fault) :
      FaultAt schema (i :: place) fault

theorem Table.FaultAt.unique {namespaceName : String} {earlier : List String} {table : Table}
    {place : List Nat} {fault fault' : SchemaFault}
    (h : table.FaultAt namespaceName earlier place fault)
    (h' : table.FaultAt namespaceName earlier place fault') : fault = fault' := by
  cases h <;> cases h' <;> simp_all

theorem Schema.FaultAt.unique {schema : Schema} {place : List Nat} {fault fault' : SchemaFault}
    (h : schema.FaultAt place fault) (h' : schema.FaultAt place fault') : fault = fault' := by
  obtain ⟨htable, hfault⟩ := h
  obtain ⟨htable', hfault'⟩ := h'
  obtain rfl := Option.some.inj (htable.symm.trans htable')
  exact hfault.unique hfault'

namespace Schema

variable {namespaceName : String}

/-! ### The checks of a schema in turn -/

def checkColumn (namespaceName table : String) (front : List Column) (column : Column) :
    Except SchemaFault Unit := do
  refuse (column.name ∈ front.map (·.name)) (.duplicateColumn namespaceName table column.name)
  refuse (column.isForeignKey = false ∧ column.references ≠ none)
    (.strayReference namespaceName table column.name)

theorem checkColumns_eq_checkInTurn {table : String} {seen : List String} {front : List Column}
    (hseen : ∀ name, name ∈ seen ↔ name ∈ front.map (·.name)) (columns : List Column) :
    checkColumns namespaceName table seen columns =
      checkInTurn (checkColumn namespaceName table) front columns := by
  induction columns generalizing seen front with
  | nil => rfl
  | cons column columns ih =>
      have hgrown : ∀ name, name ∈ column.name :: seen ↔
          name ∈ (front ++ [column]).map (·.name) := by
        intro name
        simp [hseen, or_comm]
      have hname : seen.contains column.name = true ↔ column.name ∈ front.map (·.name) := by
        rw [List.contains_iff_mem, hseen]
      have hstray : (!column.isForeignKey && column.references.isSome) = true ↔
          column.isForeignKey = false ∧ column.references ≠ none := by
        rw [Bool.and_eq_true, Bool.not_eq_true', Option.isSome_iff_ne_none]
      rw [checkColumns, checkInTurn, ih hgrown, checkColumn, refuse, refuse]
      simp only [hname, hstray]
      split
      · rfl
      · split <;> rfl

def checkKey (namespaceName : String) (table : Table) (key : String) : Except SchemaFault Unit :=
  refuse (∀ column ∈ table.columns, column.name ≠ key)
    (.missingKeyColumn namespaceName table.name key)

theorem checkKeys_eq_checkInTurn (table : Table) (front keys : List String) :
    checkKeys namespaceName table keys =
      checkInTurn (fun _ => checkKey namespaceName table) front keys := by
  induction keys generalizing front with
  | nil => rfl
  | cons key keys ih =>
      have hknown : table.columns.any (·.name == key) = true ↔
          ¬∀ column ∈ table.columns, column.name ≠ key := by
        simp
      rw [checkKeys, checkInTurn, ih (front ++ [key]), checkKey, refuse]
      simp only [hknown, ite_not]
      split <;> rfl

def checkTable (namespaceName : String) (front : List Table) (table : Table) :
    Except SchemaFault Unit := do
  refuse (table.name ∈ front.map (·.name)) (.duplicateTable namespaceName table.name)
  checkColumns namespaceName table.name [] table.columns
  checkKeys namespaceName table table.primaryKey

theorem checkTables_eq_checkInTurn {seen : List String} {front : List Table}
    (hseen : ∀ name, name ∈ seen ↔ name ∈ front.map (·.name)) (tables : List Table) :
    checkTables namespaceName seen tables =
      checkInTurn (checkTable namespaceName) front tables := by
  induction tables generalizing seen front with
  | nil => rfl
  | cons table tables ih =>
      have hgrown : ∀ name, name ∈ table.name :: seen ↔
          name ∈ (front ++ [table]).map (·.name) := by
        intro name
        simp [hseen, or_comm]
      have hname : seen.contains table.name = true ↔ table.name ∈ front.map (·.name) := by
        rw [List.contains_iff_mem, hseen]
      rw [checkTables, checkInTurn, ih hgrown, checkTable, refuse]
      simp only [hname]
      split
      · rfl
      · simp only [bind_assoc]
        rfl

/-! ### What they report -/

theorem reportsFirst_checkColumn (namespaceName table : String) (front : List Column) (column : Column) :
    ReportsFirst (checkColumn namespaceName table front column) (fun place fault =>
      FaultBehind 0 (fun place fault => place = [] ∧ column.name ∈ front.map (·.name) ∧
        fault = .duplicateColumn namespaceName table column.name) place fault ∨
      FaultBehind 1 (fun place fault => place = [] ∧
        (column.isForeignKey = false ∧ column.references ≠ none) ∧
        fault = .strayReference namespaceName table column.name) place fault) :=
  ((ReportsFirst.of_refuse _ _).behind 0).bind ((ReportsFirst.of_refuse _ _).behind 1)
    fun _ _ _ _ h h' => h.le_of_lt h' Nat.zero_lt_one

theorem reportsFirst_checkKey (namespaceName : String) (table : Table) (key : String) :
    ReportsFirst (checkKey namespaceName table key) (fun place fault => place = [] ∧
      (∀ column ∈ table.columns, column.name ≠ key) ∧
      fault = .missingKeyColumn namespaceName table.name key) :=
  .of_refuse _ _

/-- A table is checked for the first of its faults. -/
theorem reportsFirst_checkTable (namespaceName : String) (front : List Table) (table : Table) :
    ReportsFirst (checkTable namespaceName front table)
      (table.FaultAt namespaceName (front.map (·.name))) := by
  have hname := (ReportsFirst.of_refuse (table.name ∈ front.map (·.name))
    (SchemaFault.duplicateTable namespaceName table.name)).behind 0
  have hcolumns := (ReportsFirst.of_checkInTurn
    (reportsFirst_checkColumn namespaceName table.name) [] table.columns).behind 1
  have hkeys := (ReportsFirst.of_checkInTurn
    (fun _ => reportsFirst_checkKey namespaceName table) [] table.primaryKey).behind 2
  have hseen : ∀ name, name ∈ ([] : List String) ↔ name ∈ ([] : List Column).map (·.name) := by
    simp
  rw [checkTable, checkColumns_eq_checkInTurn hseen, checkKeys_eq_checkInTurn table []]
  refine (hname.bind (hcolumns.bind hkeys ?_) ?_).congr fun place fault => ⟨?_, ?_⟩
  · exact fun _ _ _ _ h h' => h.le_of_lt h' Nat.one_lt_two
  · rintro _ _ _ _ h (h' | h')
    · exact h.le_of_lt h' Nat.zero_lt_one
    · exact h.le_of_lt h' Nat.zero_lt_two
  · rintro (⟨_, rfl, rfl, h, rfl⟩ | ⟨_, rfl, i, column, hcolumn, _, rfl, hfault⟩ |
      ⟨_, rfl, i, key, hkey, _, rfl, rfl, h, rfl⟩)
    · exact .name h
    · rcases hfault with ⟨_, rfl, rfl, h, rfl⟩ | ⟨_, rfl, rfl, ⟨hflag, h⟩, rfl⟩
      · exact .column hcolumn h
      · exact .reference hcolumn hflag h
    · exact .key hkey h
  · intro hfault
    cases hfault with
    | name h => exact .inl ⟨_, rfl, rfl, h, rfl⟩
    | column hcolumn h =>
        exact .inr (.inl ⟨_, rfl, _, _, hcolumn, _, rfl, .inl ⟨_, rfl, rfl, h, rfl⟩⟩)
    | reference hcolumn hflag h =>
        exact .inr (.inl ⟨_, rfl, _, _, hcolumn, _, rfl, .inr ⟨_, rfl, rfl, ⟨hflag, h⟩, rfl⟩⟩)
    | key hkey h => exact .inr (.inr ⟨_, rfl, _, _, hkey, _, rfl, rfl, h, rfl⟩)

theorem reportsFirst_validate (schema : Schema) :
    ReportsFirst schema.validate schema.FaultAt := by
  have htables := ReportsFirst.of_checkInTurn
    (reportsFirst_checkTable schema.namespaceName) [] schema.tables
  have hseen : ∀ name, name ∈ ([] : List String) ↔ name ∈ ([] : List Table).map (·.name) := by
    simp
  rw [validate, checkTables_eq_checkInTurn hseen]
  refine htables.congr fun place fault => ⟨?_, ?_⟩
  · rintro ⟨i, table, htable, place, rfl, hfault⟩
    exact .table htable hfault
  · rintro ⟨htable, hfault⟩
    exact ⟨_, _, htable, _, rfl, hfault⟩

/-- **Validation accepts the consistent schemas and reports the first fault of all others.** The
fault is the one at the least place. -/
theorem validate_reports_first_fault (schema : Schema) :
    (schema.validate = .ok () ↔ schema.Consistent) ∧
      ∀ fault, schema.validate = .error fault ↔
        ∃ place, schema.FaultAt place fault ∧
          ∀ other fault', schema.FaultAt other fault' → place.le other :=
  ⟨schema.validate_eq_ok_iff, fun _ =>
    schema.reportsFirst_validate.eq_error_iff fun _ _ _ h h' => h.unique h'⟩

end Schema

end SyntheticRows
