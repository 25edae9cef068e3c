import SyntheticRows.Proofs.ColumnType.Harmless
import SyntheticRows.Proofs.Sql.FullName
/-!
# Reading statements back

A statement is read from the left: fixed words, names in quotes, and the numbered parameters of an
insert. The reader knows nothing of the names but that a quote which stands alone closes them, and it
accepts the text of a statement and no other. So whatever characters names hold, a statement tells
its table and its columns. A parameter is cast to a type up to the next dollar sign, which no
accepted type has.
-/

namespace SyntheticRows

open Text

namespace Sql

variable {text rest : List Char} {names : List (List Char)} {columns : List ColumnBinding}

/-! ### Names in a list -/

/-- Reads names in quotes with commas between them, and what follows the last one. -/
def quotedNames? (text : List Char) : Option (List (List Char) × List Char) :=
  match _hname : quotedName? text with
  | none => none
  | some (name, rest) =>
      match _hmore : after? [',', ' '] rest with
      | none => some ([name], rest)
      | some more => (quotedNames? more).map fun (names, rest) => (name :: names, rest)
termination_by text.length
decreasing_by
  obtain ⟨rfl, -⟩ := quotedName?_eq_some_iff.mp _hname
  obtain rfl := after?_eq_some_iff.mp _hmore
  simp only [List.length_append, List.length_cons]
  omega

theorem quotedNames?_joinWith (hnames : names ≠ []) (hquote : rest.head? ≠ some '"')
    (hcomma : after? [',', ' '] rest = none) :
    quotedNames? (joinWith [',', ' '] (names.map inQuotes) ++ rest) = some (names, rest) := by
  induction names with
  | nil => exact absurd rfl hnames
  | cons name names ih =>
      cases names with
      | nil =>
          have hname : quotedName? (inQuotes name ++ rest) = some (name, rest) :=
            quotedName?_eq_some_iff.mpr ⟨rfl, hquote⟩
          rw [List.map_singleton, joinWith_singleton, quotedNames?, hname]
          dsimp only
          rw [hcomma]
      | cons next names =>
          have hmore := ih (List.cons_ne_nil _ _)
          generalize htail : joinWith [',', ' '] ((next :: names).map inQuotes) ++ rest = tail
            at hmore
          have hname : quotedName? (inQuotes name ++ ([',', ' '] ++ tail)) =
              some (name, [',', ' '] ++ tail) :=
            quotedName?_eq_some_iff.mpr ⟨rfl, by simp⟩
          have hafter : after? [',', ' '] ([',', ' '] ++ tail) = some tail :=
            after?_eq_some_iff.mpr rfl
          rw [List.map_cons, List.map_cons, joinWith_cons_cons, ← List.map_cons, List.append_assoc,
            List.append_assoc, htail, quotedNames?, hname]
          dsimp only
          rw [hafter]
          dsimp only
          rw [hmore]
          rfl

theorem eq_of_quotedNames?_eq_some (h : quotedNames? text = some (names, rest)) :
    names ≠ [] ∧ text = joinWith [',', ' '] (names.map inQuotes) ++ rest ∧
      rest.head? ≠ some '"' ∧ after? [',', ' '] rest = none := by
  fun_induction quotedNames? text generalizing names with
  | case1 => cases h
  | case2 text name after hname hmore =>
      obtain ⟨rfl, rfl⟩ := Prod.mk.inj (Option.some.inj h)
      obtain ⟨rfl, hquote⟩ := quotedName?_eq_some_iff.mp hname
      refine ⟨List.cons_ne_nil _ _, ?_, hquote, hmore⟩
      rw [List.map_singleton, joinWith_singleton]
  | case3 text name after hname more hmore ih =>
      obtain ⟨⟨following, final⟩, hfollowing, heq⟩ := Option.map_eq_some_iff.mp h
      obtain ⟨rfl, rfl⟩ := Prod.mk.inj heq
      obtain ⟨hne, rfl, hquote, hcomma⟩ := ih hfollowing
      obtain ⟨rfl, -⟩ := quotedName?_eq_some_iff.mp hname
      obtain rfl := after?_eq_some_iff.mp hmore
      obtain ⟨next, following, rfl⟩ := List.exists_cons_of_ne_nil hne
      refine ⟨List.cons_ne_nil _ _, ?_, hquote, hcomma⟩
      rw [List.map_cons, List.map_cons, List.map_cons, joinWith_cons_cons, List.append_assoc,
        List.append_assoc]

theorem quotedNames?_eq_some_iff :
    quotedNames? text = some (names, rest) ↔
      names ≠ [] ∧ text = joinWith [',', ' '] (names.map inQuotes) ++ rest ∧
        rest.head? ≠ some '"' ∧ after? [',', ' '] rest = none := by
  refine ⟨eq_of_quotedNames?_eq_some, ?_⟩
  rintro ⟨hnames, rfl, hquote, hcomma⟩
  exact quotedNames?_joinWith hnames hquote hcomma

/-! ### Numbered parameters -/

def parameterMark (number : Nat) : List Char :=
  '$' :: decimal number ++ [':', ':']

/-- Reads the parameters of columns with given names, the first of which has the given number. -/
def bindings? (number : Nat) : List (List Char) → List Char → Option (List ColumnBinding)
  | [], _ => none
  | [name], text => do
      let type ← after? (parameterMark number) text
      if '$' ∈ type then none else some [⟨String.ofList name, String.ofList type⟩]
  | name :: names, text => do
      let text ← after? (parameterMark number) text
      -- A type may hold commas, so a parameter reaches up to the next dollar sign.
      let (front, back) ← cutFirst '$' text
      let type ← before? [',', ' '] front
      let columns ← bindings? (number + 1) names ('$' :: back)
      some (⟨String.ofList name, String.ofList type⟩ :: columns)

def NoDollar (columns : List ColumnBinding) : Prop :=
  ∀ column ∈ columns, '$' ∉ column.sqlType.toList

theorem placeholder_eq (number : Nat) (type : String) :
    placeholder number type = parameterMark number ++ type.toList := by
  simp [placeholder, parameterMark]

theorem exists_joinWith_placeholders (number : Nat) (hcolumns : columns ≠ []) :
    ∃ back, joinWith [',', ' '] (placeholders number columns) = '$' :: back := by
  cases columns with
  | nil => exact absurd rfl hcolumns
  | cons column columns =>
      cases columns with
      | nil => exact ⟨_, joinWith_singleton _ _⟩
      | cons next columns => exact ⟨_, joinWith_cons_cons _ _ _ _⟩

theorem bindings?_joinWith {number : Nat} (hcolumns : columns ≠ []) (hdollar : NoDollar columns) :
    bindings? number (columns.map (·.name.toList))
      (joinWith [',', ' '] (placeholders number columns)) = some columns := by
  induction columns generalizing number with
  | nil => exact absurd rfl hcolumns
  | cons column columns ih =>
      obtain ⟨hcolumn, hothers⟩ := List.forall_mem_cons.mp hdollar
      have hmark : ∀ rest, after? (parameterMark number)
          (placeholder number column.sqlType ++ rest) = some (column.sqlType.toList ++ rest) := by
        intro rest
        rw [after?_eq_some_iff, placeholder_eq, List.append_assoc]
      cases columns with
      | nil =>
          have hlast := hmark []
          rw [List.append_nil, List.append_nil] at hlast
          rw [placeholders, placeholders, joinWith_singleton, List.map_singleton, bindings?, hlast]
          simp [hcolumn]
      | cons next columns =>
          have hne : next :: columns ≠ [] := List.cons_ne_nil _ _
          obtain ⟨back, hback⟩ := exists_joinWith_placeholders (number + 1) hne
          have hmore := @ih (number + 1) hne hothers
          have hfront : '$' ∉ column.sqlType.toList ++ [',', ' '] := by simp [hcolumn]
          have hcut := cutFirst_append_cons hfront back
          rw [List.append_assoc] at hcut
          have htype : before? [',', ' '] (column.sqlType.toList ++ [',', ' ']) =
              some column.sqlType.toList :=
            before?_eq_some_iff.mpr rfl
          rw [hback, List.map_cons] at hmore
          rw [placeholders, placeholders, joinWith_cons_cons, ← placeholders, hback, List.map_cons,
            List.map_cons, bindings?]
          · simp only [Option.bind_eq_bind, hmark, Option.bind_some, hcut, htype, hmore,
              String.ofList_toList]
          · exact List.cons_ne_nil _ _

theorem eq_of_bindings?_eq_some {number : Nat} (h : bindings? number names text = some columns) :
    columns ≠ [] ∧ NoDollar columns ∧ names = columns.map (·.name.toList) ∧
      text = joinWith [',', ' '] (placeholders number columns) := by
  fun_induction bindings? number names text generalizing columns with
  | case1 => cases h
  | case2 number name text =>
      obtain ⟨type, htype, hcolumn⟩ := Option.bind_eq_some_iff.mp h
      obtain rfl := after?_eq_some_iff.mp htype
      split at hcolumn
      next => cases hcolumn
      next hdollar =>
        obtain rfl := Option.some.inj hcolumn
        refine ⟨List.cons_ne_nil _ _, ?_, ?_, ?_⟩
        · simpa [NoDollar] using hdollar
        · simp
        · rw [placeholders, placeholders, joinWith_singleton, placeholder_eq, String.toList_ofList]
  | case3 number name names text hmore ih =>
      simp only [Option.bind_eq_bind, Option.bind_eq_some_iff, Prod.exists, after?_eq_some_iff,
        cutFirst_eq_some_iff, before?_eq_some_iff, Option.some.injEq] at h
      obtain ⟨_, rfl, _, back, ⟨rfl, hdollar⟩, type, rfl, others, hothers, rfl⟩ := h
      obtain ⟨hne, hotherDollars, rfl, hback⟩ := ih _ hothers
      obtain ⟨next, others, rfl⟩ := List.exists_cons_of_ne_nil hne
      refine ⟨List.cons_ne_nil _ _, ?_, ?_, ?_⟩
      · refine List.forall_mem_cons.mpr ⟨?_, hotherDollars⟩
        simpa using hdollar
      · simp
      · rw [placeholders, placeholders, joinWith_cons_cons, ← placeholders, ← hback, placeholder_eq,
          String.toList_ofList, List.append_assoc, List.append_assoc]

theorem bindings?_eq_some_iff {number : Nat} :
    bindings? number names text = some columns ↔
      columns ≠ [] ∧ NoDollar columns ∧ names = columns.map (·.name.toList) ∧
        text = joinWith [',', ' '] (placeholders number columns) := by
  refine ⟨eq_of_bindings?_eq_some, ?_⟩
  rintro ⟨hcolumns, hdollar, rfl, rfl⟩
  exact bindings?_joinWith hcolumns hdollar

/-! ### Whole statements -/

def insertedColumns (columns : List ColumnBinding) : List Char :=
  if columns.isEmpty then " DEFAULT VALUES".toList
  else ' ' :: listed (columns.map fun column => inQuotes column.name.toList) ++
    " VALUES ".toList ++ listed (placeholders 1 columns)

def insertedColumns? (text : List Char) : Option (List ColumnBinding) :=
  if text = " DEFAULT VALUES".toList then some []
  else do
    let text ← after? [' ', '('] text
    let (names, text) ← quotedNames? text
    let text ← after? ") VALUES (".toList text
    let text ← before? [')'] text
    bindings? 1 names text

structure InsertParts where
  namespaceName : String
  table : String
  columns : List ColumnBinding
deriving DecidableEq

def readInsert? (text : String) : Option InsertParts := do
  let text ← after? "INSERT INTO ".toList text.toList
  let ((namespaceName, table), text) ← fullName? text
  let columns ← insertedColumns? text
  some ⟨String.ofList namespaceName, String.ofList table, columns⟩

/-- The table of a query for a sample, the column that it selects, and the one that it tests. -/
structure SampleParts where
  namespaceName : String
  table : String
  selected : String
  tested : String
deriving DecidableEq

def readSample? (text : String) : Option SampleParts := do
  let text ← after? "SELECT ".toList text.toList
  let (selected, text) ← quotedName? text
  let text ← after? "::text FROM ".toList text
  let ((namespaceName, table), text) ← fullName? text
  let text ← after? " WHERE ".toList text
  let (tested, text) ← quotedName? text
  if text = " IS NOT NULL ORDER BY random() LIMIT 1".toList then
    some ⟨String.ofList namespaceName, String.ofList table, String.ofList selected,
      String.ofList tested⟩
  else none

theorem insertedColumns_of_ne_nil (hcolumns : columns ≠ []) :
    insertedColumns columns =
      [' ', '('] ++ (joinWith [',', ' '] ((columns.map (·.name.toList)).map inQuotes) ++
        (") VALUES (".toList ++ (joinWith [',', ' '] (placeholders 1 columns) ++ [')']))) := by
  rw [insertedColumns, if_neg (by simpa using hcolumns)]
  simp [listed, Function.comp_def]

theorem insertedColumns_eq_default_iff :
    insertedColumns columns = " DEFAULT VALUES".toList ↔ columns = [] := by
  refine ⟨fun h => ?_, fun h => ?_⟩
  · by_contra hcolumns
    rw [insertedColumns_of_ne_nil hcolumns] at h
    simp at h
  · rw [h]
    rfl

theorem insertedColumns?_eq_some_iff :
    insertedColumns? text = some columns ↔ NoDollar columns ∧ text = insertedColumns columns := by
  unfold insertedColumns?
  split
  next hdefault =>
    rw [hdefault, eq_comm (b := insertedColumns columns), insertedColumns_eq_default_iff]
    constructor
    · rintro ⟨rfl⟩
      exact ⟨List.forall_mem_nil _, rfl⟩
    · rintro ⟨-, rfl⟩
      rfl
  next hother =>
    simp only [Option.bind_eq_bind, Option.bind_eq_some_iff, Prod.exists, after?_eq_some_iff,
      quotedNames?_eq_some_iff, before?_eq_some_iff, bindings?_eq_some_iff]
    constructor
    · rintro ⟨_, rfl, names, _, ⟨-, rfl, -⟩, _, rfl, _, rfl, hcolumns, hdollar, rfl, rfl⟩
      exact ⟨hdollar, (insertedColumns_of_ne_nil hcolumns).symm⟩
    · rintro ⟨hdollar, rfl⟩
      have hcolumns : columns ≠ [] := fun h => hother (insertedColumns_eq_default_iff.mpr h)
      exact ⟨_, insertedColumns_of_ne_nil hcolumns, _, _,
        ⟨by simpa using hcolumns, rfl, by simp, rfl⟩, _, rfl, _, rfl, hcolumns, hdollar, rfl, rfl⟩

theorem insertText_eq (target : List Char) (columns : List ColumnBinding) :
    insertText target columns = "INSERT INTO ".toList ++ (target ++ insertedColumns columns) :=
  List.append_assoc _ _ _

theorem readInsert?_eq_some_iff {text : String} {parts : InsertParts} :
    readInsert? text = some parts ↔
      NoDollar parts.columns ∧ text.toList =
        insertText (fullName parts.namespaceName.toList parts.table.toList) parts.columns := by
  simp only [readInsert?, Option.bind_eq_bind, Option.bind_eq_some_iff, Prod.exists,
    after?_eq_some_iff, fullName?_eq_some_iff, insertedColumns?_eq_some_iff, Option.some.injEq,
    insertText_eq]
  constructor
  · rintro ⟨_, htext, _, _, _, ⟨rfl, -⟩, columns, ⟨hdollar, rfl⟩, rfl⟩
    exact ⟨hdollar, by simpa using htext⟩
  · rintro ⟨hdollar, htext⟩
    refine ⟨_, htext, _, _, _, ⟨rfl, ?_⟩, _, ⟨hdollar, rfl⟩, ?_⟩
    · unfold insertedColumns
      split <;> simp
    · simp

theorem sampleText_eq (target column : List Char) :
    sampleText target column = "SELECT ".toList ++ (inQuotes column ++ ("::text FROM ".toList ++
      (target ++ (" WHERE ".toList ++ (inQuotes column ++
        " IS NOT NULL ORDER BY random() LIMIT 1".toList))))) := by
  unfold sampleText
  rw [List.append_assoc, List.append_assoc, List.append_assoc, List.append_assoc, List.append_assoc]

theorem readSample?_eq_some_iff {text : String} {parts : SampleParts} :
    readSample? text = some parts ↔
      text.toList = "SELECT ".toList ++ (inQuotes parts.selected.toList ++
        ("::text FROM ".toList ++ (fullName parts.namespaceName.toList parts.table.toList ++
          (" WHERE ".toList ++ (inQuotes parts.tested.toList ++
            " IS NOT NULL ORDER BY random() LIMIT 1".toList))))) := by
  simp only [readSample?, Option.bind_eq_bind, Option.bind_eq_some_iff, Prod.exists,
    after?_eq_some_iff, fullName?_eq_some_iff, quotedName?_eq_some_iff,
    Option.ite_none_right_eq_some, Option.some.injEq]
  constructor
  · rintro ⟨_, htext, _, _, ⟨rfl, -⟩, _, rfl, _, _, _, ⟨rfl, -⟩, _, rfl, _, _, ⟨rfl, -⟩, rfl, rfl⟩
    simpa using htext
  · intro htext
    exact ⟨_, htext, _, _, ⟨rfl, by simp⟩, _, rfl, _, _, _, ⟨rfl, by simp⟩, _, rfl, _, _,
      ⟨rfl, by simp⟩, rfl, by simp⟩

theorem noDollar_of_accepted
    (haccepted : ∀ column ∈ columns, ∃ type, ColumnType.parse column.sqlType = .ok type) :
    NoDollar columns := by
  intro column hcolumn hdollar
  obtain ⟨type, htype⟩ := haccepted column hcolumn
  cases (Declaration.harmless_of_parse_eq_ok htype).chars '$' hdollar

theorem readInsert?_eq_some_iff_insertStatement {namespaceName table text : String}
    (htable : '.' ∉ table.toList)
    (haccepted : ∀ column ∈ columns, ∃ type, ColumnType.parse column.sqlType = .ok type) :
    readInsert? text = some ⟨namespaceName, table, columns⟩ ↔
      text = insertStatement namespaceName table columns := by
  rw [readInsert?_eq_some_iff, and_iff_right (noDollar_of_accepted haccepted), insertStatement,
    qualifiedName_of_notMem htable, ← String.toList_inj, String.toList_ofList]

theorem readSample?_eq_some_iff_sampleStatement {namespaceName table column text : String}
    (htable : '.' ∉ table.toList) :
    readSample? text = some ⟨namespaceName, table, column, column⟩ ↔
      text = sampleStatement namespaceName table column := by
  rw [readSample?_eq_some_iff, ← sampleText_eq, sampleStatement, qualifiedName_of_notMem htable,
    ← String.toList_inj, String.toList_ofList]

end Sql

open Sql

/-- **Statements are read back.** For a table without a point in its name, in whatever namespace, an
insert tells the namespace, the table, the names of its columns in order and the types that the
numbered parameters are cast to, if these types are accepted, whatever the names hold. So different
inputs give different inserts. A sample query tells the namespace, the table and its column, which
it names twice. -/
theorem statements_read_back {namespaceName table : String} (htable : '.' ∉ table.toList) :
    (∀ columns : List ColumnBinding,
      (∀ column ∈ columns, ∃ type, ColumnType.parse column.sqlType = .ok type) →
      (∀ text, readInsert? text = some ⟨namespaceName, table, columns⟩ ↔
        text = insertStatement namespaceName table columns) ∧
      ∀ (namespaceName' table' : String) (columns' : List ColumnBinding), '.' ∉ table'.toList →
        (∀ column ∈ columns', ∃ type, ColumnType.parse column.sqlType = .ok type) →
        insertStatement namespaceName table columns =
          insertStatement namespaceName' table' columns' →
        namespaceName = namespaceName' ∧ table = table' ∧ columns = columns') ∧
    ∀ column text, readSample? text = some ⟨namespaceName, table, column, column⟩ ↔
      text = sampleStatement namespaceName table column := by
  refine ⟨fun columns haccepted => ⟨fun text => ?_, ?_⟩, fun column text => ?_⟩
  · exact readInsert?_eq_some_iff_insertStatement htable haccepted
  · intro namespaceName' table' columns' htable' haccepted' hsame
    have hfirst := (readInsert?_eq_some_iff_insertStatement htable haccepted).mpr hsame.symm
    have hsecond : readInsert? (insertStatement namespaceName' table' columns') =
        some ⟨namespaceName', table', columns'⟩ :=
      (readInsert?_eq_some_iff_insertStatement htable' haccepted').mpr rfl
    rw [hfirst] at hsecond
    simpa using hsecond
  · exact readSample?_eq_some_iff_sampleStatement htable

theorem odd_names_read_back :
    let columns : List ColumnBinding :=
      [⟨"a\", \"b", "numeric(10, 2)"⟩, ⟨") VALUES ($1::text); --", "interval day to second"⟩]
    let insert := insertStatement "eu.\"west" "it's (\"\"" columns
    insert = "INSERT INTO \"eu.\"\"west\".\"it's (\"\"\"\"\" (\"a\"\", \"\"b\", " ++
      "\") VALUES ($1::text); --\") VALUES ($1::numeric(10, 2), $2::interval day to second)" ∧
    readInsert? insert = some ⟨"eu.\"west", "it's (\"\"", columns⟩ ∧
    readSample? (sampleStatement "eu.\"west" "it's (\"\"" "\"") =
      some ⟨"eu.\"west", "it's (\"\"", "\"", "\""⟩ := by
  intro columns insert
  have htable : '.' ∉ "it's (\"\"".toList := by decide
  have haccepted : ∀ column ∈ columns, ∃ type, ColumnType.parse column.sqlType = .ok type := by
    refine List.forall_mem_cons.mpr ⟨⟨.numeric (some 10) (some 2), ?_⟩,
      List.forall_mem_singleton.mpr ⟨.interval none, ?_⟩⟩
    · decide +kernel
    · decide +kernel
  obtain ⟨hinsert, hsample⟩ := @statements_read_back "eu.\"west" "it's (\"\"" htable
  refine ⟨?_, ?_, ?_⟩
  · decide +kernel
  · exact ((hinsert columns haccepted).1 insert).mpr rfl
  · exact (hsample "\"" _).mpr rfl

end SyntheticRows
