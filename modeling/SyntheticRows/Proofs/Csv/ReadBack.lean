import SyntheticRows.Proofs.Csv.Export
import SyntheticRows.Proofs.Text.Cut
import SyntheticRows.Proofs.Text.InQuotes
/-!
# Reading tables back

A file of comma-separated values is read from the left, field by field. A field in quotes ends with
the first quote that stands alone, any other field ends before the first comma or line break. A
comma leads to another field of the record and a line break to the next record. What follows a
written field is a comma or a line feed, neither of which belongs to the field, so a table tells its
columns and the cells of its rows, whatever characters they hold.
-/

namespace SyntheticRows

open Text

namespace Csv

variable {text rest field : List Char} {record : List (List Char)}
  {records : List (List (List Char))}

/-! ### A reader -/

def isPlain (c : Char) : Bool :=
  !(c == '"' || c == ',' || c == '\n' || c == '\r')

/-- Reads one field and what follows it. -/
def field? : List Char → Option (List Char × List Char)
  | '"' :: text => closeQuotes? text
  | text => some (text.takeWhile isPlain, text.dropWhile isPlain)

/-- What follows a line break; the last record may go without one. -/
def lineEnd? : List Char → Option (List Char)
  | [] => some []
  | '\n' :: rest => some rest
  | '\r' :: '\n' :: rest => some rest
  | _ => none

theorem length_field?_le (h : field? text = some (field, rest)) : rest.length ≤ text.length := by
  unfold field? at h
  split at h
  next text =>
    obtain ⟨rfl, -⟩ := closeQuotes?_eq_some_iff.mp h
    simp only [List.length_append, List.length_cons]
    omega
  next =>
    obtain ⟨-, rfl⟩ := Prod.mk.inj (Option.some.inj h)
    exact (List.dropWhile_suffix isPlain).length_le

/-- A line break takes a character unless it is the end of the text. -/
theorem length_lineEnd?_lt (h : lineEnd? text = some rest) :
    rest.length < text.length ∨ text = [] ∧ rest = [] := by
  unfold lineEnd? at h
  split at h
  · exact .inr ⟨rfl, (Option.some.inj h).symm⟩
  · obtain rfl := Option.some.inj h
    exact .inl (Nat.lt_succ_self _)
  · obtain rfl := Option.some.inj h
    exact .inl (Nat.lt_add_of_pos_right (by decide : 0 < 2))
  · cases h

/-- Reads the fields of one record and what follows its line break. -/
def record? (text : List Char) : Option (List (List Char) × List Char) :=
  match _hfield : field? text with
  | none => none
  | some (field, ',' :: more) =>
      (record? more).map fun (fields, rest) => (field :: fields, rest)
  | some (field, rest) => (lineEnd? rest).map ([field], ·)
termination_by text.length
decreasing_by exact length_field?_le _hfield

theorem length_record?_lt (h : record? text = some (record, rest)) :
    rest.length < text.length ∨ text = [] ∧ rest = [] := by
  fun_induction record? text generalizing record with
  | case1 => cases h
  | case2 text field more hfield ih =>
      obtain ⟨⟨fields, after⟩, hmore, heq⟩ := Option.map_eq_some_iff.mp h
      obtain ⟨rfl, rfl⟩ := Prod.mk.inj heq
      have hle := length_field?_le hfield
      rw [List.length_cons] at hle
      rcases ih hmore with hlt | ⟨rfl, rfl⟩
      · exact .inl (by omega)
      · exact .inl hle
  | case3 text field after hcomma hfield =>
      obtain ⟨rest, hend, heq⟩ := Option.map_eq_some_iff.mp h
      obtain ⟨-, rfl⟩ := Prod.mk.inj heq
      have hle := length_field?_le hfield
      rcases length_lineEnd?_lt hend with hlt | ⟨rfl, rfl⟩
      · exact .inl (Nat.lt_of_lt_of_le hlt hle)
      · rcases Nat.eq_zero_or_pos text.length with hzero | hpos
        · exact .inr ⟨List.eq_nil_of_length_eq_zero hzero, rfl⟩
        · exact .inl hpos

/-- Reads the records of a whole file. -/
def records? (text : List Char) : Option (List (List (List Char))) :=
  if _htext : text = [] then some []
  else
    match _hrecord : record? text with
    | none => none
    | some (record, rest) => (records? rest).map (record :: ·)
termination_by text.length
decreasing_by exact (length_record?_lt _hrecord).resolve_right fun h => _htext h.1

/-- The records of a file with their fields as texts. -/
def readTable? (text : String) : Option (List (List String)) :=
  (records? text.toList).map (List.map (List.map String.ofList))

/-! ### What is written -/

/-- The mark behind a field neither is part of the field nor closes it again. -/
theorem field?_fieldText (field : List Char) (hrest : ∀ c ∈ rest.head?, c = ',' ∨ c = '\n') :
    field? (fieldText field ++ rest) = some (field, rest) := by
  have hquote : rest.head? ≠ some '"' := by
    intro hhead
    rcases hrest '"' hhead with h | h <;> cases h
  have hplain : ∀ c ∈ rest.head?, isPlain c = false := by
    intro c hc
    rcases hrest c hc with rfl | rfl <;> decide
  unfold fieldText
  by_cases hneeds : needsQuotes field = true
  · rw [if_pos hneeds]
    have hclose := closeQuotes?_doubleQuotes field hquote
    simpa [inQuotes, field?] using hclose
  · rw [if_neg hneeds]
    have hfield : ∀ c ∈ field, isPlain c = true := by
      simpa [needsQuotes, isPlain] using hneeds
    unfold field?
    split
    next text htext =>
      have hhead : (field ++ rest).head? = some '"' := congrArg List.head? htext
      cases field with
      | nil => exact absurd hhead hquote
      | cons c field =>
          obtain rfl := Option.some.inj hhead
          cases hfield '"' List.mem_cons_self
    next =>
      rw [takeWhile_append_eq_left hfield hplain, dropWhile_append_eq_right hfield hplain]

/-- The fields of a record with commas between them. An empty line is one empty field. -/
theorem record?_intercalate (hrecord : record ≠ []) (rest : List Char) :
    record? ([','].intercalate (record.map fieldText) ++ '\n' :: rest) = some (record, rest) := by
  induction record with
  | nil => exact absurd rfl hrecord
  | cons field record ih =>
      cases record with
      | nil =>
          have hfield := @field?_fieldText ('\n' :: rest) field (by simp)
          rw [List.map_singleton, List.intercalate_singleton, record?, hfield]
          rfl
      | cons next record =>
          have hmore := ih (List.cons_ne_nil _ _)
          generalize htail : [','].intercalate ((next :: record).map fieldText) ++ '\n' :: rest =
            tail at hmore
          have hfield := @field?_fieldText (',' :: tail) field (by simp)
          rw [List.map_cons, List.map_cons, List.intercalate_cons_cons, ← List.map_cons,
            List.append_assoc, List.append_assoc, htail, List.singleton_append, record?, hfield]
          exact congrArg (Option.map fun (fields, rest) => (field :: fields, rest)) hmore

theorem record?_recordText (hrecord : record ≠ []) (rest : List Char) :
    record? (recordText record ++ '\n' :: rest) = some (record, rest) := by
  unfold recordText
  split
  · exact absurd rfl hrecord
  · have hfield : field? ('"' :: '"' :: '\n' :: rest) = some ([], '\n' :: rest) := by
      simp [field?, closeQuotes?]
    rw [List.cons_append, List.cons_append, List.nil_append, record?, hfield]
    rfl
  · exact record?_intercalate hrecord rest

theorem records?_recordsText (hrecords : ∀ record ∈ records, record ≠ []) :
    records? (recordsText records) = some records := by
  induction records with
  | nil => simp [records?, recordsText]
  | cons record records ih =>
      obtain ⟨hrecord, hothers⟩ := List.forall_mem_cons.mp hrecords
      have htext : recordsText (record :: records) =
          recordText record ++ '\n' :: recordsText records := by
        simp [recordsText]
      have hne : recordText record ++ '\n' :: recordsText records ≠ [] := by simp
      rw [htext, records?, dif_neg hne, record?_recordText hrecord]
      dsimp only
      rw [ih hothers]
      rfl

/-! ### Cells of tables -/

/-- The values of rows under the given columns; where a row has none the cell is empty. -/
def cells (columns : List String) (rows : List Row) : List (List String) :=
  rows.map fun row => columns.map fun column => (row.get? column).getD ""

theorem map_ofList_rowFields (columns : List String) (row : Row) :
    (rowFields columns row).map String.ofList =
      columns.map fun column => (row.get? column).getD "" := by
  simp [rowFields, Function.comp_def]

theorem readTable?_tableText {columns : List String} (hcolumns : columns ≠ [])
    (rows : List Row) :
    readTable? (tableText columns rows) = some (columns :: cells columns rows) := by
  have hrecords : ∀ record ∈ columns.map String.toList :: rows.map (rowFields columns),
      record ≠ [] := by
    refine List.forall_mem_cons.mpr ⟨by simpa using hcolumns, fun record hrecord => ?_⟩
    obtain ⟨row, -, rfl⟩ := List.mem_map.mp hrecord
    simpa [rowFields] using hcolumns
  unfold readTable? tableText
  rw [String.toList_ofList, records?_recordsText hrecords]
  simp [cells, Function.comp_def, map_ofList_rowFields]

end Csv

/-- The names of the columns and the cells of the rows. -/
def MemoryTable.records (table : MemoryTable) : List (List String) :=
  table.columns :: Csv.cells table.columns table.rows.toList

namespace Csv

/-- **Exports lose nothing.** A table with columns is read back from its text: first the names of
the columns, then for each row its cells. So each file that a store exports tells the columns and
the cells of its table, and tables that differ in them never have the same file. -/
theorem tables_read_back :
    (∀ (columns : List String) (rows : List Row), columns ≠ [] →
      readTable? (tableText columns rows) = some (columns :: cells columns rows)) ∧
    ∀ (directory : List String) (workspace : Workspace) (store : MemoryStore),
      ∀ file ∈ (exported directory workspace (tableFiles store)).files,
        ∃ table, store.tables.get? file.table = some table ∧
          (table.columns ≠ [] → readTable? file.content = some table.records) ∧
          ∀ (directory' : List String) (workspace' : Workspace) (store' : MemoryStore),
            ∀ file' ∈ (exported directory' workspace' (tableFiles store')).files,
              ∀ table', store'.tables.get? file'.table = some table' → table.columns ≠ [] →
                table'.columns ≠ [] → table.records ≠ table'.records →
                file.content ≠ file'.content := by
  have hread : ∀ {directory : List String} {workspace : Workspace} {store : MemoryStore}
      {file : TableFile} {table : MemoryTable},
      file ∈ (exported directory workspace (tableFiles store)).files →
        store.tables.get? file.table = some table → table.columns ≠ [] →
          readTable? file.content = some table.records := by
    intro directory workspace store file table hfile htable hcolumns
    obtain ⟨found, hfound, hcontent⟩ := exists_table_of_mem_exported hfile
    obtain rfl := Option.some.inj (htable.symm.trans hfound)
    rw [hcontent]
    exact readTable?_tableText hcolumns table.rows.toList
  refine ⟨fun columns rows hcolumns => readTable?_tableText hcolumns rows, ?_⟩
  intro directory workspace store file hfile
  obtain ⟨table, htable, -⟩ := exists_table_of_mem_exported hfile
  refine ⟨table, htable, hread hfile htable, ?_⟩
  intro directory' workspace' store' file' hfile' table' htable' hcolumns hcolumns' hdiffer hsame
  have hfirst := hread hfile htable hcolumns
  rw [hsame, hread hfile' htable' hcolumns'] at hfirst
  exact hdiffer (Option.some.inj hfirst).symm

/-- Names and values hold quotes, commas and line breaks, and rows lack values. A row without its
only value and a row with two quotes for it are told apart. -/
theorem tables_read_back_of_odd_cells :
    let columns := ["say \"hi\"", "a,b"]
    let rows : List Row := [.ofList [("a,b", "two\r\nlines")], .ofList [("say \"hi\"", "\"")]]
    let store (row : Row) : MemoryStore :=
      { tables := .ofList [("notes", ⟨["note"], [], 2, #[row]⟩)] }
    let files (row : Row) : List TableFile :=
      (exported ["data"] (.ofFiles []) (tableFiles (store row))).files
    let blank : TableFile := ⟨"notes", 1, "note\n\"\"\n"⟩
    let quoted : TableFile := ⟨"notes", 1, "note\n\"\"\"\"\"\"\n"⟩
    tableText columns rows =
        "\"say \"\"hi\"\"\",\"a,b\"\n,\"two\r\nlines\"\n\"\"\"\",\n" ∧
      readTable? (tableText columns rows) =
        some [columns, ["", "two\r\nlines"], ["\"", ""]] ∧
      files .empty = [blank] ∧ files (.ofList [("note", "\"\"")]) = [quoted] ∧
      readTable? blank.content = some [["note"], [""]] ∧ blank.content ≠ quoted.content := by
  intro columns rows store files blank quoted
  obtain ⟨htables, hstores⟩ := tables_read_back
  have hblank : files .empty = [blank] := by decide +kernel
  have hquoted : files (.ofList [("note", "\"\"")]) = [quoted] := by decide +kernel
  have hmem : blank ∈ files .empty := hblank ▸ List.mem_cons_self
  have hmem' : quoted ∈ files (.ofList [("note", "\"\"")]) := hquoted ▸ List.mem_cons_self
  obtain ⟨table, htable, hread, hdiffer⟩ := hstores _ _ _ _ hmem
  obtain rfl : ⟨["note"], [], 2, #[.empty]⟩ = table := Option.some.inj htable
  refine ⟨by decide +kernel, htables columns rows (by decide), hblank, hquoted,
    hread (by decide), ?_⟩
  exact hdiffer _ _ _ _ hmem' ⟨["note"], [], 2, #[.ofList [("note", "\"\"")]]⟩ rfl (by decide)
    (by decide) (by decide +kernel)

end Csv

end SyntheticRows
