import SyntheticRows.Proofs.Population.References
/-!
# Columns that a dry run leaves without a value

An insert leaves out the columns that a database fills by itself, and the memory store numbers some
of them. The two do not quite complement each other, because the type of a column takes part in the
first choice only: a column of a serial type is neither inserted nor numbered unless it is flagged
as generated or belongs to the primary key.
-/

namespace SyntheticRows.Population

open MemoryStore

variable {tables : List PlannedTable} {table : PlannedTable} {column : PlannedColumn}
  {store : MemoryStore} {index : Nat} {row : Row}

/-- Neither an insert nor the store gives the column a value. -/
theorem neither_iff :
    table.inserts column = false ∧ MemoryTable.isSequenceColumn table column = false ↔
      column.column.type.isInsertable = false ∧ column.column.autoGenerated = false ∧
        column.name ∉ table.primaryKey := by
  simp only [PlannedTable.inserts, Column.isInsertable, MemoryTable.isSequenceColumn,
    PlannedTable.isPrimaryKey, Bool.and_eq_false_iff, Bool.or_eq_false_iff, Bool.not_eq_false',
    List.contains_eq_mem, decide_eq_true_eq, decide_eq_false_iff_not]
  constructor
  · rintro ⟨(hgenerated | htype) | hkey, hflag, hnoKey⟩
    · cases hgenerated.symm.trans hflag
    · exact ⟨htype, hflag, hnoKey⟩
    · exact absurd hkey hnoKey
  · rintro ⟨htype, hflag, hnoKey⟩
    exact ⟨.inl (.inr htype), hflag, hnoKey⟩

theorem SoundRow.get?_eq_none_iff (h : SoundRow tables store table index row)
    (hmem : column ∈ table.columns) :
    row.get? column.name = none ↔
      table.inserts column = false ∧ MemoryTable.isSequenceColumn table column = false := by
  cases hinserts : table.inserts column with
  | true =>
      obtain ⟨_, value, -, hvalue, -⟩ := h.supplied column (List.mem_filter.mpr ⟨hmem, hinserts⟩)
      simp [hvalue]
  | false =>
      rw [h.numbered column hmem hinserts]
      simp

/-- **A stored row of a dry run lacks a value exactly in the columns that are left out for their
type and nothing else.** These are the columns of text search and of serial types without a flag and
outside the primary key. All others have the value that the insert supplied or the number of the
row. -/
theorem stored_rows_lack_value_iff (schema : Schema) (config : RulesConfig) (policy : MissingPolicy)
    (stream : RandomStream) (hvalid : schema.validate = .ok ()) :
    let tables := (applyRules (planTables schema) config).tables
    let store := (populateInMemory policy tables stream).2.store
    ∀ table ∈ tables, ∀ index row, (store.rows table.name)[index]? = some row →
      ∀ column ∈ table.columns,
        (row.get? column.name = none ↔
          column.column.type.isInsertable = false ∧ column.column.autoGenerated = false ∧
            column.name ∉ table.primaryKey) ∧
        (table.inserts column = false → ∀ value, row.get? column.name = some value →
          value = toString (index + 1)) := by
  intro tables store table hmem index row hrow column hcolumn
  have hnames : DistinctNames tables := distinctNames_of_validate_eq_ok hvalid config
  have hsound : SoundStore tables store := soundStore_populateInMemory hnames policy stream
  have hsoundRow := hsound.soundRow hmem hrow
  refine ⟨(hsoundRow.get?_eq_none_iff hcolumn).trans neither_iff, fun hinserts value hvalue => ?_⟩
  rw [hsoundRow.numbered column hcolumn hinserts] at hvalue
  split at hvalue
  next => exact (Option.some.inj hvalue).symm
  next => cases hvalue

/-! ### A serial column that is no key -/

/-- Tickets with a number, which is of a serial type but carries no flag. -/
def ticketSchema : Schema :=
  { engine := "postgres"
    database := none
    namespaceName := "public"
    tables :=
      [⟨"tickets",
        [⟨"number", "serial", .plain .serial, false, none, false⟩,
          ⟨"note", "text", .plain .text, false, none, false⟩],
        [], []⟩] }

def ticketConfig : RulesConfig :=
  { tables := .ofList [("tickets", ⟨1, .ofList [("note", "constant[x]")]⟩)] }

/-- The ticket has a note and no number. -/
theorem stored_ticket_lacks_number :
    let tables := (applyRules (planTables ticketSchema) ticketConfig).tables
    let store := (populateInMemory .skip tables (.ofSeed 0)).2.store
    ticketSchema.validate = .ok () ∧
      ∃ row, (store.rows "tickets")[0]? = some row ∧ row.get? "number" = none ∧
        row.get? "note" ≠ none := by
  intro tables store
  have hvalid : ticketSchema.validate = .ok () := by decide
  obtain ⟨row, hrow⟩ : ∃ row, (store.rows "tickets")[0]? = some row :=
    Option.isSome_iff_exists.mp (by decide +kernel)
  obtain ⟨table, hmem, hname, ⟨number, hnumber, hnumberName, hunfilled⟩, note, hnote, hnoteName,
      htext⟩ : ∃ table ∈ tables, table.name = "tickets" ∧
        (∃ column ∈ table.columns, column.name = "number" ∧
          column.column.type.isInsertable = false ∧ column.column.autoGenerated = false ∧
            column.name ∉ table.primaryKey) ∧
        ∃ column ∈ table.columns, column.name = "note" ∧
          column.column.type.isInsertable = true := by decide
  have hlacks := stored_rows_lack_value_iff ticketSchema ticketConfig .skip (.ofSeed 0) hvalid
    table hmem 0 row (hname ▸ hrow)
  refine ⟨hvalid, row, hrow, ?_, fun hnone => ?_⟩
  · exact hnumberName ▸ (hlacks number hnumber).1.mpr hunfilled
  · have hskipped := ((hlacks note hnote).1.mp (hnoteName ▸ hnone)).1
    cases htext.symm.trans hskipped

/-- Values for all columns but those for text search, of rows stored under rules that apply to a
consistent schema, are not what the engine and the store bring about together. -/
theorem serial_column_of_ticket_unfilled :
    let applied := applyRules (planTables ticketSchema) ticketConfig
    let store := (populateInMemory .skip applied.tables (.ofSeed 0)).2.store
    ticketSchema.validate = .ok () ∧ applied.outcome = .ok () ∧
      ¬∀ table ∈ applied.tables, ∀ row ∈ store.rows table.name, ∀ column ∈ table.columns,
        column.column.type.isTextSearch = false → ∃ value, row.get? column.name = some value := by
  intro applied store
  obtain ⟨table, hmem, hname, column, hcolumn, hcolumnName, hsearch⟩ :
      ∃ table ∈ applied.tables, table.name = "tickets" ∧ ∃ column ∈ table.columns,
        column.name = "number" ∧ column.column.type.isTextSearch = false := by decide
  obtain ⟨row, hrow, hnone⟩ : ∃ row ∈ store.rows "tickets", row.get? "number" = none := by
    decide +kernel
  refine ⟨by decide, by decide, fun hfilled => ?_⟩
  obtain ⟨value, hvalue⟩ := hfilled table hmem row (hname ▸ hrow) column hcolumn hsearch
  rw [hcolumnName, hnone] at hvalue
  cases hvalue

end SyntheticRows.Population
