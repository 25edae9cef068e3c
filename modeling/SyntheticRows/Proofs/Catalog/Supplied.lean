import SyntheticRows.Population.Engine
import SyntheticRows.Proofs.Catalog.References
import SyntheticRows.Proofs.Plan.Shape
import SyntheticRows.Proofs.Text.Blank
import SyntheticRows.Proofs.Text.Cut
/-!
# Which columns an insert supplies

Whether an insert names a column is settled in several places: the catalog tells sequences,
identities and computed columns, a sequence makes an integer type serial, some types take no values,
and the key is left to the database. Together they leave the columns that the catalog itself shows to
need a value.
-/

namespace SyntheticRows

open Text

/-- The types whose values the database makes. -/
def ColumnType.selfFilled : List ColumnType :=
  [plain .smallSerial, plain .serial, plain .bigSerial, plain .tsVector, plain .tsQuery]

theorem ColumnType.isInsertable_iff {type : ColumnType} :
    type.isInsertable = true ↔ type ∉ selfFilled := by
  cases type with
  | plain type => cases type <;> decide
  | _ => simp [isInsertable, isAutoGenerated, isTextSearch, selfFilled]

namespace CatalogColumn

variable {column : CatalogColumn}

/-- The default is the next value of a sequence, with white space in front or without. -/
def HasSequenceDefault (column : CatalogColumn) : Prop :=
  ∃ expression gap back, column.default = some expression ∧ allBlank gap = true ∧
    expression.toList = gap ++ "nextval(".toList ++ back

theorem isSequenceDefault_iff {expression : String} :
    isSequenceDefault expression = true ↔
      ∃ gap back, allBlank gap = true ∧ expression.toList = gap ++ "nextval(".toList ++ back := by
  unfold isSequenceDefault
  rw [Option.isSome_iff_exists]
  constructor
  · rintro ⟨back, hback⟩
    obtain ⟨gap, hgap, hexpression⟩ := exists_eq_append_trimStart expression.toList
    refine ⟨gap, back, hgap, ?_⟩
    rw [hexpression, after?_eq_some_iff.mp hback, List.append_assoc]
  · rintro ⟨gap, back, hgap, hexpression⟩
    have hstart : ∀ c ∈ ("nextval(".toList ++ back).head?, isBlank c = false := by
      rintro c ⟨⟩
      decide
    refine ⟨back, after?_eq_some_iff.mpr ?_⟩
    rw [hexpression, List.append_assoc, trimStart_append_of_allBlank hgap, trimStart_eq_self hstart]

theorem usesSequence_iff : column.usesSequence = true ↔ column.HasSequenceDefault := by
  unfold usesSequence HasSequenceDefault
  simp [Option.any_eq_true, isSequenceDefault_iff]

theorem typeOf_eq_self (h : ¬column.HasSequenceDefault) (declared : ColumnType) :
    column.typeOf declared = declared :=
  if_neg fun hsequence => h (usesSequence_iff.mp hsequence)

instance : DecidablePred HasSequenceDefault :=
  fun _ => decidable_of_iff _ usesSequence_iff

end CatalogColumn

namespace CatalogTable

/-- What the catalog shows of a column that needs a value from an insert. -/
structure Supplies (table : CatalogTable) (column : CatalogColumn) : Prop where
  noSequence : ¬column.HasSequenceDefault
  noIdentity : column.isIdentity = false
  notGenerated : column.isGenerated = false
  takesValues : ∃ type, ColumnType.parse column.declaredType = .ok type ∧
    type ∉ ColumnType.selfFilled
  noKey : column.name ∉ table.primaryKey

instance {ε : Type} (outcome : Except ε ColumnType) (types : List ColumnType) :
    Decidable (∃ type, outcome = .ok type ∧ type ∉ types) :=
  match outcome with
  | .error _ => isFalse (by simp)
  | .ok type => decidable_of_iff (type ∉ types) (by simp)

instance (table : CatalogTable) : DecidablePred table.Supplies := fun column =>
  decidable_of_iff (¬column.HasSequenceDefault ∧ column.isIdentity = false ∧
      column.isGenerated = false ∧ (∃ type, ColumnType.parse column.declaredType = .ok type ∧
        type ∉ ColumnType.selfFilled) ∧ column.name ∉ table.primaryKey)
    ⟨fun ⟨noSequence, noIdentity, notGenerated, takesValues, noKey⟩ =>
        ⟨noSequence, noIdentity, notGenerated, takesValues, noKey⟩,
      fun ⟨noSequence, noIdentity, notGenerated, takesValues, noKey⟩ =>
        ⟨noSequence, noIdentity, notGenerated, takesValues, noKey⟩⟩

def suppliedColumns (table : CatalogTable) : List CatalogColumn :=
  table.columns.filter (table.Supplies ·)

variable {namespaceName : String} {found : CatalogTable}

theorem inserts_iff_supplies {planned : PlannedTable} {column : PlannedColumn}
    {source : CatalogColumn} (hkey : planned.primaryKey = found.primaryKey)
    (h : found.toColumn namespaceName source = .ok column.column) :
    planned.inserts column = true ↔ found.Supplies source := by
  obtain ⟨declared, hdeclared, hcolumn⟩ := toColumn_eq_ok_iff.mp h
  have hname : column.name = source.name := congrArg Column.name hcolumn
  have hsequence : source.usesSequence = false ↔ ¬source.HasSequenceDefault := by
    rw [← CatalogColumn.usesSequence_iff, Bool.not_eq_true]
  simp only [PlannedTable.inserts, PlannedTable.isPrimaryKey, hkey, hname, hcolumn,
    Column.isInsertable, Bool.and_eq_true, Bool.not_eq_true', Bool.or_eq_false_iff, hsequence,
    ColumnType.isInsertable_iff, List.contains_eq_mem, decide_eq_false_iff_not]
  constructor
  · rintro ⟨⟨⟨⟨noSequence, noIdentity⟩, notGenerated⟩, htype⟩, noKey⟩
    rw [CatalogColumn.typeOf_eq_self noSequence] at htype
    exact ⟨noSequence, noIdentity, notGenerated, ⟨declared, hdeclared, htype⟩, noKey⟩
  · rintro ⟨noSequence, noIdentity, notGenerated, ⟨type, htype, hfilled⟩, noKey⟩
    obtain rfl := Except.ok.inj (hdeclared.symm.trans htype)
    rw [CatalogColumn.typeOf_eq_self noSequence]
    exact ⟨⟨⟨⟨noSequence, noIdentity⟩, notGenerated⟩, hfilled⟩, noKey⟩

/-- An insert lists what the catalog shows to need a value, under the declared types. -/
theorem map_binding_insertColumns {planned : PlannedTable}
    (h : found.toTable namespaceName = .ok planned.toTable) :
    planned.insertColumns.map (·.binding) =
      found.suppliedColumns.map fun column => ⟨column.name, column.declaredType⟩ := by
  obtain ⟨hcolumns, -, hkey, -⟩ := toTable_eq_ok_iff.mp h
  have hplanned : planned.toTable.columns = planned.columns.map (·.column) := rfl
  rw [hplanned, List.forall₂_map_right_iff] at hcolumns
  have hkept : List.Forall₂
      (fun source column => found.toColumn namespaceName source = .ok column.column)
      found.suppliedColumns planned.insertColumns := by
    refine List.rel_filter ?_ hcolumns
    intro source column hcolumn
    exact decide_eq_true_iff.trans (inserts_iff_supplies hkey hcolumn).symm
  refine (map_eq_map_of_forall₂ (hkept.imp ?_)).symm
  intro source column hcolumn
  obtain ⟨declared, -, heq⟩ := toColumn_eq_ok_iff.mp hcolumn
  rw [PlannedColumn.binding, PlannedColumn.name, heq]

end CatalogTable

end SyntheticRows
