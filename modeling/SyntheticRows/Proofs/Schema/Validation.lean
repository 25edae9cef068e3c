import SyntheticRows.Schema.Validation
/-!
# Validation accepts the consistent schemas

The checks run through the tables and their columns with the names that were seen before. They pass
exactly if no name comes twice, only foreign keys have references and keys name columns.
-/

namespace SyntheticRows

structure Table.Consistent (table : Table) : Prop where
  columnNames : (table.columns.map (·.name)).Nodup
  references : ∀ column ∈ table.columns, column.isForeignKey = false → column.references = none
  keys : ∀ key ∈ table.primaryKey, ∃ column ∈ table.columns, column.name = key

structure Schema.Consistent (schema : Schema) : Prop where
  tableNames : (schema.tables.map (·.name)).Nodup
  tables : ∀ table ∈ schema.tables, table.Consistent

namespace Schema

variable {namespaceName : String}

/-- New names stay new and different from each other when one of them is seen. -/
theorem fresh_cons_iff {α : Type} {nameOf : α → String} {item : α} {items : List α}
    {seen : List String} (hseen : nameOf item ∉ seen) :
    (∀ other ∈ item :: items, nameOf other ∉ seen) ∧ ((item :: items).map nameOf).Nodup ↔
      (∀ other ∈ items, nameOf other ∉ nameOf item :: seen) ∧ (items.map nameOf).Nodup := by
  rw [List.forall_mem_cons, List.map_cons, List.nodup_cons]
  constructor
  · rintro ⟨⟨_, hrest⟩, hitem, hnodup⟩
    refine ⟨fun other hmem hother => ?_, hnodup⟩
    rcases List.mem_cons.mp hother with heq | hother
    · exact hitem (heq ▸ List.mem_map_of_mem hmem)
    · exact hrest other hmem hother
  · rintro ⟨hfresh, hnodup⟩
    refine ⟨⟨hseen, fun other hmem hother => hfresh other hmem (List.mem_cons_of_mem _ hother)⟩,
      fun hitem => ?_, hnodup⟩
    obtain ⟨other, hmem, heq⟩ := List.mem_map.mp hitem
    exact hfresh other hmem (heq ▸ List.mem_cons_self)

theorem checkColumns_eq_ok_iff {table : String} {seen : List String} {columns : List Column} :
    checkColumns namespaceName table seen columns = .ok () ↔
      ((∀ column ∈ columns, column.name ∉ seen) ∧ (columns.map (·.name)).Nodup) ∧
        ∀ column ∈ columns, column.isForeignKey = false → column.references = none := by
  induction columns generalizing seen with
  | nil => simp [checkColumns]
  | cons column columns ih =>
      unfold checkColumns
      by_cases hseen : column.name ∈ seen
      · simp [hseen]
      by_cases hstray : column.isForeignKey = false ∧ column.references.isSome
      · have hsome : column.references ≠ none := Option.isSome_iff_ne_none.mp hstray.2
        simp [hseen, hstray, hsome]
      · have hown : column.isForeignKey = false → column.references = none := by
          simpa using hstray
        rw [if_neg (by simpa using hseen), if_neg (by simpa using hstray), ih,
          fresh_cons_iff hseen, List.forall_mem_cons]
        exact and_congr_right fun _ => ⟨fun hrest => ⟨hown, hrest⟩, And.right⟩

theorem checkKeys_eq_ok_iff {table : Table} {keys : List String} :
    checkKeys namespaceName table keys = .ok () ↔
      ∀ key ∈ keys, ∃ column ∈ table.columns, column.name = key := by
  induction keys with
  | nil => simp [checkKeys]
  | cons key keys ih =>
      unfold checkKeys
      by_cases hkey : ∃ column ∈ table.columns, column.name = key
      · simp [hkey, ih]
      · simp [hkey]

theorem consistent_iff_checks_eq_ok (namespaceName : String) (table : Table) :
    table.Consistent ↔ checkColumns namespaceName table.name [] table.columns = .ok () ∧
      checkKeys namespaceName table table.primaryKey = .ok () := by
  rw [checkColumns_eq_ok_iff, checkKeys_eq_ok_iff]
  constructor
  · rintro ⟨hnames, hreferences, hkeys⟩
    exact ⟨⟨⟨fun _ _ => List.not_mem_nil, hnames⟩, hreferences⟩, hkeys⟩
  · rintro ⟨⟨⟨_, hnames⟩, hreferences⟩, hkeys⟩
    exact ⟨hnames, hreferences, hkeys⟩

theorem checkTables_eq_ok_iff {seen : List String} {tables : List Table} :
    checkTables namespaceName seen tables = .ok () ↔
      ((∀ table ∈ tables, table.name ∉ seen) ∧ (tables.map (·.name)).Nodup) ∧
        ∀ table ∈ tables, table.Consistent := by
  induction tables generalizing seen with
  | nil => simp [checkTables]
  | cons table tables ih =>
      unfold checkTables
      by_cases hseen : table.name ∈ seen
      · simp [hseen]
      rw [if_neg (by simpa using hseen), fresh_cons_iff hseen, List.forall_mem_cons,
        consistent_iff_checks_eq_ok namespaceName]
      have hrest : checkTables namespaceName (table.name :: seen) tables = .ok () ↔ _ := ih
      cases hcolumns : checkColumns namespaceName table.name [] table.columns with
      | error fault => simp [bind, Except.bind]
      | ok =>
          cases hkeys : checkKeys namespaceName table table.primaryKey with
          | error fault => simp [bind, Except.bind]
          | ok => simpa [bind, Except.bind] using hrest

/-- What is checked is what a consistent schema is. -/
theorem validate_eq_ok_iff (schema : Schema) : schema.validate = .ok () ↔ schema.Consistent := by
  unfold validate
  rw [checkTables_eq_ok_iff]
  constructor
  · rintro ⟨⟨_, hnames⟩, htables⟩
    exact ⟨hnames, htables⟩
  · rintro ⟨hnames, htables⟩
    exact ⟨⟨fun _ _ => List.not_mem_nil, hnames⟩, htables⟩

end Schema

end SyntheticRows
