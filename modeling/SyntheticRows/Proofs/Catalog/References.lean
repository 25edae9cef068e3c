import SyntheticRows.Catalog.Table
import SyntheticRows.Proofs.Elementwise
/-!
# Tables from the catalog list what they reference

A mapped table keeps its name, and it depends on every table that one of its columns references:
columns and dependencies are read off the same foreign keys. A column is flagged where one of them
is its own, and its reference names the column at the other end.
-/

namespace SyntheticRows

/-- Columns reference listed tables only. -/
def Table.ListsReferences (table : Table) : Prop :=
  ∀ column ∈ table.columns, ∀ reference, column.references = some reference →
    reference.table ∈ table.dependsOn

/-- A column is a foreign key exactly if it has a reference, each reference names a column of a
listed table, and no table is listed twice. -/
structure Table.LinksReferences (table : Table) : Prop where
  flagged : ∀ column ∈ table.columns, column.isForeignKey = true ↔ column.references ≠ none
  listed : table.ListsReferences
  recorded : ∀ column ∈ table.columns, ∀ reference, column.references = some reference →
    reference.column ≠ none
  distinct : table.dependsOn.Nodup

/-- The table comes from a catalog whose foreign keys name the tables at their other ends. -/
def Table.Discovered (table : Table) : Prop :=
  ∃ (namespaceName : String) (found : CatalogTable), found.toTable namespaceName = .ok table ∧
    ∀ key ∈ found.foreignKeys, key.referencedTable ≠ ""

theorem nodup_eraseDups {α : Type} [BEq α] [LawfulBEq α] : ∀ items : List α, items.eraseDups.Nodup
  | [] => .nil
  | item :: items => by
      have hrest := nodup_eraseDups (items.filter fun other => !other == item)
      rw [List.eraseDups_cons, List.nodup_cons]
      exact ⟨by simp [List.mem_eraseDups], hrest⟩
termination_by items => items.length
decreasing_by exact Nat.lt_succ_of_le (List.length_filter_le _ _)

/-- A namespace in front ends in a point, so that the name is not empty. -/
theorem CatalogForeignKey.referencedName_ne_empty {key : CatalogForeignKey}
    (h : key.referencedTable ≠ "") (namespaceName : String) :
    key.referencedName namespaceName ≠ "" := by
  unfold referencedName
  split
  · exact h
  · intro hempty
    simpa [toString] using congrArg String.toList hempty

namespace CatalogTable

variable {namespaceName : String} {found : CatalogTable} {table : Table}

theorem mem_dependsOn_of_reference?_eq_some {column : String} {reference : Reference}
    (h : found.reference? namespaceName column = some reference) :
    reference.table ∈ found.dependsOn namespaceName := by
  obtain ⟨key, hkey, rfl⟩ := Option.map_eq_some_iff.mp h
  rw [dependsOn, List.mem_eraseDups]
  exact List.mem_map_of_mem (List.mem_of_find?_eq_some hkey)

theorem toColumn_eq_ok_iff {source : CatalogColumn} {column : Column} :
    found.toColumn namespaceName source = .ok column ↔
      ∃ declared, ColumnType.parse source.declaredType = .ok declared ∧
        column =
          { name := source.name
            rawType := source.declaredType
            type := source.typeOf declared
            isForeignKey := (found.reference? namespaceName source.name).isSome
            references := found.reference? namespaceName source.name
            autoGenerated := source.usesSequence || source.isIdentity || source.isGenerated } := by
  unfold toColumn
  rw [bind_eq_ok_iff]
  exact exists_congr fun declared => and_congr_right fun _ =>
    ⟨fun h => (Except.ok.inj h).symm, fun h => congrArg Except.ok h.symm⟩

theorem references_of_toColumn_eq_ok {source : CatalogColumn} {column : Column}
    (h : found.toColumn namespaceName source = .ok column) :
    column.references = found.reference? namespaceName source.name := by
  obtain ⟨_, _, rfl⟩ := toColumn_eq_ok_iff.mp h
  rfl

theorem toTable_eq_ok_iff :
    found.toTable namespaceName = .ok table ↔
      List.Forall₂ (fun source column => found.toColumn namespaceName source = .ok column)
          found.columns table.columns ∧
        table.name = found.name ∧ table.primaryKey = found.primaryKey ∧
        table.dependsOn = found.dependsOn namespaceName := by
  unfold toTable
  rw [bind_eq_ok_iff, ← mapM_eq_ok_iff]
  constructor
  · rintro ⟨columns, hcolumns, htable⟩
    obtain rfl := Except.ok.inj htable
    exact ⟨hcolumns, rfl, rfl, rfl⟩
  · rintro ⟨hcolumns, hname, hkey, hdepends⟩
    refine ⟨table.columns, hcolumns, ?_⟩
    rw [← hname, ← hkey, ← hdepends]
    rfl

theorem listsReferences_of_toTable_eq_ok (h : found.toTable namespaceName = .ok table) :
    table.ListsReferences := by
  obtain ⟨hcolumns, -, -, hdepends⟩ := toTable_eq_ok_iff.mp h
  intro column hmem reference hreference
  obtain ⟨source, _, hsource⟩ := exists_mem_of_forall₂ hcolumns hmem
  rw [references_of_toColumn_eq_ok hsource] at hreference
  rw [hdepends]
  exact mem_dependsOn_of_reference?_eq_some hreference

theorem linksReferences_of_toTable_eq_ok (h : found.toTable namespaceName = .ok table) :
    table.LinksReferences := by
  obtain ⟨hcolumns, -, -, hdepends⟩ := toTable_eq_ok_iff.mp h
  refine ⟨?_, listsReferences_of_toTable_eq_ok h, ?_, ?_⟩
  · intro column hmem
    obtain ⟨source, _, hsource⟩ := exists_mem_of_forall₂ hcolumns hmem
    obtain ⟨_, _, rfl⟩ := toColumn_eq_ok_iff.mp hsource
    exact Option.isSome_iff_ne_none
  · intro column hmem reference hreference
    obtain ⟨source, _, hsource⟩ := exists_mem_of_forall₂ hcolumns hmem
    rw [references_of_toColumn_eq_ok hsource] at hreference
    obtain ⟨key, _, rfl⟩ := Option.map_eq_some_iff.mp hreference
    exact Option.some_ne_none _
  · rw [hdepends]
    exact nodup_eraseDups _

/-- A reference is named after one of the foreign keys. -/
theorem exists_key_of_references_eq_some (h : found.toTable namespaceName = .ok table)
    {column : Column} (hmem : column ∈ table.columns) {reference : Reference}
    (hreference : column.references = some reference) :
    ∃ key ∈ found.foreignKeys, reference.table = key.referencedName namespaceName := by
  obtain ⟨source, _, hsource⟩ := exists_mem_of_forall₂ (toTable_eq_ok_iff.mp h).1 hmem
  rw [references_of_toColumn_eq_ok hsource] at hreference
  obtain ⟨key, hkey, rfl⟩ := Option.map_eq_some_iff.mp hreference
  exact ⟨key, List.mem_of_find?_eq_some hkey, rfl⟩

/-- Mapped tables keep their names and their order. -/
theorem map_name_of_mapM_toTable_eq_ok {answers : List CatalogTable} {tables : List Table}
    (h : answers.mapM (·.toTable namespaceName) = .ok tables) :
    tables.map (·.name) = answers.map (·.name) := by
  have hall := forall₂_of_mapM_eq_ok h
  clear h
  induction hall with
  | nil => rfl
  | cons hfirst _ ih =>
      rw [List.map_cons, List.map_cons, ih, (toTable_eq_ok_iff.mp hfirst).2.1]

end CatalogTable

namespace Table.Discovered

variable {table : Table}

theorem linksReferences (h : table.Discovered) : table.LinksReferences := by
  obtain ⟨_, _, hfound, _⟩ := h
  exact CatalogTable.linksReferences_of_toTable_eq_ok hfound

theorem table_ne_empty (h : table.Discovered) {column : Column} (hmem : column ∈ table.columns)
    {reference : Reference} (hreference : column.references = some reference) :
    reference.table ≠ "" := by
  obtain ⟨namespaceName, found, hfound, hnamed⟩ := h
  obtain ⟨key, hkey, hname⟩ :=
    CatalogTable.exists_key_of_references_eq_some hfound hmem hreference
  exact hname ▸ key.referencedName_ne_empty (hnamed key hkey) namespaceName

end Table.Discovered

end SyntheticRows
