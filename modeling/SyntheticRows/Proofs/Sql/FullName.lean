import SyntheticRows.Catalog.Table
import SyntheticRows.Proofs.Text.Cut
import SyntheticRows.Proofs.Text.InQuotes
import SyntheticRows.Sql.Statement
/-!
# Which table a name stands for

The full name of a table is its namespace and its own name, each in quotes, and tells both. Tables of
other namespaces are recorded with the namespace and a point in front, and statements cut names at
the first point. So the two agree exactly as long as that point is the one that was put there: a
point inside the name of a table of the configured namespace, or inside a namespace, moves the cut.
-/

namespace SyntheticRows

open Text

namespace Sql

def fullName (namespaceName table : List Char) : List Char :=
  inQuotes namespaceName ++ '.' :: inQuotes table

/-- Reads a full name at the beginning of a text. -/
def fullName? (text : List Char) : Option ((List Char × List Char) × List Char) := do
  let (namespaceName, text) ← quotedName? text
  let text ← after? ['.'] text
  let (table, text) ← quotedName? text
  some ((namespaceName, table), text)

variable {namespaceName namespaceName' table table' text rest : List Char}

theorem fullName?_eq_some_iff :
    fullName? text = some ((namespaceName, table), rest) ↔
      text = fullName namespaceName table ++ rest ∧ rest.head? ≠ some '"' := by
  unfold fullName? fullName
  simp only [Option.bind_eq_bind, Option.bind_eq_some_iff, Prod.exists, quotedName?_eq_some_iff,
    after?_eq_some_iff, Option.some.injEq, Prod.mk.injEq]
  constructor
  · rintro ⟨_, _, ⟨rfl, -⟩, _, rfl, _, _, ⟨rfl, hrest⟩, ⟨rfl, rfl⟩, rfl⟩
    exact ⟨by simp, hrest⟩
  · rintro ⟨rfl, hrest⟩
    refine ⟨_, '.' :: (inQuotes table ++ rest), ⟨by simp, by simp⟩, _, rfl, _, _, ⟨rfl, hrest⟩,
      ⟨rfl, rfl⟩, rfl⟩

theorem fullName_inj :
    fullName namespaceName table = fullName namespaceName' table' ↔
      namespaceName = namespaceName' ∧ table = table' := by
  constructor
  · intro h
    have hread : fullName? (fullName namespaceName table) = some ((namespaceName, table), []) :=
      fullName?_eq_some_iff.mpr ⟨(List.append_nil _).symm, by simp⟩
    have hread' : fullName? (fullName namespaceName' table') =
        some ((namespaceName', table'), []) :=
      fullName?_eq_some_iff.mpr ⟨(List.append_nil _).symm, by simp⟩
    rw [h, hread'] at hread
    simpa [eq_comm] using hread
  · rintro ⟨rfl, rfl⟩
    rfl

theorem qualifiedName_of_notMem (h : '.' ∉ table) :
    qualifiedName namespaceName table = fullName namespaceName table := by
  rw [qualifiedName, cutFirst_eq_none_iff.mpr h]
  rfl

/-- A name stands for a table of another namespace where the first point sets that namespace off,
and for one of the configured namespace where there is no point. -/
theorem qualifiedName_eq_fullName_iff {name : List Char} :
    qualifiedName namespaceName name = fullName namespaceName' table' ↔
      (name = namespaceName' ++ '.' :: table' ∧ '.' ∉ namespaceName') ∨
        ('.' ∉ name ∧ namespaceName = namespaceName' ∧ name = table') := by
  cases hcut : cutFirst '.' name with
  | none =>
      have hpoint : '.' ∉ name := cutFirst_eq_none_iff.mp hcut
      have hother : ¬(name = namespaceName' ++ '.' :: table' ∧ '.' ∉ namespaceName') := by
        rintro ⟨rfl, -⟩
        exact hpoint (List.mem_append_right _ List.mem_cons_self)
      rw [qualifiedName_of_notMem hpoint, fullName_inj, or_iff_right hother, and_iff_right hpoint]
  | some cut =>
      obtain ⟨front, back⟩ := cut
      obtain ⟨hname, hfront⟩ := cutFirst_eq_some_iff.mp hcut
      have hpoint : '.' ∈ name := by simp [hname]
      have hown : ¬('.' ∉ name ∧ namespaceName = namespaceName' ∧ name = table') :=
        fun ⟨hnone, _⟩ => hnone hpoint
      have hqualified : qualifiedName namespaceName name = fullName front back := by
        rw [qualifiedName, hcut]
        rfl
      rw [hqualified, fullName_inj, or_iff_left hown, ← cutFirst_eq_some_iff, hcut,
        Option.some.injEq, Prod.mk.injEq]

end Sql

open Sql

theorem CatalogForeignKey.toList_referencedName (namespaceName : String)
    (key : CatalogForeignKey) :
    (key.referencedName namespaceName).toList =
      if key.referencedSchema = namespaceName then key.referencedTable.toList
      else key.referencedSchema.toList ++ '.' :: key.referencedTable.toList := by
  unfold referencedName
  split
  · rfl
  · simp [toString]

/-- **Names stand for their tables up to points.** In statements the name of a table of the
configured namespace stands for this table exactly if it has no point. The name that is recorded for
a referenced table stands for that table exactly if the table's own name has no point, or, in another
namespace, if the name of that namespace has none. -/
theorem names_stand_for_tables_iff (namespaceName table : String) (key : CatalogForeignKey) :
    (qualifiedName namespaceName.toList table.toList =
        fullName namespaceName.toList table.toList ↔ '.' ∉ table.toList) ∧
    (qualifiedName namespaceName.toList (key.referencedName namespaceName).toList =
        fullName key.referencedSchema.toList key.referencedTable.toList ↔
      if key.referencedSchema = namespaceName then '.' ∉ key.referencedTable.toList
      else '.' ∉ key.referencedSchema.toList) := by
  have hlonger : ∀ front name : List Char, name ≠ front ++ '.' :: name := by
    intro front name h
    have hlength := congrArg List.length h
    simp only [List.length_append, List.length_cons] at hlength
    omega
  constructor
  · rw [qualifiedName_eq_fullName_iff]
    simp [hlonger]
  · rw [qualifiedName_eq_fullName_iff, key.toList_referencedName]
    split
    next hsame => simp [hsame, hlonger]
    next hother => simp

/-- Order items of the configured namespace are taken for the items of a namespace of orders. -/
theorem pointed_name_stands_for_other_table :
    ¬∀ (namespaceName table : String) (key : CatalogForeignKey), namespaceName ≠ "" → table ≠ "" →
      key.referencedSchema ≠ "" → key.referencedTable ≠ "" →
      qualifiedName namespaceName.toList table.toList =
          fullName namespaceName.toList table.toList ∧
        qualifiedName namespaceName.toList (key.referencedName namespaceName).toList =
          fullName key.referencedSchema.toList key.referencedTable.toList := by
  intro h
  obtain ⟨hown, -⟩ := h "public" "order.items" ⟨"stock_item_fkey", "item_id", "public", "users", "id"⟩
    (by decide) (by decide) (by decide) (by decide)
  revert hown
  decide

end SyntheticRows
