import SyntheticRows.Proofs.Elementwise
import SyntheticRows.Proofs.NameMap
import SyntheticRows.Proofs.Plan.Shape
import SyntheticRows.Proofs.Store.Oblivious
import SyntheticRows.Store.Memory
/-!
# A store in memory does not look at values

The shape of a memory table is what is left without its values: its columns, its counter and, for
each row, which columns it has a value for. Inserts and samples act on shapes, so stores whose
tables have the same shapes answer alike.
-/

namespace SyntheticRows

namespace NameMap

variable {α : Type}

/-- Which names have a value. -/
def holds (map : NameMap α) (name : String) : Bool :=
  (map.get? name).isSome

theorem holds_insert (map : NameMap α) (name : String) (value : α) :
    (map.insert name value).holds = fun other => other == name || map.holds other := by
  funext other
  rw [holds, get?_insert]
  by_cases heq : other = name <;> simp [heq, holds]

theorem holds_insertIfNew (map : NameMap α) (name : String) (value : α) :
    (map.insertIfNew name value).holds = fun other => other == name || map.holds other := by
  funext other
  rw [holds, get?_insertIfNew]
  by_cases heq : other = name <;> simp [heq, holds]

end NameMap

namespace MemoryTable

structure Shape where
  columns : List String
  sequenceColumns : List String
  nextId : Nat
  rows : List (String → Bool)

def shape (table : MemoryTable) : Shape :=
  { columns := table.columns, sequenceColumns := table.sequenceColumns, nextId := table.nextId
    rows := table.rows.toList.map (·.holds) }

variable {table table' : MemoryTable} {row row' : Row} {values values' : List String}

theorem holds_bind_congr (h : table.shape = table'.shape) (name : String)
    (bindings : List ColumnBinding) (hvalues : values.length = values'.length)
    (hrow : row.holds = row'.holds) :
    (table.bind name bindings values row).map NameMap.holds =
      (table'.bind name bindings values' row').map NameMap.holds := by
  have hcolumns : table.columns = table'.columns := congrArg Shape.columns h
  induction bindings generalizing values values' row row' with
  | nil => simp only [bind, Except.map, hrow]
  | cons binding bindings ih =>
      cases values with
      | nil =>
          obtain rfl := List.eq_nil_of_length_eq_zero hvalues.symm
          simp only [bind, Except.map, hrow]
      | cons value values =>
          obtain ⟨value', values', rfl⟩ := List.exists_cons_of_length_eq_add_one hvalues.symm
          unfold bind
          rw [hcolumns]
          split
          · refine ih (Nat.succ.inj hvalues) ?_
            rw [NameMap.holds_insert, NameMap.holds_insert, hrow]
          · rfl

theorem holds_number_congr (h : table.shape = table'.shape) (hrow : row.holds = row'.holds) :
    (table.number row).holds = (table'.number row').holds := by
  have hcolumns : table.sequenceColumns = table'.sequenceColumns :=
    congrArg Shape.sequenceColumns h
  unfold number
  rw [hcolumns]
  generalize table'.sequenceColumns = columns
  induction columns generalizing row row' with
  | nil => exact hrow
  | cons column columns ih =>
      refine ih ?_
      rw [NameMap.holds_insertIfNew, NameMap.holds_insertIfNew, hrow]

theorem shape_append_congr (h : table.shape = table'.shape) (hrow : row.holds = row'.holds) :
    (table.append row).shape = (table'.append row').shape := by
  simp only [shape, Shape.mk.injEq] at h
  obtain ⟨hcolumns, hsequence, hnext, hrows⟩ := h
  simp only [shape, append, Array.toList_push, List.map_append, List.map_cons, List.map_nil,
    hcolumns, hsequence, hnext, hrows, hrow]

theorem shape_insert_congr (h : table.shape = table'.shape) (name : String)
    (bindings : List ColumnBinding) (hvalues : values.length = values'.length) :
    (table.insert name bindings values).map shape =
      (table'.insert name bindings values').map shape := by
  have hempty : (.empty : Row).holds = (.empty : Row).holds := rfl
  have hbind := holds_bind_congr h name bindings hvalues hempty
  unfold insert
  rw [hvalues]
  split
  · rfl
  · rcases error_or_ok_of_map_eq_map hbind with
      ⟨cause, hrow, hrow'⟩ | ⟨row, row', hrow, hrow', hholds⟩
    · rw [hrow, hrow']
      rfl
    · rw [hrow, hrow']
      exact congrArg Except.ok (shape_append_congr h (holds_number_congr h hholds))

theorem values_eq_nil_iff_shape (table : MemoryTable) (column : String) :
    table.values column = [] ↔ ∀ row ∈ table.shape.rows, row column = false := by
  simp [values, shape, NameMap.holds, List.filterMap_eq_nil_iff]

end MemoryTable

namespace MemoryStore

/-- Stores with tables of the same names and shapes. -/
def Alike (left right : MemoryStore) : Prop :=
  ∀ name, (left.tables.get? name).map MemoryTable.shape =
    (right.tables.get? name).map MemoryTable.shape

variable {left right : MemoryStore}

theorem Alike.cases (h : left.Alike right) (name : String) :
    (left.tables.get? name = none ∧ right.tables.get? name = none) ∨
      ∃ table table', left.tables.get? name = some table ∧
        right.tables.get? name = some table' ∧ table.shape = table'.shape := by
  have hname := h name
  cases hleft : left.tables.get? name <;> cases hright : right.tables.get? name <;>
    rw [hleft, hright] at hname
  · exact .inl ⟨rfl, rfl⟩
  · cases hname
  · cases hname
  · exact .inr ⟨_, _, rfl, rfl, Option.some.inj hname⟩

theorem Alike.insert (h : left.Alike right) (name : String) {table table' : MemoryTable}
    (hshape : table.shape = table'.shape) :
    Alike { left with tables := left.tables.insert name table }
      { right with tables := right.tables.insert name table' } := by
  intro other
  rw [NameMap.get?_insert, NameMap.get?_insert]
  split
  · exact congrArg some hshape
  · exact h other

theorem insertRow_alike (h : left.Alike right) (table : String) (bindings : List ColumnBinding)
    {values values' : List String} (hvalues : values.length = values'.length)
    (stream stream' : RandomStream) :
    (insertRow table bindings values left stream).Alike Alike id
      (insertRow table bindings values' right stream') := by
  unfold insertRow
  rcases h.cases table with ⟨hleft, hright⟩ | ⟨found, found', hleft, hright, hshape⟩
  · rw [hleft, hright]
    exact ⟨rfl, h, rfl⟩
  · have hinsert := MemoryTable.shape_insert_congr hshape table bindings hvalues
    simp only [hleft, hright]
    rcases error_or_ok_of_map_eq_map hinsert with
      ⟨cause, hchanged, hchanged'⟩ | ⟨changed, changed', hchanged, hchanged', hshapes⟩
    · simp only [hchanged, hchanged']
      exact ⟨rfl, h, rfl⟩
    · simp only [hchanged, hchanged']
      exact ⟨rfl, h.insert table hshapes, rfl⟩

theorem sampleKey_alike (h : left.Alike right) (table column : String)
    (stream stream' : RandomStream) :
    (sampleKey table column left stream).Alike Alike Option.isSome
      (sampleKey table column right stream') := by
  unfold sampleKey
  rcases h.cases table with ⟨hleft, hright⟩ | ⟨found, found', hleft, hright, hshape⟩
  · rw [hleft, hright]
    exact ⟨rfl, h, rfl⟩
  · have hcolumns : found.columns = found'.columns := congrArg MemoryTable.Shape.columns hshape
    have hempty : found.values column = [] ↔ found'.values column = [] := by
      rw [MemoryTable.values_eq_nil_iff_shape, MemoryTable.values_eq_nil_iff_shape, hshape]
    simp only [hleft, hright, hcolumns]
    split
    · exact ⟨rfl, h, rfl⟩
    · cases hvalues : found.values column with
      | nil =>
          rw [hempty.mp hvalues]
          exact ⟨rfl, h, rfl⟩
      | cons first rest =>
          -- Each side picks one of its own values, at its own place in its own stream.
          obtain ⟨first', rest', hvalues'⟩ := List.exists_cons_of_ne_nil
            (mt hempty.mpr (by rw [hvalues]; exact List.cons_ne_nil first rest))
          rw [hvalues']
          exact ⟨rfl, h, rfl⟩

theorem rowStore_oblivious : rowStore.Oblivious Alike :=
  ⟨fun table columns _ _ _ _ stream stream' hvalues h =>
      insertRow_alike h table columns hvalues stream stream',
    fun table column _ _ stream stream' h => sampleKey_alike h table column stream stream'⟩

end MemoryStore

/-! ### Stores without rows -/

theorem MemoryTable.ofTable_congr {table table' : PlannedTable}
    (h : table.toTable = table'.toTable) : ofTable table = ofTable table' := by
  have hofTable : ∀ table : PlannedTable, ofTable table =
      { columns := table.toTable.columns.map (·.name)
        sequenceColumns := (table.toTable.columns.filter fun column =>
          column.autoGenerated || table.toTable.primaryKey.contains column.name).map (·.name)
        nextId := 1
        rows := #[] } := by
    intro table
    simp only [ofTable, PlannedTable.toTable, List.filter_map, List.map_map]
    rfl
  rw [hofTable, hofTable, h]

/-- A store without rows depends on what the tables keep of the schema and on nothing else. -/
theorem MemoryStore.ofTables_congr {tables tables' : List PlannedTable}
    (h : tables.map (·.toTable) = tables'.map (·.toTable)) :
    ofTables tables = ofTables tables' := by
  unfold ofTables
  generalize empty = store
  induction forall₂_of_map_eq_map h generalizing store with
  | nil => rfl
  | @cons table table' tables tables' htable _ ih =>
      have hname : table.name = table'.name := congrArg Table.name htable
      have hregister : store.register table = store.register table' := by
        rw [register, register, MemoryTable.ofTable_congr htable, hname]
      rw [List.foldl_cons, List.foldl_cons, hregister]
      exact ih (List.cons_eq_cons.mp h).2 _

end SyntheticRows
