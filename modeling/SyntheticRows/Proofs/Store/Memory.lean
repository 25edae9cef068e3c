import SyntheticRows.Proofs.NameMap
import SyntheticRows.Proofs.Population.Trace
import SyntheticRows.Proofs.Random.Draw
import SyntheticRows.Store.Memory
/-!
# What the store in memory does

An insert leaves the store alone or appends one row to one table; a sample leaves it alone and
answers a value that is there. So no value is ever lost, also behind a store that keeps calls back.
-/

namespace SyntheticRows

variable {σ τ : Type}

/-- The outer store passes a call on to the inner one, or leaves that one alone and fails the call
or, asked for a sample, has none. -/
structure RowStore.Intercepts (f : σ → τ) (outer : RowStore σ) (inner : RowStore τ) : Prop where
  insertRow : ∀ table bindings values state stream,
    let reply := outer.insertRow table bindings values state stream
    let passed := inner.insertRow table bindings values (f state) stream
    (reply.answer = passed.answer ∧ f reply.store = passed.store) ∨
      (∃ cause, reply.answer = .error cause) ∧ f reply.store = f state
  sampleKey : ∀ table column state stream,
    let reply := outer.sampleKey table column state stream
    let passed := inner.sampleKey table column (f state) stream
    (reply.answer = passed.answer ∧ f reply.store = passed.store) ∨
      (∀ value, reply.answer ≠ .ok (some value)) ∧ f reply.store = f state

theorem RowStore.intercepts_self (store : RowStore σ) : Intercepts id store store :=
  ⟨fun _ _ _ _ _ => .inl ⟨rfl, rfl⟩, fun _ _ _ _ => .inl ⟨rfl, rfl⟩⟩

namespace MemoryTable

variable {table : MemoryTable} {name : String} {bindings : List ColumnBinding}
  {values : List String} {row bound : Row}

/-- Numbering supplies the sequence columns that have no value and changes nothing else. -/
theorem get?_number (table : MemoryTable) (row : Row) (column : String) :
    (table.number row).get? column =
      if column ∈ table.sequenceColumns then some ((row.get? column).getD (toString table.nextId))
      else row.get? column := by
  unfold number
  induction table.sequenceColumns generalizing row with
  | nil => simp
  | cons first columns ih =>
      rw [List.foldl_cons, ih, NameMap.get?_insertIfNew]
      by_cases hfirst : column = first
      · simp [hfirst]
      · simp [hfirst]

theorem get?_bind_of_notMem (h : table.bind name bindings values row = .ok bound) {column : String}
    (hfresh : column ∉ bindings.map (·.name)) : bound.get? column = row.get? column := by
  induction bindings generalizing values row with
  | nil =>
      simp only [bind, Except.ok.injEq] at h
      rw [h]
  | cons binding bindings ih =>
      rw [List.map_cons, List.mem_cons, not_or] at hfresh
      cases values with
      | nil =>
          simp only [bind, Except.ok.injEq] at h
          rw [h]
      | cons value values =>
          unfold bind at h
          split at h
          · rw [ih h hfresh.2, NameMap.get?_insert, if_neg hfresh.1]
          · cases h

/-- A bound row has each value under the name of its binding. -/
theorem get?_bind_of_mem_zip (h : table.bind name bindings values row = .ok bound)
    (hnodup : (bindings.map (·.name)).Nodup) {binding : ColumnBinding} {value : String}
    (hmem : (binding, value) ∈ bindings.zip values) : bound.get? binding.name = some value := by
  induction bindings generalizing values row with
  | nil => simp at hmem
  | cons first bindings ih =>
      rw [List.map_cons, List.nodup_cons] at hnodup
      cases values with
      | nil => simp at hmem
      | cons head values =>
          unfold bind at h
          split at h
          · rw [List.zip_cons_cons, List.mem_cons, Prod.mk.injEq] at hmem
            rcases hmem with ⟨rfl, rfl⟩ | hmem
            · rw [get?_bind_of_notMem h hnodup.1, NameMap.get?_insert, if_pos rfl]
            · exact ih h hnodup.2 hmem
          · cases h

/-- A row that is inserted is bound and numbered. -/
theorem exists_bind_of_insert_eq_ok {changed : MemoryTable}
    (h : table.insert name bindings values = .ok changed) :
    bindings.length = values.length ∧ ∃ row, table.bind name bindings values .empty = .ok row ∧
      changed = table.append (table.number row) := by
  unfold insert at h
  by_cases haligned : bindings.length = values.length
  · rw [if_neg (not_not_intro haligned)] at h
    cases hbound : table.bind name bindings values .empty with
    | error cause => simp [hbound, Bind.bind, Except.bind] at h
    | ok row =>
        simp only [hbound, Bind.bind, Except.bind, Except.ok.injEq] at h
        exact ⟨haligned, row, rfl, h.symm⟩
  · rw [if_pos haligned] at h
    cases h

end MemoryTable

namespace MemoryStore

variable {store after : MemoryStore} {stream stream' : RandomStream} {table : String}
  {bindings : List ColumnBinding} {values : List String}

/-- Some row of a table has the value in the column. -/
def Holds (store : MemoryStore) (key : ReferenceKey) (value : String) : Prop :=
  ∃ row ∈ store.rows key.table, row.get? key.column = some value

theorem rows_of_get?_eq_some {found : MemoryTable} (h : store.tables.get? table = some found) :
    store.rows table = found.rows.toList := by
  rw [rows, h]

def appendRow (store : MemoryStore) (name : String) (table : MemoryTable) (row : Row) :
    MemoryStore :=
  { tables := store.tables.insert name (table.append (table.number row)) }

/-- What an insert may do to the store, with the answer. -/
inductive Insertion (store : MemoryStore) (table : String) (bindings : List ColumnBinding)
    (values : List String) : Except StoreError Unit → MemoryStore → Prop where
  | refused (cause : StoreError) : Insertion store table bindings values (.error cause) store
  | appended {found : MemoryTable} {row : Row} (registered : store.tables.get? table = some found)
      (aligned : bindings.length = values.length)
      (bound : found.bind table bindings values .empty = .ok row) :
      Insertion store table bindings values (.ok ()) (store.appendRow table found row)

theorem insertion_insertRow (table : String) (bindings : List ColumnBinding) (values : List String)
    (store : MemoryStore) (stream : RandomStream) :
    Insertion store table bindings values (insertRow table bindings values store stream).answer
      (insertRow table bindings values store stream).store := by
  unfold insertRow
  cases hfound : store.tables.get? table with
  | none => exact .refused _
  | some found =>
      cases hinsert : found.insert table bindings values with
      | error cause =>
          simp only [hinsert]
          exact .refused cause
      | ok changed =>
          obtain ⟨haligned, row, hbound, rfl⟩ := MemoryTable.exists_bind_of_insert_eq_ok hinsert
          simp only [hinsert]
          exact .appended hfound haligned hbound

theorem get?_appendRow (store : MemoryStore) (name : String) (table : MemoryTable) (row : Row)
    (other : String) :
    (store.appendRow name table row).tables.get? other =
      if other = name then some (table.append (table.number row))
      else store.tables.get? other :=
  NameMap.get?_insert store.tables name other (table.append (table.number row))

/-- A value that is there stays there. -/
theorem Insertion.holds {answer : Except StoreError Unit}
    (h : Insertion store table bindings values answer after) (key : ReferenceKey) (value : String)
    (hholds : store.Holds key value) : after.Holds key value := by
  cases h with
  | refused cause => exact hholds
  | @appended found row registered aligned bound =>
      obtain ⟨held, hmem, hvalue⟩ := hholds
      refine ⟨held, ?_, hvalue⟩
      unfold rows at hmem ⊢
      rw [get?_appendRow]
      by_cases htable : key.table = table
      · rw [htable, registered] at hmem
        simp only [if_pos htable, MemoryTable.append, Array.toList_push]
        exact List.mem_append_left _ hmem
      · rwa [if_neg htable]

/-- A sample answers without a change of the store, and only with a value that is there. -/
theorem sampleKey_spec (key : ReferenceKey) (store : MemoryStore) (stream : RandomStream) :
    (sampleKey key.table key.column store stream).store = store ∧
      ∀ value, (sampleKey key.table key.column store stream).answer = .ok (some value) →
        store.Holds key value := by
  unfold sampleKey
  cases hfound : store.tables.get? key.table with
  | none => simp
  | some found =>
      by_cases hcolumn : key.column ∈ found.columns
      · cases hvalues : found.values key.column with
        | nil => simp [hcolumn, hvalues]
        | cons first rest =>
            have hmem : (Draw.pickText (first :: rest) stream).1 ∈ found.values key.column := by
              rw [hvalues]
              exact Draw.pickText_mem (List.cons_ne_nil first rest) stream
            obtain ⟨row, hrow, hvalue⟩ := List.mem_filterMap.mp hmem
            have hholds : store.Holds key (Draw.pickText (first :: rest) stream).1 :=
              ⟨row, by simpa [rows, hfound] using hrow, hvalue⟩
            rcases hpick : Draw.pickText (first :: rest) stream with ⟨value, later⟩
            rw [hpick] at hholds
            simpa [hcolumn, hvalues, hpick] using hholds
      · simp [hcolumn]

/-- Over a store in front of this one, a step is an insertion, or it inserts nothing and samples only
what is there. -/
theorem insertion_or_unchanged_of_intercepts {f : σ → MemoryStore} {outer : RowStore σ}
    (h : RowStore.Intercepts f outer rowStore) {state state' : σ} {step : Step}
    (hoccurs : Occurs outer (state, stream) step (state', stream')) :
    (∃ table bindings values answer, step = .inserted table bindings values answer ∧
      Insertion (f state) table bindings values answer (f state')) ∨
    (f state' = f state ∧
      (∀ table bindings values answer, step ≠ .inserted table bindings values answer) ∧
      ∀ key value, step = .sampled key (.ok (some value)) → (f state).Holds key value) := by
  generalize hfirst : (state, stream) = first at hoccurs
  generalize hlast : (state', stream') = last at hoccurs
  cases hoccurs with
  | drew generator =>
      cases hfirst
      cases hlast
      exact .inr ⟨rfl, by simp, by simp⟩
  | sampled key =>
      cases hfirst
      cases hlast
      obtain ⟨hstore, hheld⟩ := sampleKey_spec key (f state) stream
      rcases h.sampleKey key.table key.column state stream with ⟨hanswer, hpassed⟩ | ⟨hnone, hkept⟩
      · refine .inr ⟨hpassed.trans hstore, by simp, fun other value heq => ?_⟩
        obtain ⟨rfl, hvalue⟩ := Step.sampled.inj heq
        exact hheld value (hanswer.symm.trans hvalue)
      · refine .inr ⟨hkept, by simp, fun other value heq => ?_⟩
        exact absurd (Step.sampled.inj heq).2 (hnone value)
  | inserted table bindings values =>
      cases hfirst
      cases hlast
      have hpassed := insertion_insertRow table bindings values (f state) stream
      refine .inl ⟨table, bindings, values, _, rfl, ?_⟩
      rcases h.insertRow table bindings values state stream with
        ⟨hanswer, hstore⟩ | ⟨⟨cause, hcause⟩, hkept⟩
      · exact hanswer ▸ hstore ▸ hpassed
      · rw [hcause]
        exact hkept ▸ .refused cause

theorem insertion_or_unchanged_of_occurs {step : Step}
    (h : Occurs rowStore (store, stream) step (after, stream')) :
    (∃ table bindings values answer, step = .inserted table bindings values answer ∧
      Insertion store table bindings values answer after) ∨
    (after = store ∧ ∀ key value, step = .sampled key (.ok (some value)) →
      store.Holds key value) :=
  (insertion_or_unchanged_of_intercepts rowStore.intercepts_self h).imp_right fun hother =>
    ⟨hother.1, hother.2.2⟩

theorem get?_foldl_register_of_notMem {planned : List PlannedTable} {name : String}
    (hfresh : name ∉ planned.map (·.name)) (store : MemoryStore) :
    (planned.foldl register store).tables.get? name = store.tables.get? name := by
  induction planned generalizing store with
  | nil => rfl
  | cons first planned ih =>
      rw [List.map_cons, List.mem_cons, not_or] at hfresh
      rw [List.foldl_cons, ih hfresh.2, register, NameMap.get?_insert, if_neg hfresh.1]

/-- A store for tables of different names starts with each of them, without rows. -/
theorem get?_ofTables {planned : List PlannedTable} (hnodup : (planned.map (·.name)).Nodup)
    {table : PlannedTable} (hmem : table ∈ planned) :
    (ofTables planned).tables.get? table.name = some (.ofTable table) := by
  unfold ofTables
  generalize empty = store
  induction planned generalizing store with
  | nil => cases hmem
  | cons first planned ih =>
      rw [List.map_cons, List.nodup_cons] at hnodup
      rw [List.foldl_cons]
      rcases List.mem_cons.mp hmem with rfl | hmem
      · rw [get?_foldl_register_of_notMem hnodup.1, register, NameMap.get?_insert, if_pos rfl]
      · exact ih hnodup.2 hmem (store.register first)

end MemoryStore

end SyntheticRows
