import SyntheticRows.Population.DryRun
import SyntheticRows.Proofs.Plan.Shape
import SyntheticRows.Proofs.Population.Blocks
import SyntheticRows.Proofs.Store.Memory
/-!
# Stores that runs fill stay sound

A stored row has its values from two places. The columns that inserts name have a value from their
source, and a sampled value stays in the column that it was taken from. The other columns have the
number of the row or nothing. One insertion keeps this true of all rows, so a whole run does.
-/

namespace SyntheticRows.Population

open MemoryStore

variable {tables : List PlannedTable} {table : PlannedTable} {column : PlannedColumn}
  {store after : MemoryStore} {stream stream' : RandomStream} {sources : List ValueSource}
  {values : List String}

/-! ### What a sound store is -/

/-- Where the values of a stored row come from. -/
structure SoundRow (tables : List PlannedTable) (store : MemoryStore) (table : PlannedTable)
    (index : Nat) (row : Row) : Prop where
  supplied : ∀ column ∈ table.insertColumns, ∃ source value,
    SuppliedBy tables table column source ∧ row.get? column.name = some value ∧
      ∀ key, source = .referenced key → store.Holds key value
  numbered : ∀ column ∈ table.columns, table.inserts column = false →
    row.get? column.name =
      if MemoryTable.isSequenceColumn table column then some (toString (index + 1)) else none

structure SoundTable (tables : List PlannedTable) (store : MemoryStore) (table : PlannedTable)
    (found : MemoryTable) : Prop where
  sequenceColumns : found.sequenceColumns = (MemoryTable.ofTable table).sequenceColumns
  nextId : found.nextId = found.rows.toList.length + 1
  rows : ∀ index row, found.rows.toList[index]? = some row →
    SoundRow tables store table index row

def SoundStore (tables : List PlannedTable) (store : MemoryStore) : Prop :=
  ∀ table ∈ tables, ∃ found, store.tables.get? table.name = some found ∧
    SoundTable tables store table found

theorem SoundRow.mono {index : Nat} {row : Row} (h : SoundRow tables store table index row)
    (hholds : ∀ key value, store.Holds key value → after.Holds key value) :
    SoundRow tables after table index row := by
  refine ⟨fun column hmem => ?_, h.numbered⟩
  obtain ⟨source, value, hsource, hvalue, hheld⟩ := h.supplied column hmem
  exact ⟨source, value, hsource, hvalue, fun key heq => hholds key value (hheld key heq)⟩

theorem SoundStore.soundRow {index : Nat} {row : Row} (h : SoundStore tables store)
    (hmem : table ∈ tables) (hrow : (store.rows table.name)[index]? = some row) :
    SoundRow tables store table index row := by
  obtain ⟨found, hfound, hsound⟩ := h table hmem
  rw [rows_of_get?_eq_some hfound] at hrow
  exact hsound.rows index row hrow

/-- A store without rows is sound. -/
theorem soundStore_ofTables (hnames : DistinctNames tables) :
    SoundStore tables (.ofTables tables) := by
  intro table hmem
  refine ⟨.ofTable table, get?_ofTables hnames.tableNames hmem, rfl, rfl, ?_⟩
  intro index row hrow
  cases hrow

/-! ### A row that is inserted -/

theorem bindings_map_name (table : PlannedTable) :
    (table.insertColumns.map (·.binding)).map (·.name) = table.insertColumns.map (·.name) := by
  rw [List.map_map]
  rfl

/-- The values of an attempt stand beside the sources and beside the bindings. -/
theorem exists_mem_zip_of_supplied {columns : List PlannedColumn}
    (hsupplied : List.Forall₂ (SuppliedBy tables table) columns sources)
    (hlength : values.length = sources.length) (hmem : column ∈ columns) :
    ∃ source value, SuppliedBy tables table column source ∧
      (source, value) ∈ sources.zip values ∧
      (column.binding, value) ∈ (columns.map (·.binding)).zip values := by
  induction hsupplied generalizing values with
  | nil => cases hmem
  | @cons first source columns sources hfirst _ ih =>
      cases values with
      | nil => cases hlength
      | cons value values =>
          rcases List.mem_cons.mp hmem with rfl | hmem
          · exact ⟨source, value, hfirst, List.mem_cons_self, List.mem_cons_self⟩
          · obtain ⟨source, value, hsource, hzip, hbinding⟩ :=
              ih (Nat.succ.inj hlength) hmem
            exact ⟨source, value, hsource, List.mem_cons_of_mem _ hzip,
              List.mem_cons_of_mem _ hbinding⟩

theorem soundRow_number {found : MemoryTable} {row : Row} (hnames : DistinctNames tables)
    (hmem : table ∈ tables) (hfound : SoundTable tables store table found)
    (hsupplied : List.Forall₂ (SuppliedBy tables table) table.insertColumns sources)
    (hlength : values.length = sources.length)
    (hheld : ∀ key value, (.referenced key, value) ∈ sources.zip values → store.Holds key value)
    (hbound : found.bind table.name (table.insertColumns.map (·.binding)) values .empty =
      .ok row) :
    SoundRow tables store table found.rows.toList.length (found.number row) := by
  constructor
  · intro column hcolumn
    obtain ⟨source, value, hsource, hzip, hbinding⟩ :=
      exists_mem_zip_of_supplied hsupplied hlength hcolumn
    have hnodup : ((table.insertColumns.map (·.binding)).map (·.name)).Nodup := by
      rw [bindings_map_name]
      exact (List.filter_sublist.map _).nodup (hnames.columnNames table hmem)
    have hrow : row.get? column.name = some value :=
      MemoryTable.get?_bind_of_mem_zip hbound hnodup hbinding
    refine ⟨source, value, hsource, ?_, fun key heq => hheld key value (heq ▸ hzip)⟩
    rw [MemoryTable.get?_number, hrow, Option.getD_some, ite_self]
  · intro column hcolumn hinserts
    have hfresh : column.name ∉ (table.insertColumns.map (·.binding)).map (·.name) := by
      rw [bindings_map_name, PlannedTable.insertColumns, hnames.name_mem_filter_iff hmem hcolumn,
        hinserts]
      exact Bool.false_ne_true
    rw [MemoryTable.get?_number, MemoryTable.get?_bind_of_notMem hbound hfresh, hfound.nextId,
      hfound.sequenceColumns, MemoryTable.ofTable]
    simp only [hnames.name_mem_filter_iff hmem hcolumn, NameMap.get?_empty, Option.getD_none]

/-- An insertion of sampled values keeps the store sound. -/
theorem SoundStore.insertion {answer : Except StoreError Unit} (h : SoundStore tables store)
    (hnames : DistinctNames tables) (hmem : table ∈ tables)
    (hsupplied : List.Forall₂ (SuppliedBy tables table) table.insertColumns sources)
    (hlength : values.length = sources.length)
    (hheld : ∀ key value, (.referenced key, value) ∈ sources.zip values → store.Holds key value)
    (hinsertion : Insertion store table.name (table.insertColumns.map (·.binding)) values answer
      after) :
    SoundStore tables after := by
  have hholds := hinsertion.holds
  cases hinsertion with
  | refused cause => exact h
  | @appended found row registered aligned bound =>
      intro other hother
      obtain ⟨found', hfound', hsound⟩ := h other hother
      rw [get?_appendRow]
      by_cases hname : other.name = table.name
      · obtain rfl := hnames.table_eq hother hmem hname
        obtain rfl : found = found' := Option.some.inj (registered.symm.trans hfound')
        rw [if_pos rfl]
        have hnew := soundRow_number hnames hmem hsound hsupplied hlength hheld bound
        refine ⟨_, rfl, hsound.sequenceColumns, ?_, ?_⟩
        · simp [MemoryTable.append, hsound.nextId]
        · intro index stored hstored
          rw [MemoryTable.append, Array.toList_push] at hstored
          rcases Nat.lt_or_ge index found.rows.toList.length with hlt | hge
          · rw [List.getElem?_append_left hlt] at hstored
            exact (hsound.rows index stored hstored).mono hholds
          · rw [List.getElem?_append_right hge, List.getElem?_singleton] at hstored
            have hindex : index = found.rows.toList.length := by
              by_contra hne
              rw [if_neg (by omega)] at hstored
              cases hstored
            subst hindex
            rw [if_pos (Nat.sub_self _)] at hstored
            obtain rfl := Option.some.inj hstored
            exact hnew.mono hholds
      · rw [if_neg hname]
        refine ⟨found', hfound', hsound.sequenceColumns, hsound.nextId, ?_⟩
        intro index stored hstored
        exact (hsound.rows index stored hstored).mono hholds

/-! ### The steps of a run -/

/-- The steps that supply values leave the store alone, and sampled values are there. -/
theorem holds_of_trace_supply
    (h : Trace rowStore (store, stream) (List.zipWith ValueSource.supply sources values)
      (after, stream')) :
    after = store ∧
      ∀ key value, (.referenced key, value) ∈ sources.zip values → store.Holds key value := by
  induction sources generalizing values store stream with
  | nil =>
      cases h
      exact ⟨rfl, by simp⟩
  | cons source sources ih =>
      cases values with
      | nil =>
          cases h
          exact ⟨rfl, by simp⟩
      | cons value values =>
          cases h with
          | @cons _ second _ _ _ head tail =>
              obtain ⟨middle, between⟩ := second
              rcases insertion_or_unchanged_of_occurs head with
                ⟨_, _, _, _, hinserted, _⟩ | ⟨rfl, hsampled⟩
              · cases source <;> cases hinserted
              obtain ⟨rfl, hheld⟩ := ih tail
              refine ⟨rfl, fun key other hmem => ?_⟩
              rcases List.mem_cons.mp hmem with heq | hmem
              · obtain ⟨rfl, rfl⟩ := Prod.mk.inj heq
                exact hsampled key other rfl
              · exact hheld key other hmem

/-- An attempt that ends at a key inserts nothing. -/
theorem store_eq_of_stuck {steps : List Step} (hstuck : Stuck sources steps)
    (h : Trace rowStore (store, stream) steps (after, stream')) : after = store := by
  obtain ⟨hsplit, hsupplied, hrefused⟩ := hstuck
  obtain ⟨⟨middle, between⟩, hvalues, hlast⟩ := h.exists_of_append
  obtain ⟨rfl, _⟩ := holds_of_trace_supply hvalues
  rcases insertion_or_unchanged_of_occurs hlast.occurs_of_singleton with
    ⟨_, _, _, _, hinserted, _⟩ | ⟨hsame, _⟩
  · cases hinserted
  · exact hsame

theorem SoundStore.attempt {attempt : Attempt} (h : SoundStore tables store)
    (hnames : DistinctNames tables) (hmem : table ∈ tables)
    (hsupplied : List.Forall₂ (SuppliedBy tables table) table.insertColumns sources)
    (hlength : attempt.values.length = sources.length)
    (htrace : Trace rowStore (store, stream)
      (attempt.steps table.name (table.insertColumns.map (·.binding)) sources)
      (after, stream')) :
    SoundStore tables after := by
  obtain ⟨⟨middle, between⟩, hvalues, hlast⟩ := htrace.exists_of_append
  obtain ⟨rfl, hheld⟩ := holds_of_trace_supply hvalues
  rcases insertion_or_unchanged_of_occurs hlast.occurs_of_singleton with
    ⟨_, _, _, _, hinserted, hinsertion⟩ | ⟨rfl, _⟩
  · cases hinserted
    exact h.insertion hnames hmem hsupplied hlength hheld hinsertion
  · exact h

theorem SoundStore.attempts {attempts : List Attempt} (h : SoundStore tables store)
    (hnames : DistinctNames tables) (hmem : table ∈ tables)
    (hsupplied : List.Forall₂ (SuppliedBy tables table) table.insertColumns sources)
    (hcomplete : ∀ attempt ∈ attempts, attempt.values.length = sources.length)
    (htrace : Trace rowStore (store, stream) (attemptSteps table sources attempts)
      (after, stream')) :
    SoundStore tables after := by
  induction attempts generalizing store stream with
  | nil =>
      cases htrace
      exact h
  | cons attempt attempts ih =>
      obtain ⟨hlength, hrest⟩ := List.forall_mem_cons.mp hcomplete
      obtain ⟨⟨middle, between⟩, hfirst, hlast⟩ := htrace.exists_of_append
      exact ih (h.attempt hnames hmem hsupplied hlength hfirst) hrest hlast

/-- A block of one table keeps the store sound. -/
theorem SoundStore.block {steps : List Step} (h : SoundStore tables store)
    (hnames : DistinctNames tables) (hmem : table ∈ tables) (hblock : TableBlock tables table steps)
    (htrace : Trace rowStore (store, stream) steps (after, stream')) :
    SoundStore tables after := by
  cases hblock with
  | idle rows =>
      cases htrace
      exact h
  | unresolved mem foreign failed =>
      cases htrace
      exact h
  | filled rows supplied complete count => exact h.attempts hnames hmem supplied complete htrace
  | interrupted rows supplied complete count stuck =>
      obtain ⟨⟨middle, between⟩, hattempts, hlast⟩ := htrace.exists_of_append
      rw [store_eq_of_stuck stuck hlast]
      exact h.attempts hnames hmem supplied complete hattempts

theorem SoundStore.blocks {rest : List PlannedTable} {blocks : List (List Step)}
    (h : SoundStore tables store) (hnames : DistinctNames tables)
    (hrest : ∀ table ∈ rest, table ∈ tables)
    (hblocks : List.Forall₂ (TableBlock tables) rest blocks)
    (htrace : Trace rowStore (store, stream) blocks.flatten (after, stream')) :
    SoundStore tables after := by
  induction hblocks generalizing store stream with
  | nil =>
      cases htrace
      exact h
  | cons hblock _ ih =>
      obtain ⟨hmem, hrest⟩ := List.forall_mem_cons.mp hrest
      obtain ⟨⟨middle, between⟩, hfirst, hlast⟩ := htrace.exists_of_append
      exact ih (h.block hnames hmem hblock hfirst) hrest hlast

/-! ### The order of the tables -/

theorem suppliedBy_perm {tables' : List PlannedTable} {source : ValueSource}
    (hnames : DistinctNames tables) (hperm : tables.Perm tables')
    (h : SuppliedBy tables table column source) : SuppliedBy tables' table column source := by
  cases h with
  | generated own => exact .generated own
  | referenced foreign resolved =>
      exact .referenced foreign ((hnames.resolveReference_perm hperm table column).trans resolved)

theorem SoundStore.perm {tables' : List PlannedTable} (h : SoundStore tables store)
    (hnames : DistinctNames tables) (hperm : tables.Perm tables') : SoundStore tables' store := by
  intro table hmem
  obtain ⟨found, hfound, hsound⟩ := h table (hperm.mem_iff.mpr hmem)
  refine ⟨found, hfound, hsound.sequenceColumns, hsound.nextId, fun index row hrow => ?_⟩
  have hsoundRow := hsound.rows index row hrow
  refine ⟨fun column hcolumn => ?_, hsoundRow.numbered⟩
  obtain ⟨source, value, hsource, hvalue⟩ := hsoundRow.supplied column hcolumn
  exact ⟨source, value, suppliedBy_perm hnames hperm hsource, hvalue⟩

/-- A run over a fresh store leaves a sound store, also if the tables cannot be ordered. -/
theorem soundStore_populateInMemory (hnames : DistinctNames tables) (policy : MissingPolicy)
    (stream : RandomStream) :
    SoundStore tables (populateInMemory policy tables stream).2.store := by
  have hstart := soundStore_ofTables hnames
  cases hordered : topologicalOrder PlannedTable.node tables policy with
  | error cause =>
      simp only [populateInMemory, run, hordered]
      exact hstart
  | ok ordered =>
      have hperm := Dependency.items_perm_of_topologicalOrder_eq_ok hordered
      obtain ⟨report, last, blocks, hrun, _, hblocks, htrace⟩ :=
        trace_run hordered rowStore (.start (.ofTables tables) stream)
      have hlast := (hstart.perm hnames hperm.symm).blocks (hnames.perm hperm.symm)
        (fun _ => id) hblocks htrace
      rw [populateInMemory, hrun]
      exact hlast.perm (hnames.perm hperm.symm) hperm

end SyntheticRows.Population
