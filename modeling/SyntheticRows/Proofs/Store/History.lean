import Mathlib.Data.List.Induction
import SyntheticRows.Proofs.Store.Memory
import SyntheticRows.Proofs.Store.Oblivious
/-!
# The rows of a store in memory are the inserts that it accepted

Each table has one row for each insert into it that was accepted, in their order, and a counter that
is one ahead of them, so a row finds its own number in the counter. Every call keeps this, whatever
it asks for, and so does every call that a store around this one answers in its place.
-/

namespace SyntheticRows

variable {σ τ : Type}

/-! ### Calls in turn and what was accepted of them -/

/-- The step that a call comes to, with the world behind it. -/
def RowStore.answer (store : RowStore σ) (call : StoreCall) (world : World σ) : Step × World σ :=
  match call with
  | .insert table bindings values =>
      let reply := store.insertRow table bindings values world.1 world.2
      (.inserted table bindings values reply.answer, reply.world)
  | .sample table column =>
      let reply := store.sampleKey table column world.1 world.2
      (.sampled ⟨table, column⟩ reply.answer, reply.world)

def RowStore.answerAll (store : RowStore σ) : List StoreCall → World σ → List Step × World σ
  | [], world => ([], world)
  | call :: calls, world =>
      let (step, world) := store.answer call world
      let (steps, world) := store.answerAll calls world
      (step :: steps, world)

theorem RowStore.trace_answerAll (store : RowStore σ) (calls : List StoreCall) (world : World σ) :
    Trace store world (store.answerAll calls world).1 (store.answerAll calls world).2 := by
  induction calls generalizing world with
  | nil => exact .nil
  | cons call calls ih =>
      have hstep : Occurs store world (store.answer call world).1 (store.answer call world).2 := by
        cases call with
        | insert table bindings values => exact .inserted table bindings values world.1 world.2
        | sample table column => exact .sampled ⟨table, column⟩ world.1 world.2
      exact .cons hstep (ih (store.answer call world).2)

/-- What an accepted insert handed over. -/
structure AcceptedInsert where
  bindings : List ColumnBinding
  values : List String

def AcceptedInsert.names (insert : AcceptedInsert) : List String :=
  insert.bindings.map (·.name)

def Step.accepted? (table : String) : Step → Option AcceptedInsert
  | inserted name bindings values (.ok ()) =>
      if name = table then some ⟨bindings, values⟩ else none
  | _ => none

theorem Step.accepted?_eq_none {step : Step} {name : String}
    (h : ∀ table bindings values answer, step ≠ .inserted table bindings values answer) :
    step.accepted? name = none := by
  cases step with
  | drew generator value => rfl
  | sampled key answer => rfl
  | inserted table bindings values answer => exact absurd rfl (h table bindings values answer)

/-- The inserts into a table that were accepted, in their order. -/
def acceptedInserts (table : String) (steps : List Step) : List AcceptedInsert :=
  steps.filterMap (Step.accepted? table)

theorem acceptedInserts_append (table : String) (steps later : List Step) :
    acceptedInserts table (steps ++ later) =
      acceptedInserts table steps ++ acceptedInserts table later :=
  List.filterMap_append

theorem acceptedInserts_concat (table : String) (steps : List Step) (step : Step) :
    acceptedInserts table (steps ++ [step]) =
      acceptedInserts table steps ++ (step.accepted? table).toList := by
  rw [acceptedInserts_append]
  cases hstep : step.accepted? table <;> simp [acceptedInserts, hstep]

/-! ### Stores that keep calls back -/

theorem RowStore.interrupted_intercepts (outages : Outages) (inner : RowStore σ) :
    Intercepts Faulty.store (inner.interrupted outages) inner := by
  constructor
  · intro table bindings values state stream
    unfold interrupted
    dsimp only
    cases outages.insert? (state.inserts + 1) with
    | none => exact .inl ⟨rfl, rfl⟩
    | some cause => exact .inr ⟨⟨cause, rfl⟩, rfl⟩
  · intro table column state stream
    unfold interrupted
    dsimp only
    cases outages.sample? (state.samples + 1) with
    | none => exact .inl ⟨rfl, rfl⟩
    | some outage => exact .inr ⟨fun value => by cases outage <;> simp [SampleOutage.answer], rfl⟩

/-! ### Tables -/

namespace MemoryTable

variable {start table : MemoryTable} {name : String} {bindings : List ColumnBinding}
  {values : List String} {row bound : Row} {inserts : List AcceptedInsert}

theorem mem_keys_bind (h : table.bind name bindings values row = .ok bound)
    (haligned : bindings.length = values.length) (column : String) :
    column ∈ bound.keys ↔ column ∈ bindings.map (·.name) ∨ column ∈ row.keys := by
  induction bindings generalizing values row with
  | nil =>
      simp only [bind, Except.ok.injEq] at h
      simp [h]
  | cons binding bindings ih =>
      obtain ⟨value, values, rfl⟩ := List.exists_cons_of_length_eq_add_one haligned.symm
      unfold bind at h
      split at h
      · rw [ih h (Nat.succ.inj haligned), NameMap.mem_keys_insert, List.map_cons, List.mem_cons]
        rw [or_assoc, or_left_comm]
      · cases h

theorem exists_bind_eq_ok_iff (row : Row) (haligned : bindings.length = values.length) :
    (∃ bound, table.bind name bindings values row = .ok bound) ↔
      ∀ binding ∈ bindings, binding.name ∈ table.columns := by
  induction bindings generalizing values row with
  | nil => simp [bind]
  | cons binding bindings ih =>
      obtain ⟨value, values, rfl⟩ := List.exists_cons_of_length_eq_add_one haligned.symm
      unfold bind
      by_cases hmem : binding.name ∈ table.columns
      · simp [hmem, ih _ (Nat.succ.inj haligned)]
      · simp [hmem]

theorem exists_insert_eq_ok_iff (table : MemoryTable) (name : String)
    (bindings : List ColumnBinding) (values : List String) :
    (∃ changed, table.insert name bindings values = .ok changed) ↔
      bindings.length = values.length ∧ ∀ binding ∈ bindings, binding.name ∈ table.columns := by
  constructor
  · rintro ⟨changed, hchanged⟩
    obtain ⟨haligned, row, hbound, _⟩ := exists_bind_of_insert_eq_ok hchanged
    exact ⟨haligned, (exists_bind_eq_ok_iff _ haligned).mp ⟨row, hbound⟩⟩
  · rintro ⟨haligned, hknown⟩
    obtain ⟨row, hbound⟩ := (exists_bind_eq_ok_iff .empty haligned).mpr hknown
    refine ⟨table.append (table.number row), ?_⟩
    unfold insert
    rw [if_neg (not_not_intro haligned), hbound]
    rfl

/-- The row that an accepted insert leaves in a table, at a place counted from zero. -/
structure RowOf (table : MemoryTable) (insert : AcceptedInsert) (index : Nat) (row : Row) :
    Prop where
  known : ∀ name ∈ row.keys, name ∈ table.columns
  keys : ∀ name, name ∈ row.keys ↔ name ∈ insert.names ∨ name ∈ table.sequenceColumns
  bound : insert.names.Nodup → ∀ binding value,
    (binding, value) ∈ insert.bindings.zip insert.values → row.get? binding.name = some value
  numbered : ∀ name ∈ table.sequenceColumns, name ∉ insert.names →
    row.get? name = some (toString (index + 1))

/-- A table that started without rows, after the inserts that it accepted. -/
structure Records (start : MemoryTable) (inserts : List AcceptedInsert) (table : MemoryTable) :
    Prop where
  columns : table.columns = start.columns
  sequenceColumns : table.sequenceColumns = start.sequenceColumns
  nextId : table.nextId = table.rows.toList.length + 1
  length : table.rows.toList.length = inserts.length
  rows : ∀ (index : Nat) (insert : AcceptedInsert) (row : Row), inserts[index]? = some insert →
    table.rows.toList[index]? = some row → start.RowOf insert index row

theorem Records.exists_rowOf (h : Records start inserts table) {index : Nat}
    (hrow : table.rows.toList[index]? = some row) :
    ∃ insert ∈ inserts, start.RowOf insert index row := by
  have hlt : index < inserts.length := h.length ▸ (List.getElem?_eq_some_iff.mp hrow).1
  exact ⟨_, List.getElem_mem hlt, h.rows index _ row (List.getElem?_eq_getElem hlt) hrow⟩

theorem sequenceColumns_subset (table : PlannedTable) :
    (ofTable table).sequenceColumns ⊆ (ofTable table).columns :=
  (List.filter_sublist.map _).subset

theorem records_ofTable (table : PlannedTable) : Records (ofTable table) [] (ofTable table) :=
  ⟨rfl, rfl, rfl, rfl, fun _ _ _ hinsert => by cases hinsert⟩

/-- A bound row that gets its number is the row of its insert. -/
theorem rowOf_number (hrecords : Records start inserts table)
    (hsubset : start.sequenceColumns ⊆ start.columns) (haligned : bindings.length = values.length)
    (hbound : table.bind name bindings values .empty = .ok row) :
    start.RowOf ⟨bindings, values⟩ inserts.length (table.number row) := by
  have hvalue : ∀ column, (table.number row).get? column =
      if column ∈ start.sequenceColumns then
        some ((row.get? column).getD (toString (inserts.length + 1)))
      else row.get? column := by
    intro column
    rw [get?_number, hrecords.sequenceColumns, hrecords.nextId, hrecords.length]
  have hrow : ∀ column, column ∈ row.keys ↔ column ∈ bindings.map (·.name) := by
    intro column
    simpa [NameMap.mem_keys_iff] using mem_keys_bind hbound haligned column
  have hkeys : ∀ column, column ∈ (table.number row).keys ↔
      column ∈ bindings.map (·.name) ∨ column ∈ start.sequenceColumns := by
    intro column
    rw [← hrow, NameMap.mem_keys_iff, NameMap.mem_keys_iff, hvalue]
    by_cases hsequence : column ∈ start.sequenceColumns <;> simp [hsequence]
  refine ⟨fun column hmem => ?_, hkeys, fun hnodup binding value hmem => ?_,
    fun column hsequence hfresh => ?_⟩
  · rcases (hkeys column).mp hmem with hmem | hmem
    · obtain ⟨binding, hbinding, rfl⟩ := List.mem_map.mp hmem
      exact hrecords.columns ▸ (exists_bind_eq_ok_iff _ haligned).mp ⟨row, hbound⟩ binding hbinding
    · exact hsubset hmem
  · rw [hvalue, get?_bind_of_mem_zip hbound hnodup hmem, Option.getD_some, ite_self]
  · rw [hvalue, if_pos hsequence, get?_bind_of_notMem hbound hfresh, NameMap.get?_empty,
      Option.getD_none]

theorem Records.append (h : Records start inserts table)
    (hsubset : start.sequenceColumns ⊆ start.columns) (haligned : bindings.length = values.length)
    (hbound : table.bind name bindings values .empty = .ok row) :
    Records start (inserts ++ [⟨bindings, values⟩]) (table.append (table.number row)) := by
  have hnew := rowOf_number h hsubset haligned hbound
  refine ⟨h.columns, h.sequenceColumns, ?_, ?_, fun index insert stored hinsert hstored => ?_⟩
  · simp [MemoryTable.append, h.nextId]
  · simpa [MemoryTable.append] using h.length
  rw [MemoryTable.append, Array.toList_push] at hstored
  rcases Nat.lt_or_ge index inserts.length with hlt | hge
  · rw [List.getElem?_append_left hlt] at hinsert
    rw [List.getElem?_append_left (h.length ▸ hlt)] at hstored
    exact h.rows index insert stored hinsert hstored
  · -- There is one insert behind those from before, and one row.
    have hindex : index = inserts.length := by
      have := (List.getElem?_eq_some_iff.mp hinsert).1
      rw [List.length_append, List.length_singleton] at this
      omega
    subst hindex
    rw [List.getElem?_concat_length, Option.some.injEq] at hinsert
    rw [← h.length, List.getElem?_concat_length, Option.some.injEq] at hstored
    exact hinsert ▸ hstored ▸ hnew

end MemoryTable

/-! ### Stores -/

namespace MemoryStore

variable {planned : List PlannedTable} {store after : MemoryStore} {table : String}
  {bindings : List ColumnBinding} {values : List String} {steps later : List Step}

/-- Each table is the last one that was registered under its name, after the inserts that it
accepted. -/
def Records (planned : List PlannedTable) (steps : List Step) (store : MemoryStore) : Prop :=
  ∀ name, Option.Rel
    (fun table found => MemoryTable.Records (.ofTable table) (acceptedInserts name steps) found)
    (planned.reverse.find? (·.name == name)) (store.tables.get? name)

theorem get?_ofTables_eq (planned : List PlannedTable) (name : String) :
    (ofTables planned).tables.get? name =
      (planned.reverse.find? (·.name == name)).map MemoryTable.ofTable := by
  induction planned using List.reverseRecOn with
  | nil => rfl
  | append_singleton planned table ih =>
      rw [ofTables, List.foldl_append, List.foldl_cons, List.foldl_nil, register,
        NameMap.get?_insert, List.reverse_append, List.reverse_singleton, List.singleton_append,
        List.find?_cons]
      by_cases heq : name = table.name
      · simp [heq]
      · have hne : (table.name == name) = false := by simpa using Ne.symm heq
        rw [if_neg heq, hne]
        exact ih

theorem records_ofTables (planned : List PlannedTable) : Records planned [] (ofTables planned) := by
  intro name
  rw [get?_ofTables_eq]
  cases planned.reverse.find? (·.name == name) with
  | none => exact .none
  | some table => exact .some (MemoryTable.records_ofTable table)

theorem Records.insertion {answer : Except StoreError Unit} (h : Records planned steps store)
    (hinsertion : Insertion store table bindings values answer after) :
    Records planned (steps ++ [.inserted table bindings values answer]) after := by
  intro name
  have hname := h name
  rw [acceptedInserts_concat]
  cases hinsertion with
  | refused cause => simpa [Step.accepted?] using hname
  | @appended found row registered aligned bound =>
      rw [get?_appendRow]
      by_cases heq : name = table
      · subst heq
        rw [registered] at hname
        rw [if_pos rfl]
        cases hregistered : planned.reverse.find? (·.name == name) with
        | none =>
            rw [hregistered] at hname
            cases hname
        | some first =>
            rw [hregistered] at hname
            cases hname with
            | some hfound =>
                simpa [Step.accepted?] using Option.Rel.some
                  (hfound.append (MemoryTable.sequenceColumns_subset first) aligned bound)
      · rw [if_neg heq]
        simpa [Step.accepted?, Ne.symm heq] using hname

/-- What happens behind another store is recorded like what happens to the store itself. -/
theorem Records.trace {f : σ → MemoryStore} {outer : RowStore σ}
    (hstore : RowStore.Intercepts f outer rowStore) {state state' : σ}
    {stream stream' : RandomStream} (h : Records planned steps (f state))
    (htrace : Trace outer (state, stream) later (state', stream')) :
    Records planned (steps ++ later) (f state') := by
  induction later generalizing steps state stream with
  | nil =>
      cases htrace
      rwa [List.append_nil]
  | cons step later ih =>
      cases htrace with
      | @cons _ second _ _ _ head tail =>
          obtain ⟨middle, between⟩ := second
          have hmiddle : Records planned (steps ++ [step]) (f middle) := by
            rcases insertion_or_unchanged_of_intercepts hstore head with
              ⟨table, bindings, values, answer, rfl, hinsertion⟩ | ⟨hsame, hother, _⟩
            · exact h.insertion hinsertion
            · intro name
              rw [acceptedInserts_concat, Step.accepted?_eq_none hother, Option.toList_none,
                List.append_nil, hsame]
              exact h name
          have hlast := ih hmiddle tail
          rwa [List.append_assoc, List.singleton_append] at hlast

/-! ### Answers -/

/-- The table is registered and has the column. -/
def Registered (store : MemoryStore) (key : ReferenceKey) : Prop :=
  ∃ found, store.tables.get? key.table = some found ∧ key.column ∈ found.columns

/-- How an insert is answered: with a row at the end of its table, or with a refusal. -/
structure InsertAnswer (store : MemoryStore) (stream : RandomStream) (table : String)
    (bindings : List ColumnBinding) (values : List String) (reply : StoreReply MemoryStore Unit) :
    Prop where
  accepted_iff : reply.answer = .ok () ↔ bindings.length = values.length ∧
    ∃ found, store.tables.get? table = some found ∧
      ∀ binding ∈ bindings, binding.name ∈ found.columns
  appended : reply.answer = .ok () → ∃ found row, store.tables.get? table = some found ∧
    ∀ name, reply.store.tables.get? name =
      if name = table then
        some { found with nextId := found.nextId + 1, rows := found.rows.push row }
      else store.tables.get? name
  refused : reply.answer ≠ .ok () → reply.store = store
  stream : reply.stream = stream

/-- How a sample is answered: with a value that is there. -/
structure SampleAnswer (store : MemoryStore) (key : ReferenceKey)
    (reply : StoreReply MemoryStore (Option String)) : Prop where
  unchanged : reply.store = store
  failed_iff : (∃ cause, reply.answer = .error cause) ↔ ¬store.Registered key
  empty_iff : reply.answer = .ok none ↔ store.Registered key ∧ ∀ value, ¬store.Holds key value
  held : ∀ value, reply.answer = .ok (some value) → store.Holds key value

theorem insertRow_answer_eq_ok_iff (store : MemoryStore) (stream : RandomStream) (table : String)
    (bindings : List ColumnBinding) (values : List String) :
    (insertRow table bindings values store stream).answer = .ok () ↔
      bindings.length = values.length ∧ ∃ found, store.tables.get? table = some found ∧
        ∀ binding ∈ bindings, binding.name ∈ found.columns := by
  unfold insertRow
  cases hfound : store.tables.get? table with
  | none => simp
  | some found =>
      have hiff := found.exists_insert_eq_ok_iff table bindings values
      cases hinsert : found.insert table bindings values with
      | error cause => simpa [hinsert] using hiff
      | ok changed => simpa [hinsert] using hiff

theorem insertAnswer_insertRow (store : MemoryStore) (stream : RandomStream) (table : String)
    (bindings : List ColumnBinding) (values : List String) :
    InsertAnswer store stream table bindings values
      (insertRow table bindings values store stream) := by
  have hinsertion := insertion_insertRow table bindings values store stream
  have hstream : (insertRow table bindings values store stream).stream = stream := by
    unfold insertRow
    dsimp only
    split <;> rfl
  have hiff := insertRow_answer_eq_ok_iff store stream table bindings values
  generalize insertRow table bindings values store stream = reply at hinsertion hstream hiff ⊢
  refine ⟨hiff, fun hok => ?_, fun hrefused => ?_, hstream⟩
  · rw [hok] at hinsertion
    generalize reply.store = after at hinsertion
    cases hinsertion with
    | @appended found row registered aligned bound =>
        exact ⟨found, found.number row, registered, get?_appendRow store table found row⟩
  · generalize reply.answer = answer at hinsertion hrefused
    generalize reply.store = after at hinsertion
    cases hinsertion with
    | refused cause => rfl
    | appended registered aligned bound => exact absurd rfl hrefused

theorem values_eq_nil_iff_holds {key : ReferenceKey} {found : MemoryTable}
    (hfound : store.tables.get? key.table = some found) :
    found.values key.column = [] ↔ ∀ value, ¬store.Holds key value := by
  simp only [MemoryTable.values, List.filterMap_eq_nil_iff, Holds, rows, hfound]
  constructor
  · rintro hnone value ⟨row, hrow, hvalue⟩
    exact Option.some_ne_none value (hvalue.symm.trans (hnone row hrow))
  · intro hnone row hrow
    exact Option.eq_none_iff_forall_ne_some.mpr fun value hvalue => hnone value ⟨row, hrow, hvalue⟩

/-- A sample fails, is empty or gives a value, by what there is. -/
theorem answer_sampleKey_cases (store : MemoryStore) (stream : RandomStream) (key : ReferenceKey) :
    (¬store.Registered key ∧
      ∃ cause, (sampleKey key.table key.column store stream).answer = .error cause) ∨
    (store.Registered key ∧ (∀ value, ¬store.Holds key value) ∧
      (sampleKey key.table key.column store stream).answer = .ok none) ∨
    (store.Registered key ∧ (∃ value, store.Holds key value) ∧
      ∃ value, (sampleKey key.table key.column store stream).answer = .ok (some value)) := by
  unfold sampleKey
  cases hfound : store.tables.get? key.table with
  | none => exact .inl ⟨by simp [Registered, hfound], _, rfl⟩
  | some found =>
      by_cases hcolumn : key.column ∈ found.columns
      · have hregistered : store.Registered key := ⟨found, hfound, hcolumn⟩
        have hempty := values_eq_nil_iff_holds hfound
        cases hvalues : found.values key.column with
        | nil => exact .inr (.inl ⟨hregistered, hempty.mp hvalues, by simp [hcolumn, hvalues]⟩)
        | cons first rest =>
            have hheld : ∃ value, store.Holds key value := by
              by_contra hnone
              rw [hempty.mpr (not_exists.mp hnone)] at hvalues
              cases hvalues
            refine .inr (.inr ⟨hregistered, hheld, (Draw.pickText (first :: rest) stream).1, ?_⟩)
            simp only [hcolumn, hvalues, List.contains_eq_mem, decide_true, Bool.not_true,
              Bool.false_eq_true, if_false]
            rfl
      · refine .inl ⟨?_, .query s!"column {key.column} does not exist in {key.table}",
          by simp [hcolumn]⟩
        rintro ⟨other, hother, hmem⟩
        obtain rfl := Option.some.inj (hfound.symm.trans hother)
        exact hcolumn hmem

theorem sampleAnswer_sampleKey (store : MemoryStore) (stream : RandomStream) (key : ReferenceKey) :
    SampleAnswer store key (sampleKey key.table key.column store stream) := by
  obtain ⟨hstore, hheld⟩ := sampleKey_spec key store stream
  rcases answer_sampleKey_cases store stream key with
    ⟨hunregistered, cause, hanswer⟩ | ⟨hregistered, hnone, hanswer⟩ |
      ⟨hregistered, ⟨held, hsome⟩, value, hanswer⟩
  · exact ⟨hstore, by simp [hanswer, hunregistered], by simp [hanswer, hunregistered], hheld⟩
  · exact ⟨hstore, by simp [hanswer, hregistered], by simp [hanswer, hregistered, hnone], hheld⟩
  · refine ⟨hstore, by simp [hanswer, hregistered], ?_, hheld⟩
    simpa [hanswer, hregistered] using ⟨held, hsome⟩

/-- **A store in memory is the record of its accepted inserts.** After any calls each table is one that
was registered, with a row for each insert that it accepted and a counter one ahead of them. The next
insert appends one row to one table or leaves the store as it is, and a sample answers what is there
without a change. -/
theorem records_of_calls (planned : List PlannedTable) (calls : List StoreCall)
    (stream : RandomStream) :
    let (steps, store, stream) := rowStore.answerAll calls (ofTables planned, stream)
    Records planned steps store ∧
      (∀ table bindings values, InsertAnswer store stream table bindings values
        (rowStore.insertRow table bindings values store stream)) ∧
      ∀ key : ReferenceKey,
        SampleAnswer store key (rowStore.sampleKey key.table key.column store stream) := by
  have htrace := rowStore.trace_answerAll calls (ofTables planned, stream)
  generalize rowStore.answerAll calls (ofTables planned, stream) = answered at htrace ⊢
  obtain ⟨steps, store, later⟩ := answered
  have hrecords : Records planned ([] ++ steps) store :=
    Records.trace rowStore.intercepts_self (records_ofTables planned) htrace
  exact ⟨hrecords, insertAnswer_insertRow store later, sampleAnswer_sampleKey store later⟩

end MemoryStore

end SyntheticRows
