import Mathlib.Data.List.Forall2
import SyntheticRows.Proofs.Population.Trace
/-!
# Attempts at rows

An attempt takes a value for each column from the source of the column and hands the row over. It
ends early at a key that the store does not give, and then no row is handed over.
-/

namespace SyntheticRows

variable {σ : Type}

/-- The step by which a source supplies a value. -/
def ValueSource.supply : ValueSource → String → Step
  | generated generator, value => .drew generator value
  | referenced key, value => .sampled key (.ok (some value))

/-- Where the values of a column have to come from. -/
inductive SuppliedBy (tables : List PlannedTable) (table : PlannedTable) (column : PlannedColumn) :
    ValueSource → Prop where
  | generated (own : column.column.isForeignKey = false) :
      SuppliedBy tables table column (.generated column.generator)
  | referenced {key : ReferenceKey} (foreign : column.column.isForeignKey = true)
      (resolved : resolveReference table column tables = .ok key) :
      SuppliedBy tables table column (.referenced key)

/-- A row that was handed to the store, with the answer. -/
structure Attempt where
  values : List String
  answer : Except StoreError Unit

/-- One value from each source in turn, then the row of these values. -/
def Attempt.steps (table : String) (bindings : List ColumnBinding) (sources : List ValueSource)
    (attempt : Attempt) : List Step :=
  List.zipWith ValueSource.supply sources attempt.values ++
    [.inserted table bindings attempt.values attempt.answer]

/-- The steps of an attempt that ended at a key that the store did not give. -/
inductive Stuck (sources : List ValueSource) : List Step → Prop where
  | mk {front back : List ValueSource} {key : ReferenceKey} {values : List String}
      {answer : Except StoreError (Option String)}
      (split : sources = front ++ .referenced key :: back)
      (supplied : values.length = front.length)
      (refused : ∀ value, answer ≠ .ok (some value)) :
      Stuck sources (List.zipWith ValueSource.supply front values ++ [.sampled key answer])

namespace Stuck

variable {sources : List ValueSource} {key : ReferenceKey} {steps : List Step}

theorem head {answer : Except StoreError (Option String)}
    (refused : ∀ value, answer ≠ .ok (some value)) :
    Stuck (.referenced key :: sources) [.sampled key answer] := by
  have hsplit : .referenced key :: sources = [] ++ .referenced key :: sources := rfl
  have hsupplied : ([] : List String).length = ([] : List ValueSource).length := rfl
  exact .mk hsplit hsupplied refused

theorem cons (h : Stuck sources steps) (source : ValueSource) (value : String) :
    Stuck (source :: sources) (source.supply value :: steps) := by
  obtain ⟨hsplit, hsupplied, hrefused⟩ := h
  rename_i front back key values answer
  have hsplit' : source :: sources = (source :: front) ++ .referenced key :: back := by
    rw [hsplit, List.cons_append]
  have hsupplied' : (value :: values).length = (source :: front).length := by
    simp [hsupplied]
  exact .mk hsplit' hsupplied' hrefused

end Stuck

/-- The steps of attempts at the rows of a table. -/
def attemptSteps (table : PlannedTable) (sources : List ValueSource) (attempts : List Attempt) :
    List Step :=
  attempts.flatMap (Attempt.steps table.name (table.insertColumns.map (·.binding)) sources)

namespace Population

variable {store : RowStore σ} {progress after : Progress σ} {cause : GenerationError}

/-! ### One value, one row -/

theorem occurs_of_columnValue_eq_ok {table column value : String} {source : ValueSource}
    (h : columnValue store table column source progress = (.ok value, after)) :
    Occurs store progress.world (source.supply value) after.world := by
  cases source with
  | generated generator =>
      simp only [columnValue, Progress.draw, Prod.mk.injEq, Except.ok.injEq] at h
      obtain ⟨rfl, rfl⟩ := h
      exact .drew generator progress.store progress.stream
  | referenced key =>
      have hoccurs : Occurs store progress.world _ _ :=
        .sampled key progress.store progress.stream
      unfold columnValue at h
      rcases hanswer : (store.sampleKey key.table key.column progress.store progress.stream).answer
        with _ | _ | found
      · simp [hanswer] at h
      · simp [hanswer] at h
      · simp only [hanswer, Prod.mk.injEq, Except.ok.injEq] at h
        obtain ⟨rfl, rfl⟩ := h
        rwa [hanswer] at hoccurs

theorem occurs_of_columnValue_eq_error {table column : String} {source : ValueSource}
    (h : columnValue store table column source progress = (.error cause, after)) :
    ∃ key answer, source = .referenced key ∧ (∀ value, answer ≠ .ok (some value)) ∧
      Occurs store progress.world (.sampled key answer) after.world := by
  cases source with
  | generated generator => simp [columnValue] at h
  | referenced key =>
      have hoccurs : Occurs store progress.world _ _ :=
        .sampled key progress.store progress.stream
      unfold columnValue at h
      rcases hanswer : (store.sampleKey key.table key.column progress.store progress.stream).answer
        with _ | _ | found
      · simp only [hanswer, Prod.mk.injEq] at h
        obtain ⟨_, rfl⟩ := h
        exact ⟨key, _, rfl, by simp, hanswer ▸ hoccurs⟩
      · simp only [hanswer, Prod.mk.injEq] at h
        obtain ⟨_, rfl⟩ := h
        exact ⟨key, _, rfl, by simp, hanswer ▸ hoccurs⟩
      · simp [hanswer] at h

theorem trace_of_rowValues_eq_ok {table : String} {sources : List (String × ValueSource)}
    {values : List String} (h : rowValues store table sources progress = (.ok values, after)) :
    values.length = sources.length ∧
      Trace store progress.world
        (List.zipWith ValueSource.supply (sources.map (·.2)) values) after.world := by
  induction sources generalizing progress values with
  | nil =>
      simp only [rowValues, Prod.mk.injEq, Except.ok.injEq] at h
      obtain ⟨rfl, rfl⟩ := h
      exact ⟨rfl, .nil⟩
  | cons entry sources ih =>
      obtain ⟨column, source⟩ := entry
      unfold rowValues at h
      rcases hvalue : columnValue store table column source progress with ⟨_ | value, middle⟩
      · simp [hvalue] at h
      rcases hrest : rowValues store table sources middle with ⟨_ | rest, last⟩
      · simp [hvalue, hrest] at h
      simp only [hvalue, hrest, Prod.mk.injEq, Except.ok.injEq] at h
      obtain ⟨rfl, rfl⟩ := h
      obtain ⟨hlength, htrace⟩ := ih hrest
      exact ⟨by simp [hlength], .cons (occurs_of_columnValue_eq_ok hvalue) htrace⟩

theorem trace_of_rowValues_eq_error {table : String} {sources : List (String × ValueSource)}
    (h : rowValues store table sources progress = (.error cause, after)) :
    ∃ steps, Stuck (sources.map (·.2)) steps ∧ Trace store progress.world steps after.world := by
  induction sources generalizing progress cause with
  | nil => simp [rowValues] at h
  | cons entry sources ih =>
      obtain ⟨column, source⟩ := entry
      unfold rowValues at h
      rcases hvalue : columnValue store table column source progress with ⟨_ | value, middle⟩
      · simp only [hvalue, Prod.mk.injEq] at h
        obtain ⟨_, rfl⟩ := h
        obtain ⟨key, answer, rfl, hrefused, hoccurs⟩ := occurs_of_columnValue_eq_error hvalue
        exact ⟨_, .head hrefused, .single hoccurs⟩
      rcases hrest : rowValues store table sources middle with ⟨_ | rest, last⟩
      · simp only [hvalue, hrest, Prod.mk.injEq] at h
        obtain ⟨_, rfl⟩ := h
        obtain ⟨steps, hstuck, htrace⟩ := ih hrest
        exact ⟨_, hstuck.cons source value, .cons (occurs_of_columnValue_eq_ok hvalue) htrace⟩
      · simp [hvalue, hrest] at h

theorem occurs_insertValues (store : RowStore σ) (table : String) (bindings : List ColumnBinding)
    (row : Nat) (values : List String) (tally : Tally) (progress : Progress σ) :
    ∃ answer, Occurs store progress.world (.inserted table bindings values answer)
      (insertValues store table bindings row values tally progress).2.world := by
  have hoccurs : Occurs store progress.world _ _ :=
    .inserted table bindings values progress.store progress.stream
  refine ⟨(store.insertRow table bindings values progress.store progress.stream).answer, ?_⟩
  unfold insertValues
  dsimp only
  split <;> exact hoccurs

/-! ### The rows of a table -/

/-- Attempts are made until enough rows were handed over or a key is missing. -/
theorem trace_attemptRows (store : RowStore σ) (table : String) (bindings : List ColumnBinding)
    (sources : List (String × ValueSource)) (remaining row : Nat) (tally : Tally)
    (progress : Progress σ) :
    ∃ (attempts : List Attempt) (last : List Step),
      (∀ attempt ∈ attempts, attempt.values.length = (sources.map (·.2)).length) ∧
      (attempts.length = remaining ∧ last = [] ∨
        attempts.length < remaining ∧ Stuck (sources.map (·.2)) last) ∧
      Trace store progress.world
        (attempts.flatMap (Attempt.steps table bindings (sources.map (·.2))) ++ last)
        (attemptRows store table bindings sources remaining row tally progress).2.2.world := by
  induction remaining generalizing row tally progress with
  | zero => exact ⟨[], [], by simp, .inl ⟨rfl, rfl⟩, .nil⟩
  | succ remaining ih =>
      unfold attemptRows
      rcases hvalues : rowValues store table sources progress with ⟨_ | values, middle⟩
      · obtain ⟨steps, hstuck, htrace⟩ := trace_of_rowValues_eq_error hvalues
        exact ⟨[], steps, by simp, .inr ⟨Nat.succ_pos _, hstuck⟩, htrace⟩
      obtain ⟨hlength, hsupplied⟩ := trace_of_rowValues_eq_ok hvalues
      obtain ⟨answer, hinserted⟩ :=
        occurs_insertValues store table bindings row values tally middle
      rcases hinsert : insertValues store table bindings row values tally middle with ⟨tally, next⟩
      rw [hinsert] at hinserted
      obtain ⟨attempts, last, hcomplete, hend, hrest⟩ := ih (row + 1) tally next
      refine ⟨⟨values, answer⟩ :: attempts, last, ?_, ?_, ?_⟩
      · simpa [hlength] using hcomplete
      · simpa using hend
      · simp only [hinsert, List.flatMap_cons, Attempt.steps, List.append_assoc]
        exact hsupplied.append (.cons hinserted hrest)

end Population

end SyntheticRows
