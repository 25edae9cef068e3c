import SyntheticRows.Proofs.Population.Recording
/-!
# The report of a table adds up

Each attempt at a row ends with an answer of the store, unless a key is missing, and then it is the
last one. So the number of an attempt is the number of answers before it, and the tally, the report
and the warnings can all be read off the answers.
-/

namespace SyntheticRows

variable {σ : Type}

/-- The answer to an insert. -/
def Step.insertAnswer? : Step → Option (Except StoreError Unit)
  | inserted _ _ _ answer => some answer
  | _ => none

/-- Passes each call on and notes it with its answer. -/
def RowStore.noting (inner : RowStore σ) : RowStore (σ × List Step) :=
  { insertRow := fun table bindings values (state, steps) stream =>
      let reply := inner.insertRow table bindings values state stream
      { reply with
        store := (reply.store, steps ++ [.inserted table bindings values reply.answer]) }
    sampleKey := fun table column (state, steps) stream =>
      let reply := inner.sampleKey table column state stream
      { reply with store := (reply.store, steps ++ [.sampled ⟨table, column⟩ reply.answer]) } }

theorem RowStore.noting_projects (store : RowStore σ) :
    RowStore.Projects Prod.fst store.noting store :=
  ⟨fun _ _ _ _ _ => rfl, fun _ _ _ _ => rfl⟩

def Event.isRowWarning (event : Event) : Bool :=
  event.level = .warn ∧ event.message? = some "row insert failed"

/-- The warnings that answers call for, each with the number of the attempt from zero on. -/
def refusalWarnings (table : String) (answers : List (Except StoreError Unit)) : List Event :=
  answers.zipIdx.filterMap fun
    | (.error cause, row) => some (.rowFailed table row cause.message)
    | (.ok (), _) => none

theorem refusalWarnings_concat_ok (table : String) (answers : List (Except StoreError Unit)) :
    refusalWarnings table (answers ++ [.ok ()]) = refusalWarnings table answers := by
  simp [refusalWarnings, List.zipIdx_append]

theorem refusalWarnings_concat_error (table : String) (answers : List (Except StoreError Unit))
    (cause : StoreError) :
    refusalWarnings table (answers ++ [.error cause]) =
      refusalWarnings table answers ++ [.rowFailed table answers.length cause.message] := by
  simp [refusalWarnings, List.zipIdx_append]

namespace Progress

variable (progress : Progress (σ × List Step))

def insertAnswers : List (Except StoreError Unit) :=
  progress.store.2.filterMap Step.insertAnswer?

def rowWarnings {σ : Type} (progress : Progress σ) : List Event :=
  progress.events.toList.filter Event.isRowWarning

end Progress

theorem rowWarnings_report (progress : Progress σ) (event : Event) :
    (progress.report event).rowWarnings =
      progress.rowWarnings ++ [event].filter Event.isRowWarning := by
  simp [Progress.rowWarnings, Progress.report, List.filter_append]

/-- What a store reports is no warning about a row. -/
theorem rowWarnings_afterReply {α : Type} (progress : Progress σ) (reply : StoreReply σ α) :
    (progress.afterReply reply).rowWarnings = progress.rowWarnings := by
  have hnone : (reply.events.map Event.store).filter Event.isRowWarning = [] := by
    rw [List.filter_map, List.map_eq_nil_iff, List.filter_eq_nil_iff]
    rintro ⟨table, column⟩ _
    simp [Event.isRowWarning, Event.message?]
  simp [Progress.rowWarnings, Progress.afterReply, List.filter_append, hnone]

/-- The counters are the numbers of inserts by their answers, and the status tells how their sum
compares with the rows that were requested. -/
structure TableReport.AddsUp (report : TableReport) (answers : List (Except StoreError Unit)) :
    Prop where
  inserted : report.rowsInserted.toNat = answers.countP (·.isOk)
  failed : report.rowsFailed.toNat = answers.countP (!·.isOk)
  bounded : report.rowsInserted.toNat + report.rowsFailed.toNat ≤ report.rowsRequested.toNat
  skipped : report.status = .skipped ↔ report.rowsRequested = 0
  completed : report.status = .completed ↔ 0 < report.rowsRequested ∧
    report.rowsInserted.toNat + report.rowsFailed.toNat = report.rowsRequested.toNat
  aborted : (∃ reason, report.status = .aborted reason) ↔
    report.rowsInserted.toNat + report.rowsFailed.toNat < report.rowsRequested.toNat

/-! ### Answers, tally and warnings -/

/-- Between two states no insert was answered and no row was warned about. -/
structure Uneventful (before after : Progress (σ × List Step)) : Prop where
  insertAnswers : after.insertAnswers = before.insertAnswers
  rowWarnings : after.rowWarnings = before.rowWarnings

theorem Uneventful.trans {before middle after : Progress (σ × List Step)}
    (h : Uneventful before middle) (h' : Uneventful middle after) : Uneventful before after :=
  ⟨h'.insertAnswers.trans h.insertAnswers, h'.rowWarnings.trans h.rowWarnings⟩

/-- The tally and the warnings follow from the answers, of which there is one for each attempt. -/
structure Accounted (table : String) (earlier : List Event) (row : Nat) (tally : Tally)
    (progress : Progress (σ × List Step)) : Prop where
  attempts : progress.insertAnswers.length = row
  inserted : tally.inserted = progress.insertAnswers.countP (·.isOk)
  failed : tally.failed = progress.insertAnswers.countP (!·.isOk)
  warnings : progress.rowWarnings = earlier ++ refusalWarnings table progress.insertAnswers

namespace Accounted

variable {table : String} {earlier : List Event} {row : Nat} {tally : Tally}
  {progress after : Progress (σ × List Step)}

theorem uneventful (h : Accounted table earlier row tally progress)
    (hquiet : Uneventful progress after) : Accounted table earlier row tally after := by
  constructor
  · rw [hquiet.insertAnswers, h.attempts]
  · rw [hquiet.insertAnswers, h.inserted]
  · rw [hquiet.insertAnswers, h.failed]
  · rw [hquiet.insertAnswers, hquiet.rowWarnings, h.warnings]

/-- Each attempt is counted once. -/
theorem inserted_add_failed (h : Accounted table earlier row tally progress) :
    tally.inserted + tally.failed = row := by
  rw [h.inserted, h.failed, ← h.attempts, List.length_eq_countP_add_countP (·.isOk)]
  simp

end Accounted

namespace Population

variable {table : String} {earlier : List Event} {row : Nat} {tally : Tally}
  {progress : Progress (σ × List Step)}

theorem uneventful_columnValue (store : RowStore σ) (table column : String) (source : ValueSource)
    (progress : Progress (σ × List Step)) :
    Uneventful progress (columnValue store.noting table column source progress).2 := by
  cases source with
  | generated generator => exact ⟨rfl, rfl⟩
  | referenced key =>
      have hquiet : Uneventful progress (progress.afterReply
          (store.noting.sampleKey key.table key.column progress.store progress.stream)) := by
        refine ⟨?_, rowWarnings_afterReply progress _⟩
        simp [Progress.insertAnswers, Progress.afterReply, RowStore.noting, Step.insertAnswer?]
      unfold columnValue
      dsimp only
      split <;> exact hquiet

theorem uneventful_rowValues (store : RowStore σ) (table : String)
    (sources : List (String × ValueSource)) (progress : Progress (σ × List Step)) :
    Uneventful progress (rowValues store.noting table sources progress).2 := by
  induction sources generalizing progress with
  | nil => exact ⟨rfl, rfl⟩
  | cons entry sources ih =>
      obtain ⟨column, source⟩ := entry
      have hfirst := uneventful_columnValue store table column source progress
      unfold rowValues
      generalize columnValue store.noting table column source progress = first at hfirst ⊢
      obtain ⟨_ | value, middle⟩ := first
      · exact hfirst
      · have hrest := hfirst.trans (ih middle)
        dsimp only
        generalize rowValues store.noting table sources middle = rest at hrest ⊢
        obtain ⟨_ | values, last⟩ := rest
        · exact hrest
        · exact hrest

/-- An insert is counted as it is answered, and a refusal is warned about under its number. -/
theorem accounted_insertValues (store : RowStore σ)
    (h : Accounted table earlier row tally progress) (bindings : List ColumnBinding)
    (values : List String) :
    Accounted table earlier (row + 1)
      (insertValues store.noting table bindings row values tally progress).1
      (insertValues store.noting table bindings row values tally progress).2 := by
  have hanswers : (progress.afterReply
      (store.noting.insertRow table bindings values progress.store progress.stream)).insertAnswers =
        progress.insertAnswers ++ [(store.noting.insertRow table bindings values progress.store
          progress.stream).answer] := by
    simp [Progress.insertAnswers, Progress.afterReply, RowStore.noting, Step.insertAnswer?]
  unfold insertValues
  generalize store.noting.insertRow table bindings values progress.store progress.stream = reply
    at hanswers ⊢
  have hwarnings := rowWarnings_afterReply progress reply
  dsimp only
  cases hanswer : reply.answer with
  | ok =>
      rw [hanswer] at hanswers
      constructor
      · rw [hanswers, List.length_append, h.attempts, List.length_singleton]
      · rw [hanswers, List.countP_append, h.inserted]
        rfl
      · rw [hanswers, List.countP_append, h.failed]
        rfl
      · rw [hwarnings, h.warnings, hanswers]
        exact congrArg _ (refusalWarnings_concat_ok table _).symm
  | error cause =>
      rw [hanswer] at hanswers
      have hreported : ((progress.afterReply reply).report
          (.rowFailed table row cause.message)).insertAnswers =
            progress.insertAnswers ++ [.error cause] := hanswers
      constructor
      · rw [hreported, List.length_append, h.attempts, List.length_singleton]
      · rw [hreported, List.countP_append, h.inserted]
        rfl
      · rw [hreported, List.countP_append, h.failed]
        rfl
      · rw [rowWarnings_report, hwarnings, h.warnings, hreported, refusalWarnings_concat_error,
          h.attempts, List.append_assoc]
        rfl

/-- An attempt without values is the last one, and it is not counted. -/
theorem accounted_attemptRows (store : RowStore σ)
    (h : Accounted table earlier row tally progress) (bindings : List ColumnBinding)
    (sources : List (String × ValueSource)) (remaining : Nat) :
    let result := attemptRows store.noting table bindings sources remaining row tally progress
    ∃ last, Accounted table earlier last result.2.1 result.2.2 ∧
      (result.1 = .ok () → last = row + remaining) ∧
      ∀ cause, result.1 = .error cause → last < row + remaining := by
  induction remaining generalizing row tally progress with
  | zero => exact ⟨row, h, fun _ => rfl, fun cause hcause => by cases hcause⟩
  | succ remaining ih =>
      have hvalues := uneventful_rowValues store table sources progress
      unfold attemptRows
      generalize rowValues store.noting table sources progress = first at hvalues ⊢
      obtain ⟨cause | values, middle⟩ := first
      · exact ⟨row, h.uneventful hvalues, fun hok => (by cases hok), fun _ _ => by omega⟩
      · obtain ⟨last, haccounted, hok, herror⟩ :=
          ih (accounted_insertValues store (h.uneventful hvalues) bindings values)
        refine ⟨last, haccounted, fun hend => ?_, fun cause hend => ?_⟩
        · have := hok hend
          omega
        · have := herror cause hend
          omega

theorem accounted_insertRows (store : RowStore σ) (tables : List PlannedTable)
    {table : PlannedTable} (hrows : table.rows ≠ 0) (hstart : progress.insertAnswers = []) :
    let result := insertRows store.noting table tables progress
    ∃ last, Accounted table.name progress.rowWarnings last result.2.1 result.2.2 ∧
      (result.1 = .ok () → last = table.rows.toNat) ∧
      ∀ cause, result.1 = .error cause → last < table.rows.toNat := by
  have h : Accounted table.name progress.rowWarnings 0 ⟨0, 0⟩ progress := by
    constructor <;> simp [hstart, refusalWarnings]
  have hpositive : 0 < table.rows.toNat :=
    Nat.pos_of_ne_zero fun hzero => hrows (UInt64.toNat_inj.mp hzero)
  unfold insertRows
  dsimp only
  cases table.insertColumns.mapM (·.source table tables) with
  | error cause => exact ⟨0, h, fun hok => (by cases hok), fun _ _ => hpositive⟩
  | ok sources =>
      have hattempts := accounted_attemptRows store h
        (table.insertColumns.map (·.binding)) sources table.rows.toNat
      rwa [Nat.zero_add] at hattempts

/-! ### The report -/

/-- Counts that do not exceed the rows wanted fit their counters. -/
theorem toNat_tableReport {table : PlannedTable} {tally : Tally}
    (h : tally.inserted + tally.failed ≤ table.rows.toNat) (status : TableStatus) :
    (tableReport table tally status).rowsInserted.toNat = tally.inserted ∧
      (tableReport table tally status).rowsFailed.toNat = tally.failed := by
  have hlimit := table.rows.toNat_lt
  simp only [tableReport, Nat.toUInt64_eq, UInt64.toNat_ofNat']
  omega

theorem addsUp_tableReport {table : PlannedTable}
    (h : Accounted table.name earlier row tally progress) (hbound : row ≤ table.rows.toNat)
    {status : TableStatus} (hskipped : status = .skipped ↔ table.rows = 0)
    (hcompleted : status = .completed ↔ 0 < table.rows ∧ row = table.rows.toNat)
    (haborted : (∃ reason, status = .aborted reason) ↔ row < table.rows.toNat) :
    (tableReport table tally status).AddsUp progress.insertAnswers := by
  have hsum := h.inserted_add_failed
  obtain ⟨hinserted, hfailed⟩ := toNat_tableReport (hsum.trans_le hbound) status
  constructor
  · rw [hinserted, h.inserted]
  · rw [hfailed, h.failed]
  · rw [hinserted, hfailed, hsum]
    exact hbound
  · exact hskipped
  · rw [hinserted, hfailed, hsum]
    exact hcompleted
  · rw [hinserted, hfailed, hsum]
    exact haborted

theorem addsUp_populateTable (store : RowStore σ) (tables : List PlannedTable)
    {table : PlannedTable} (hrows : table.rows ≠ 0) (hstart : progress.insertAnswers = []) :
    let result := populateTable store.noting tables table progress
    result.1.AddsUp result.2.insertAnswers ∧
      result.2.rowWarnings =
        progress.rowWarnings ++ refusalWarnings table.name result.2.insertAnswers := by
  have hpositive : 0 < table.rows := UInt64.pos_iff_ne_zero.mpr hrows
  have hbegin : (progress.report (.populatingTable table.name table.rows)).rowWarnings =
      progress.rowWarnings := by
    rw [rowWarnings_report]
    exact List.append_nil _
  obtain ⟨last, haccounted, hok, herror⟩ := accounted_insertRows store tables hrows
    (show (progress.report (.populatingTable table.name table.rows)).insertAnswers = [] from hstart)
  rw [hbegin] at haccounted
  unfold populateTable
  simp only [if_neg hrows]
  generalize insertRows store.noting table tables
    (progress.report (.populatingTable table.name table.rows)) = result at haccounted hok herror ⊢
  obtain ⟨cause | ⟨⟩, tally, after⟩ := result
  · have hlt := herror cause rfl
    refine ⟨addsUp_tableReport haccounted hlt.le (by simp [hrows]) ?_ (by simp [hlt]), ?_⟩
    · simp [hlt.ne]
    · rw [rowWarnings_report]
      exact (List.append_nil _).trans haccounted.warnings
  · have heq := hok rfl
    refine ⟨addsUp_tableReport haccounted heq.le (by simp [hrows]) ?_ (by simp [heq]), ?_⟩
    · simp [heq, hpositive]
    · rw [rowWarnings_report]
      exact (List.append_nil _).trans haccounted.warnings

theorem exists_tableReport_eq_populateTable {σ : Type} (store : RowStore σ)
    (tables : List PlannedTable) (table : PlannedTable) (progress : Progress σ) :
    ∃ tally status, (populateTable store tables table progress).1 =
      tableReport table tally status := by
  unfold populateTable
  split
  · exact ⟨_, _, rfl⟩
  · dsimp only
    split
    · exact ⟨_, _, rfl⟩
    · exact ⟨_, _, rfl⟩

/-- **The report of a table adds up.** Its counters are the numbers of answers of either kind, its
status compares their sum with the rows that were requested, a table without rows makes no call, and
the warnings carry the numbers of the attempts that were refused, in their order. -/
theorem populateTable_report_adds_up {σ : Type} (store : RowStore σ) (tables : List PlannedTable)
    (table : PlannedTable) (progress : Progress σ) :
    let noted := populateTable store.noting tables table (progress.mapStore (·, []))
    populateTable store tables table progress = noted.map id (Progress.mapStore Prod.fst) ∧
      noted.1.table = table.name ∧ noted.1.rowsRequested = table.rows ∧
      noted.1.AddsUp noted.2.insertAnswers ∧ (table.rows = 0 → noted.2.store.2 = []) ∧
      noted.2.rowWarnings =
        progress.rowWarnings ++ refusalWarnings table.name noted.2.insertAnswers := by
  intro noted
  have hinner : populateTable store tables table progress =
      noted.map id (Progress.mapStore Prod.fst) :=
    populateTable_mapStore store.noting_projects tables table (progress.mapStore (·, []))
  obtain ⟨tally, status, hreport⟩ := exists_tableReport_eq_populateTable store.noting tables table
    (progress.mapStore (·, []))
  refine ⟨hinner, congrArg (·.table) hreport, congrArg (·.rowsRequested) hreport, ?_⟩
  by_cases hrows : table.rows = 0
  · have hnoted : noted = (tableReport table ⟨0, 0⟩ .skipped,
        (progress.mapStore (·, [])).report (.nothingRequested table.name)) := if_pos hrows
    rw [hnoted]
    refine ⟨?_, fun _ => rfl, ?_⟩
    · constructor <;>
        simp [tableReport, hrows, Progress.insertAnswers, Progress.mapStore, Progress.report]
    · rw [rowWarnings_report]
      rfl
  · have hstart : (progress.mapStore (·, ([] : List Step))).insertAnswers = [] := rfl
    obtain ⟨haddsUp, hwarnings⟩ := addsUp_populateTable store tables hrows hstart
    exact ⟨haddsUp, fun hzero => absurd hzero hrows, hwarnings⟩

end Population

end SyntheticRows
