import SyntheticRows.Store.Wrapped
/-!
# Stores that do not look at values

A store is oblivious for a relation of its states if related states answer alike: an insert of as
many values is accepted or refused for the same reason, a sample gives some value on both sides or
on none, and the states stay related. The random streams of the two sides need not agree. A store
that records its calls or that is cut off at chosen ones is as oblivious as the store inside.
-/

namespace SyntheticRows

variable {σ : Type}

/-- The same call with blanks for the values. -/
def StoreCall.blank : StoreCall → StoreCall
  | insert table columns values => insert table columns (values.map fun _ => "")
  | sample table column => sample table column

theorem StoreCall.blank_insert_congr (table : String) (columns : List ColumnBinding)
    {values values' : List String} (h : values.length = values'.length) :
    (insert table columns values).blank = (insert table columns values').blank := by
  simp only [blank, List.map_const', h]

/-- Replies that agree in their events and in a view of their answers. -/
structure StoreReply.Alike {α β : Type} (alike : σ → σ → Prop) (view : α → β)
    (left right : StoreReply σ α) : Prop where
  answer : left.answer.map view = right.answer.map view
  store : alike left.store right.store
  events : left.events = right.events

/-- Of an insert the whole answer counts, of a sample only whether there is a value. -/
structure RowStore.Oblivious (store : RowStore σ) (alike : σ → σ → Prop) : Prop where
  insertRow : ∀ (table : String) (columns : List ColumnBinding) {values values' : List String}
    {state state' : σ} (stream stream' : RandomStream), values.length = values'.length →
      alike state state' →
        (store.insertRow table columns values state stream).Alike alike id
          (store.insertRow table columns values' state' stream')
  sampleKey : ∀ (table column : String) {state state' : σ} (stream stream' : RandomStream),
    alike state state' →
      (store.sampleKey table column state stream).Alike alike Option.isSome
        (store.sampleKey table column state' stream')

namespace RowStore

variable {store : RowStore σ} {alike : σ → σ → Prop}

/-- Related states, with records that are the same but for the values. -/
def AlikeRecords (alike : σ → σ → Prop) (left right : σ × Array StoreCall) : Prop :=
  alike left.1 right.1 ∧ left.2.map StoreCall.blank = right.2.map StoreCall.blank

theorem recordCall_alike {α β : Type} {view : α → β} {calls calls' : Array StoreCall}
    {call call' : StoreCall} {left right : StoreReply σ α} (h : left.Alike alike view right)
    (hcalls : calls.map StoreCall.blank = calls'.map StoreCall.blank)
    (hcall : call.blank = call'.blank) :
    (recordCall calls call left).Alike (AlikeRecords alike) view (recordCall calls' call' right) :=
  ⟨h.answer, ⟨h.store, by simp only [recordCall, Array.map_push, hcalls, hcall]⟩, h.events⟩

theorem Oblivious.recording (h : store.Oblivious alike) :
    store.recording.Oblivious (AlikeRecords alike) := by
  constructor
  · rintro table columns values values' state state' stream stream' hvalues ⟨hstate, hcalls⟩
    exact recordCall_alike (h.insertRow table columns stream stream' hvalues hstate) hcalls
      (StoreCall.blank_insert_congr table columns hvalues)
  · rintro table column state state' stream stream' ⟨hstate, hcalls⟩
    exact recordCall_alike (h.sampleKey table column stream stream' hstate) hcalls rfl

end RowStore

/-! ### Outages -/

/-- What a sample gets in place of the answer of the store. -/
inductive SampleOutage where
  | failed (cause : StoreError)
  | empty

def SampleOutage.answer : SampleOutage → Except StoreError (Option String)
  | failed cause => .error cause
  | empty => .ok none

/-- The calls that do not reach the store, by their number from one on; inserts and samples are
numbered apart. -/
structure Outages where
  insert? : Nat → Option StoreError
  sample? : Nat → Option SampleOutage

def Outages.never : Outages :=
  { insert? := fun _ => none, sample? := fun _ => none }

/-- A failure of a sample comes before an empty answer to it. -/
def Outages.ofPlan (plan : FaultPlan) : Outages :=
  { insert? := fun number =>
      if plan.rejectedInserts.contains number then some (.rejected (RowStore.faultReason number))
      else none
    sample? := fun number =>
      if plan.failedSamples.contains number then
        some (.failed (.query (RowStore.faultReason number)))
      else if plan.emptySamples.contains number then some .empty
      else none }

/-- Related states behind as many inserts and as many samples. -/
structure Faulty.Alike (alike : σ → σ → Prop) (left right : Faulty σ) : Prop where
  store : alike left.store right.store
  inserts : left.inserts = right.inserts
  samples : left.samples = right.samples

namespace RowStore

variable {store : RowStore σ} {alike : σ → σ → Prop}

/-- Passes on all calls but those of an outage. -/
def interrupted (outages : Outages) (inner : RowStore σ) : RowStore (Faulty σ) :=
  { insertRow := fun table columns values state stream =>
      let counted := { state with inserts := state.inserts + 1 }
      match outages.insert? counted.inserts with
      | some cause => { answer := .error cause, store := counted, stream, events := [] }
      | none =>
          let reply := inner.insertRow table columns values state.store stream
          { reply with store := { counted with store := reply.store } }
    sampleKey := fun table column state stream =>
      let counted := { state with samples := state.samples + 1 }
      match outages.sample? counted.samples with
      | some outage => { answer := outage.answer, store := counted, stream, events := [] }
      | none =>
          let reply := inner.sampleKey table column state.store stream
          { reply with store := { counted with store := reply.store } } }

/-- A plan of faults is a schedule of outages. -/
theorem faulty_eq_interrupted (plan : FaultPlan) (inner : RowStore σ) :
    inner.faulty plan = inner.interrupted (.ofPlan plan) := by
  unfold faulty interrupted Outages.ofPlan
  congr 1
  · funext table columns values state stream
    dsimp only
    split <;> rfl
  · funext table column state stream
    dsimp only
    split
    · rfl
    · split <;> rfl

theorem Oblivious.interrupted (h : store.Oblivious alike) (outages : Outages) :
    (store.interrupted outages).Oblivious (Faulty.Alike alike) := by
  constructor
  · intro table columns values values' state state' stream stream' hvalues hstate
    have hinner := h.insertRow table columns stream stream' hvalues hstate.store
    unfold RowStore.interrupted
    simp only [hstate.inserts]
    cases outages.insert? (state'.inserts + 1) with
    | some cause => exact ⟨rfl, ⟨hstate.store, rfl, hstate.samples⟩, rfl⟩
    | none => exact ⟨hinner.answer, ⟨hinner.store, rfl, hstate.samples⟩, hinner.events⟩
  · intro table column state state' stream stream' hstate
    have hinner := h.sampleKey table column stream stream' hstate.store
    unfold RowStore.interrupted
    simp only [hstate.samples]
    cases outages.sample? (state'.samples + 1) with
    | some outage => exact ⟨rfl, ⟨hstate.store, hstate.inserts, rfl⟩, rfl⟩
    | none => exact ⟨hinner.answer, ⟨hinner.store, hstate.inserts, rfl⟩, hinner.events⟩

end RowStore

end SyntheticRows
