import SyntheticRows.Store.Basic
/-!
Row stores around another one: one that records the calls it gets, and one that fails at chosen
calls without passing them on.
-/

namespace SyntheticRows

inductive StoreCall where
  | insert (table : String) (columns : List ColumnBinding) (values : List String)
  | sample (table column : String)
  deriving DecidableEq, Repr

namespace RowStore

variable {σ : Type}

def recordCall {α : Type} (calls : Array StoreCall) (call : StoreCall) (reply : StoreReply σ α) :
    StoreReply (σ × Array StoreCall) α :=
  { reply with store := (reply.store, calls.push call) }

/-- Passes each call on and records it. -/
def recording (inner : RowStore σ) : RowStore (σ × Array StoreCall) :=
  { insertRow := fun table columns values (store, calls) stream =>
      recordCall calls (.insert table columns values)
        (inner.insertRow table columns values store stream)
    sampleKey := fun table column (store, calls) stream =>
      recordCall calls (.sample table column) (inner.sampleKey table column store stream) }

end RowStore

/-- The calls that fail, by their number from one on; inserts and samples are numbered apart. -/
structure FaultPlan where
  rejectedInserts : List Nat
  failedSamples : List Nat
  emptySamples : List Nat
  deriving DecidableEq, Repr

/-- A store with the numbers of inserts and samples that it was asked for. -/
structure Faulty (σ : Type) where
  store : σ
  inserts : Nat
  samples : Nat

namespace RowStore

variable {σ : Type}

def faultReason (number : Nat) : String :=
  "fault " ++ toString number

/-- Fails at the calls of a plan and passes all others on. -/
def faulty (plan : FaultPlan) (inner : RowStore σ) : RowStore (Faulty σ) :=
  { insertRow := fun table columns values state stream =>
      let number := state.inserts + 1
      let counted := { state with inserts := number }
      if plan.rejectedInserts.contains number then
        { answer := .error (.rejected (faultReason number)), store := counted, stream, events := [] }
      else
        let reply := inner.insertRow table columns values state.store stream
        { reply with store := { counted with store := reply.store } }
    sampleKey := fun table column state stream =>
      let number := state.samples + 1
      let counted := { state with samples := number }
      if plan.failedSamples.contains number then
        { answer := .error (.query (faultReason number)), store := counted, stream, events := [] }
      else if plan.emptySamples.contains number then
        { answer := .ok none, store := counted, stream, events := [] }
      else
        let reply := inner.sampleKey table column state.store stream
        { reply with store := { counted with store := reply.store } } }

end RowStore

end SyntheticRows
