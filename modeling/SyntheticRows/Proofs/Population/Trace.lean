import SyntheticRows.Population.Engine
import SyntheticRows.Store.Wrapped
/-!
# What a run does with its store

A run deals with its surroundings in steps: it draws a value, samples a key or hands over a row. A
trace lists the steps between two states of the store and the random stream, each with the answer
that was got there. A store that records its calls shows the calls of the trace and nothing else.
-/

namespace SyntheticRows

variable {σ : Type}

/-- A dealing of a run with its surroundings, with what came back. -/
inductive Step where
  | drew (generator : Producer) (value : String)
  | sampled (key : ReferenceKey) (answer : Except StoreError (Option String))
  | inserted (table : String) (bindings : List ColumnBinding) (values : List String)
      (answer : Except StoreError Unit)

namespace Step

/-- The call that a store gets; a draw is none. -/
def call? : Step → Option StoreCall
  | drew _ _ => none
  | sampled key _ => some (.sample key.table key.column)
  | inserted table bindings values _ => some (.insert table bindings values)

end Step

/-- The state of a store and the place in the random stream. -/
abbrev World (σ : Type) := σ × RandomStream

def Progress.world (progress : Progress σ) : World σ :=
  (progress.store, progress.stream)

def StoreReply.world {α : Type} (reply : StoreReply σ α) : World σ :=
  (reply.store, reply.stream)

/-- A step takes one world to the next, with the value or the answer that is due there. -/
inductive Occurs (store : RowStore σ) : World σ → Step → World σ → Prop where
  | drew (generator : Producer) (state : σ) (stream : RandomStream) :
      Occurs store (state, stream) (.drew generator (generator.draw stream).1)
        (state, (generator.draw stream).2)
  | sampled (key : ReferenceKey) (state : σ) (stream : RandomStream) :
      Occurs store (state, stream)
        (.sampled key (store.sampleKey key.table key.column state stream).answer)
        (store.sampleKey key.table key.column state stream).world
  | inserted (table : String) (bindings : List ColumnBinding) (values : List String) (state : σ)
      (stream : RandomStream) :
      Occurs store (state, stream)
        (.inserted table bindings values (store.insertRow table bindings values state stream).answer)
        (store.insertRow table bindings values state stream).world

inductive Trace (store : RowStore σ) : World σ → List Step → World σ → Prop where
  | nil {world : World σ} : Trace store world [] world
  | cons {first second last : World σ} {step : Step} {steps : List Step}
      (head : Occurs store first step second) (tail : Trace store second steps last) :
      Trace store first (step :: steps) last

namespace Trace

variable {store : RowStore σ} {first second last : World σ} {steps later : List Step}

theorem single {step : Step} (h : Occurs store first step last) : Trace store first [step] last :=
  .cons h .nil

theorem occurs_of_singleton {step : Step} (h : Trace store first [step] last) :
    Occurs store first step last := by
  cases h with
  | cons head tail =>
      cases tail
      exact head

theorem append (h : Trace store first steps second) (h' : Trace store second later last) :
    Trace store first (steps ++ later) last := by
  induction h with
  | nil => exact h'
  | cons head _ ih => exact .cons head (ih h')

theorem exists_of_append (h : Trace store first (steps ++ later) last) :
    ∃ second, Trace store first steps second ∧ Trace store second later last := by
  induction steps generalizing first with
  | nil => exact ⟨first, .nil, h⟩
  | cons step steps ih =>
      cases h with
      | cons head tail =>
          obtain ⟨second, hsteps, hlater⟩ := ih tail
          exact ⟨second, .cons head hsteps, hlater⟩

/-- A step of a trace occurs behind some of the other steps. -/
theorem exists_occurs_of_mem {step : Step} (h : Trace store first steps last)
    (hmem : step ∈ steps) :
    ∃ front before after, Trace store first front before ∧ Occurs store before step after := by
  obtain ⟨front, back, rfl⟩ := List.append_of_mem hmem
  obtain ⟨before, hfront, hback⟩ := h.exists_of_append
  cases hback with
  | cons head tail => exact ⟨front, before, _, hfront, head⟩

end Trace

namespace RowStore

variable {store : RowStore σ} {step : Step} {steps : List Step} {state state' : σ}
  {calls calls' : Array StoreCall} {stream stream' : RandomStream}

/-- A recording store deals like the store inside and notes the call of the step. -/
theorem occurs_of_occurs_recording
    (h : Occurs store.recording ((state, calls), stream) step ((state', calls'), stream')) :
    Occurs store (state, stream) step (state', stream') ∧
      calls'.toList = calls.toList ++ step.call?.toList := by
  generalize hfirst : ((state, calls), stream) = first at h
  generalize hlast : ((state', calls'), stream') = last at h
  cases h with
  | drew generator =>
      cases hfirst
      cases hlast
      exact ⟨.drew generator state stream, by simp [Step.call?]⟩
  | sampled key =>
      cases hfirst
      cases hlast
      exact ⟨.sampled key state stream, by simp [Step.call?]⟩
  | inserted table bindings values =>
      cases hfirst
      cases hlast
      exact ⟨.inserted table bindings values state stream, by simp [Step.call?]⟩

theorem trace_of_trace_recording
    (h : Trace store.recording ((state, calls), stream) steps ((state', calls'), stream')) :
    Trace store (state, stream) steps (state', stream') ∧
      calls'.toList = calls.toList ++ steps.filterMap Step.call? := by
  induction steps generalizing state calls stream with
  | nil =>
      cases h
      exact ⟨.nil, by simp⟩
  | cons step steps ih =>
      cases h with
      | @cons _ second _ _ _ head tail =>
          obtain ⟨⟨state, calls⟩, stream⟩ := second
          obtain ⟨hhead, hcall⟩ := occurs_of_occurs_recording head
          obtain ⟨htail, hcalls⟩ := ih tail
          refine ⟨.cons hhead htail, ?_⟩
          rw [hcalls, hcall]
          cases hcall : step.call? <;> simp [hcall]

end RowStore

end SyntheticRows
