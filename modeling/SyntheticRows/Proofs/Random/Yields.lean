import SyntheticRows.Generator.Filler
import SyntheticRows.Proofs.Random.Draw
import SyntheticRows.Proofs.Text.Numeral
/-!
# What draws yield

A draw yields a property if every value that it can draw has it, from whatever place of the stream. What
a draw in several steps yields follows from what its steps yield, so that no proof about a generator
has to look at the stream.
-/

namespace SyntheticRows.Draw

open Text

variable {α β : Type} {draw : Draw α} {next : α → Draw β} {P : α → Prop} {Q : β → Prop}

/-- Every value that can be drawn has the property. -/
def Yields (draw : Draw α) (property : α → Prop) : Prop :=
  ∀ stream, property (draw stream).1

namespace Yields

theorem imp {P' : α → Prop} (h : Yields draw P) (himp : ∀ value, P value → P' value) :
    Yields draw P' := fun stream => himp _ (h stream)

theorem pure {value : α} (h : P value) : Yields (pure value) P := fun _ => h

/-- What is drawn first is all that the rest has to know. -/
theorem bind (h : Yields draw P) (hnext : ∀ value, P value → Yields (next value) Q) :
    Yields (draw >>= next) Q := fun stream => hnext _ (h stream) (draw stream).2

/-- Nothing has to be known of what is drawn first. -/
theorem bind_of_forall (hnext : ∀ value, Yields (next value) Q) : Yields (draw >>= next) Q :=
  fun stream => hnext _ (draw stream).2

theorem map {f : α → β} (h : Yields draw fun value => Q (f value)) : Yields (f <$> draw) Q :=
  fun stream => h stream

/-- Draws that are repeated yield what each of them yields. -/
theorem times (h : Yields draw P) (count : Nat) :
    Yields (times draw count) fun values => values.length = count ∧ ∀ value ∈ values, P value := by
  induction count with
  | zero => exact .pure ⟨rfl, List.forall_mem_nil _⟩
  | succ count ih =>
      refine h.bind fun first hfirst => ih.bind fun rest hrest => .pure ?_
      exact ⟨congrArg (· + 1) hrest.1, List.forall_mem_cons.mpr ⟨hfirst, hrest.2⟩⟩

/-- However little is known of a draw, repeating it draws as many values. -/
theorem length_times (draw : Draw α) (count : Nat) :
    Yields (Draw.times draw count) fun values => values.length = count :=
  (times (P := fun _ => True) (fun _ => trivial) count).imp fun _ h => h.1

end Yields

/-! ### Numbers, digits and words -/

theorem yields_range {low high : Nat} (h : low < high) :
    Yields (range low high) fun value => low ≤ value ∧ value < high :=
  fun stream => ⟨Nat.le_add_right low _, range_lt h stream⟩

theorem yields_integer {low high : Int} (h : low < high) :
    Yields (integer low high) fun value => low ≤ value ∧ value < high := by
  have hcount : 0 < (high - low).toNat := by omega
  refine Yields.map fun stream => ?_
  have hlt := below64_lt hcount stream
  simp only [Int.ofNat_eq_natCast]
  omega

theorem yields_size {low high : Nat} (h : low < high) :
    Yields (size low high) fun value => low ≤ value ∧ value < high := by
  refine fun stream => ⟨?_, size_lt h stream⟩
  unfold size
  split
  · exact Nat.le_add_right low _
  · exact Nat.le_add_right low _

theorem yields_digit : Yields digit fun c => c.isDigit = true := by
  refine (yields_range (by decide)).bind fun value hvalue => .pure ?_
  have hdigit : ∀ value < 10, (Nat.digitChar value).isDigit = true := by decide
  exact hdigit value hvalue.2

theorem yields_fixedText {kind : Char → Prop} {draw : Draw Char} (h : Yields draw kind)
    (count : Nat) : Yields (times draw count) (FixedText kind count) :=
  (h.times count).imp fun _ ⟨hlength, hkind⟩ => ⟨hlength, hkind⟩

theorem yields_digits (count : Nat) : Yields (digits count) (FixedDigits count) :=
  yields_fixedText yields_digit count

theorem yields_pickText {values : List String} (h : values ≠ []) :
    Yields (pickText values) fun value => value ∈ values :=
  pickText_mem h

end SyntheticRows.Draw
