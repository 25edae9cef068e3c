import SyntheticRows.Random.Draw
/-!
# Draws stay in their range

A draw that is scaled to a range stays below its upper bound, the correction for a carry included:
the fraction that can carry leaves room for one more. So an element that is drawn from a list is an
element of the list.
-/

namespace SyntheticRows.Draw

/-- The whole part of a scaled draw, and one more where its fraction can carry. -/
theorem scaled_bounds {span first count : Nat} (hfirst : first < span) (hcount : 0 < count) :
    first * count / span < count ∧
      (first * count % span > span - count → first * count / span + 1 < count) := by
  have hsplit := Nat.div_add_mod (first * count) span
  have hproduct : (first + 1) * count ≤ span * count := Nat.mul_le_mul_right count hfirst
  generalize first * count / span = result at *
  generalize first * count % span = fraction at *
  rw [Nat.add_mul, Nat.one_mul] at hproduct
  refine ⟨?_, fun hfraction => ?_⟩
  · rcases Nat.lt_or_ge result count with hlt | hge
    · exact hlt
    · have := Nat.mul_le_mul_left span hge
      omega
  · rcases Nat.lt_or_ge (result + 1) count with hlt | hge
    · exact hlt
    · have := Nat.mul_le_mul_left span hge
      rw [Nat.mul_add, Nat.mul_one] at this
      omega

theorem scaled_lt {span count : Nat} {draw : Draw Nat}
    (hdraw : ∀ stream, (draw stream).1 < span) (hcount : 0 < count) (stream : RandomStream) :
    (scaled span draw count stream).1 < count := by
  obtain ⟨hlt, hcarry⟩ := scaled_bounds (hdraw stream) hcount
  simp only [scaled, bind, StateT.bind]
  rcases hfirst : draw stream with ⟨first, rest⟩
  simp only [hfirst] at hlt hcarry ⊢
  by_cases hfraction : first * count % span > span - count
  · rw [if_pos hfraction]
    show ((ite _ _ _ : Draw Nat) (draw rest).2).1 < count
    split
    · exact hcarry hfraction
    · exact hlt
  · rw [if_neg hfraction]
    exact hlt

theorem below32_lt {count : Nat} (hcount : 0 < count) (stream : RandomStream) :
    (below32 count stream).1 < count :=
  scaled_lt (fun stream => (word stream).1.toNat_lt_size) hcount stream

theorem below64_lt {count : Nat} (hcount : 0 < count) (stream : RandomStream) :
    (below64 count stream).1 < count :=
  scaled_lt (fun stream => (long stream).1.toNat_lt_size) hcount stream

theorem range_lt {low high : Nat} (hlow : low < high) (stream : RandomStream) :
    (range low high stream).1 < high := by
  have := below32_lt (Nat.sub_pos_of_lt hlow) stream
  show low + (below32 (high - low) stream).1 < high
  omega

theorem size_lt {low high : Nat} (hlow : low < high) (stream : RandomStream) :
    (size low high stream).1 < high := by
  unfold size
  split
  · exact range_lt hlow stream
  · have := below64_lt (Nat.sub_pos_of_lt hlow) stream
    show low + (below64 (high - low) stream).1 < high
    omega

/-- What is drawn from a list is in the list. -/
theorem pickText_mem {values : List String} (hvalues : values ≠ []) (stream : RandomStream) :
    (pickText values stream).1 ∈ values := by
  have hlt := size_lt (List.length_pos_iff.mpr hvalues) stream
  show values.getD (size 0 values.length stream).1 "" ∈ values
  rw [List.getD_eq_getElem?_getD, List.getElem?_eq_getElem hlt]
  exact List.getElem_mem hlt

end SyntheticRows.Draw
