import SyntheticRows.Proofs.Random.Yields
/-!
# Integers of a range in machine words

An integer of a range can be drawn in words of 64 bits: the number of integers in the range, the sum
that decides whether a draw carries and the sum of lower bound and offset all wrap around. However
far apart the bounds are, this draws what arithmetic without bounds does, except from a range of all
words, whose number of integers is no word.
-/

namespace SyntheticRows.Draw

/-- The upper and the lower word of a product. -/
def wideProduct (x y : UInt64) : UInt64 × UInt64 :=
  (UInt64.ofNat (x.toNat * y.toNat / UInt64.size), x * y)

/-- An integer from `low` up to and including `last`. The number of integers in a range of all words
wraps around to zero. -/
def wordInteger (low last : Int64) : Draw Int64 := do
  let count := (last - low + 1).toUInt64
  let first ← long
  if count = 0 then pure first.toInt64
  else
    let (result, fraction) := wideProduct first count
    if fraction > -count then
      let second ← long
      let sum := fraction + (wideProduct second count).1
      pure (low + (if sum < fraction then result + 1 else result).toInt64)
    else pure (low + result.toInt64)

variable {low last : Int64} {x y : UInt64}

/-! ### Words and the numbers they stand for -/

theorem toNat_wideProduct_fst (x y : UInt64) :
    (wideProduct x y).1.toNat = x.toNat * y.toNat / UInt64.size := by
  refine UInt64.toNat_ofNat_of_lt' (Nat.div_lt_of_lt_mul ?_)
  exact Nat.mul_lt_mul'' x.toNat_lt_size y.toNat_lt_size

theorem toNat_wideProduct_snd (x y : UInt64) :
    (wideProduct x y).2.toNat = x.toNat * y.toNat % UInt64.size :=
  UInt64.toNat_mul x y

theorem toNat_add_one (h : x.toNat < y.toNat) : (x + 1).toNat = x.toNat + 1 := by
  have hlt := y.toNat_lt_size
  rw [UInt64.toNat_add]
  exact Nat.mod_eq_of_lt (Nat.lt_of_le_of_lt h hlt)

/-- A sum of words wraps around if and only if it falls below what is added to. -/
theorem add_lt_left_iff : x + y < x ↔ UInt64.size ≤ x.toNat + y.toNat := by
  have hx := x.toNat_lt_size
  have hy := y.toNat_lt_size
  rw [UInt64.lt_iff_toNat_lt, UInt64.toNat_add]
  simp only [UInt64.size] at *
  omega

theorem neg_lt_iff (h : x ≠ 0) : -x < y ↔ UInt64.size - x.toNat < y.toNat := by
  have hpos : x.toNat ≠ 0 := by simpa [← UInt64.toNat_inj] using h
  have hx := x.toNat_lt_size
  rw [UInt64.lt_iff_toNat_lt, UInt64.toNat_neg]
  simp only [UInt64.size] at *
  omega

theorem exists_toInt_eq {value : Int} (hlow : Int64.minValue.toInt ≤ value)
    (hhigh : value ≤ Int64.maxValue.toInt) : ∃ word : Int64, word.toInt = value :=
  ⟨.ofInt value, Int64.toInt_ofInt_of_le hlow (Int.lt_add_one_of_le hhigh)⟩

/-- Words with their topmost bit set stand for negative numbers. -/
theorem toInt_toInt64 (x : UInt64) : x.toInt64.toInt = (x.toNat : Int).bmod UInt64.size :=
  BitVec.toInt_eq_toNat_bmod x.toBitVec

/-- The number of integers in a range that is not empty and does not hold all words is a word. -/
theorem toNat_count (hrange : low ≤ last) (hspan : last.toInt - low.toInt + 1 < UInt64.size) :
    (last - low + 1).toUInt64.toNat = (last.toInt + 1 - low.toInt).toNat := by
  have hle := Int64.le_iff_toInt_le.mp hrange
  have hlt := (last - low + 1).toUInt64.toNat_lt_size
  have hword := toInt_toInt64 (last - low + 1).toUInt64
  rw [Int64.toInt64_toUInt64, Int64.toInt_add, Int64.toInt_sub, Int64.toInt_one,
    Int.bmod_add_bmod] at hword
  simp only [Int.bmod_def, UInt64.size] at *
  omega

/-- An offset within a range, which may be negative as a word, leads from its lower bound to a sum
that is right again. -/
theorem toInt_add_toInt64 (last : Int64) (h : low.toInt + x.toNat ≤ last.toInt) :
    (low + x.toInt64).toInt = low.toInt + x.toNat := by
  have hlow := low.le_toInt
  have hlast := last.toInt_lt
  rw [Int64.toInt_add, toInt_toInt64]
  simp only [UInt64.size] at *
  rw [Int.add_bmod_bmod]
  exact Int.bmod_eq_of_le (by omega) (by omega)

/-- Arithmetic that wraps around draws the integers of a range. -/
theorem integer_eq_map_wordInteger (hrange : low ≤ last)
    (hspan : last.toInt - low.toInt + 1 < UInt64.size) :
    integer low.toInt (last.toInt + 1) = Int64.toInt <$> wordInteger low last := by
  have hcount := toNat_count hrange hspan
  have hle := Int64.le_iff_toInt_le.mp hrange
  have hpos : 0 < (last - low + 1).toUInt64.toNat := by omega
  have hne : (last - low + 1).toUInt64 ≠ 0 := fun hzero => by simp [hzero] at hpos
  unfold integer below64 scaled wordInteger
  rw [← hcount]
  generalize (last - low + 1).toUInt64 = count at *
  simp only [map_bind, bind_map_left, if_neg hne]
  refine bind_congr fun first => ?_
  obtain ⟨hlt, hcarry⟩ := scaled_bounds first.toNat_lt_size hpos
  simp only [← toNat_wideProduct_fst, ← toNat_wideProduct_snd, gt_iff_lt, neg_lt_iff hne]
    at hlt hcarry ⊢
  generalize (wideProduct first count).1 = result at *
  generalize (wideProduct first count).2 = fraction at *
  split
  next hfraction =>
    have hroom := hcarry hfraction
    simp only [map_bind, map_pure]
    refine bind_congr fun second => ?_
    generalize (wideProduct second count).1 = carry at *
    by_cases hwraps : UInt64.size ≤ fraction.toNat + carry.toNat
    · have hresult := toNat_add_one hlt
      rw [if_pos hwraps, if_pos (add_lt_left_iff.mpr hwraps), map_pure,
        toInt_add_toInt64 last (by omega), hresult]
      rfl
    · rw [if_neg hwraps, if_neg (mt add_lt_left_iff.mp hwraps), map_pure,
        toInt_add_toInt64 last (by omega)]
      rfl
  next =>
    rw [map_pure, map_pure, toInt_add_toInt64 last (by omega)]
    rfl

end SyntheticRows.Draw
