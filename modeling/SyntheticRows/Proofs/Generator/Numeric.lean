import SyntheticRows.Generator.DefaultValue
import SyntheticRows.Proofs.Random.Yields
/-!
# Values of numeric columns fit their type

A value of `numeric(p, s)` is drawn digit by digit: at most three digits of its whole part, then `s`
digits behind the point, the first of which are zeros where `s` exceeds `p`. Counted in units of its
last place it stays below `10 ^ p`, whichever of the two numbers is the greater one.
-/

namespace SyntheticRows.Draw

open Text

/-- A decimal numeral with a number of places behind the point, and its value in units of the last
place. There is a point only where there are places. -/
inductive FixedPoint : (places : Nat) → List Char → (units : Nat) → Prop
  | whole {digits : List Char} (h : WholeNumeral digits) : FixedPoint 0 digits (decimalValue digits)
  | fraction {places : Nat} {digits fraction : List Char} (h : WholeNumeral digits)
      (hplaces : 0 < places) (hfraction : FixedDigits places fraction) :
      FixedPoint places (digits ++ '.' :: fraction)
        (decimalValue digits * Nat.pow 10 places + decimalValue fraction)

theorem FixedPoint.ne_nil {places units : Nat} {text : List Char}
    (h : FixedPoint places text units) : text ≠ [] := by
  cases h with
  | whole h => exact (isNumeral_iff.mp h.numeral).1
  | fraction h => simp

section

variable {precision scale : Option UInt32} {p : UInt32} {places : Nat}

theorem numericScale_eq (precision scale : Option UInt32) :
    numericScale precision scale =
      scale.elim (if precision.isSome then 0 else 2) UInt32.toNat := by
  cases scale <;> rfl

/-- A whole part has the digits that the places leave, but three at most. -/
theorem numericWholeDigits_le (precision : Option UInt32) (places : Nat) :
    numericWholeDigits precision places ≤ 3 ∧
      ∀ p, precision = some p → numericWholeDigits precision places ≤ p.toNat - places := by
  cases precision with
  | none =>
      refine ⟨Nat.le_refl 3, ?_⟩
      rintro p ⟨⟩
  | some p =>
      refine ⟨Nat.min_le_right _ _, ?_⟩
      rintro _ ⟨⟩
      exact Nat.min_le_left _ _

/-- The whole part as it is drawn; no digits are left to draw where it must be zero. -/
def wholePart (digits : Nat) : Draw Nat :=
  if digits = 0 then pure 0 else range 0 (Nat.pow 10 digits)

/-- A whole part with the places drawn behind it. -/
def withPlaces (precision : Option UInt32) (places whole : Nat) : Draw (List Char) :=
  if places = 0 then pure (decimal whole)
  else do
    let fraction ← digits (places - numericLeadingZeros precision places)
    pure (decimal whole ++
      '.' :: List.replicate (numericLeadingZeros precision places) '0' ++ fraction)

theorem numericValue_eq (precision scale : Option UInt32) :
    numericValue precision scale =
      wholePart (numericWholeDigits precision (numericScale precision scale)) >>=
        withPlaces precision (numericScale precision scale) := by
  unfold numericValue wholePart
  dsimp only
  split <;> rfl

theorem yields_wholePart (digits : Nat) :
    Yields (wholePart digits) fun whole => whole < Nat.pow 10 digits := by
  unfold wholePart
  split
  · exact .pure (Nat.pow_pos (by decide))
  · exact (yields_range (Nat.pow_pos (by decide))).imp fun _ h => h.2

/-- Zeros in front leave as many places to the fraction as the precision has digits. -/
theorem decimalValue_fraction_lt {fraction : List Char}
    (h : FixedDigits (places - numericLeadingZeros (some p) places) fraction) :
    decimalValue (List.replicate (numericLeadingZeros (some p) places) '0' ++ fraction) <
      Nat.pow 10 (min places p.toNat) := by
  rw [decimalValue_append, decimalValue_replicate_zero, Nat.zero_mul, Nat.zero_add]
  have hlt := h.decimalValue_lt
  have hplaces : places - numericLeadingZeros (some p) places = min places p.toNat := by
    unfold numericLeadingZeros
    dsimp only
    omega
  rwa [hplaces] at hlt

/-- A whole part and a fraction that fit the precision each on its own fit it together. -/
theorem units_lt {whole fraction : Nat} (hwhole : whole < Nat.pow 10 (p.toNat - places))
    (hfraction : fraction < Nat.pow 10 (min places p.toNat)) :
    whole * Nat.pow 10 places + fraction < Nat.pow 10 p.toNat := by
  rcases Nat.le_total places p.toNat with hle | hle
  · rw [Nat.min_eq_left hle] at hfraction
    calc whole * Nat.pow 10 places + fraction
        < whole * Nat.pow 10 places + Nat.pow 10 places := Nat.add_lt_add_left hfraction _
      _ = (whole + 1) * Nat.pow 10 places := (Nat.succ_mul _ _).symm
      _ ≤ Nat.pow 10 (p.toNat - places) * Nat.pow 10 places := Nat.mul_le_mul_right _ hwhole
      _ = Nat.pow 10 p.toNat := Nat.pow_sub_mul_pow 10 hle
  · -- The places use up all digits, and the whole part is zero.
    rw [Nat.min_eq_right hle] at hfraction
    rw [Nat.sub_eq_zero_of_le hle] at hwhole
    obtain rfl : whole = 0 := Nat.lt_one_iff.mp hwhole
    rwa [Nat.zero_mul, Nat.zero_add]

theorem fixedDigits_leadingZeros {fraction : List Char}
    (h : FixedDigits (places - numericLeadingZeros precision places) fraction) :
    FixedDigits places
      (List.replicate (numericLeadingZeros precision places) '0' ++ fraction) := by
  have hzeros : numericLeadingZeros precision places ≤ places := by
    cases precision with
    | none => exact Nat.zero_le _
    | some p => exact Nat.sub_le _ _
  constructor
  · rw [List.length_append, List.length_replicate, h.length, Nat.add_sub_cancel' hzeros]
  · intro c hc
    rcases List.mem_append.mp hc with hc | hc
    · rw [List.eq_of_mem_replicate hc]
      rfl
    · exact h.chars c hc

theorem yields_withPlaces {whole : Nat}
    (hwhole : ∀ p, precision = some p → whole < Nat.pow 10 (p.toNat - places)) :
    Yields (withPlaces precision places whole) fun text => ∃ units, FixedPoint places text units ∧
      ∀ p, precision = some p → units < Nat.pow 10 p.toNat := by
  have hvalue : decimalValue (decimal whole) = whole := decimalValue_toDigits whole
  unfold withPlaces
  split
  next hzero =>
    subst hzero
    refine .pure ⟨_, .whole (wholeNumeral_decimal whole), fun p hp => ?_⟩
    rw [hvalue]
    exact hwhole p hp
  next hplaces =>
    refine (yields_digits _).bind fun fraction hfraction => .pure ?_
    have hpoint := FixedPoint.fraction (wholeNumeral_decimal whole) (Nat.pos_of_ne_zero hplaces)
      (fixedDigits_leadingZeros hfraction)
    refine ⟨_, by simpa using hpoint, ?_⟩
    rintro p rfl
    rw [hvalue]
    exact units_lt (hwhole p rfl) (decimalValue_fraction_lt hfraction)

theorem yields_numericValue (precision scale : Option UInt32) :
    Yields (numericValue precision scale) fun text =>
      ∃ units, FixedPoint (numericScale precision scale) text units ∧
        ∀ p, precision = some p → units < Nat.pow 10 p.toNat := by
  rw [numericValue_eq]
  refine (yields_wholePart _).bind fun whole hwhole => yields_withPlaces fun p hp => ?_
  have hdigits := (numericWholeDigits_le precision (numericScale precision scale)).2 p hp
  exact Nat.lt_of_lt_of_le hwhole (Nat.pow_le_pow_right (by decide) hdigits)

end

/-- **Numeric values fit their type.** A value of `numeric(p, s)` is a decimal numeral without needless
zeros in front. It has as many places as the scale says; without a scale, none where there is a
precision and two where there is none. Where there is a precision, the value stays below `10 ^ p` in
units of the last place. The power of ten that bounds the draw of the whole part fits a word. -/
theorem numeric_values_fit (precision scale : Option UInt32) (stream : RandomStream) :
    let places := scale.elim (if precision.isSome then 0 else 2) UInt32.toNat
    (∃ units, FixedPoint places (defaultValue (.numeric precision scale) stream).1 units ∧
      ∀ p, precision = some p → units < Nat.pow 10 p.toNat) ∧
    Nat.pow 10 (numericWholeDigits precision places) < UInt32.size := by
  intro places
  constructor
  · have hvalue := yields_numericValue precision scale stream
    rwa [numericScale_eq] at hvalue
  · have hdigits := (numericWholeDigits_le precision places).1
    exact Nat.lt_of_le_of_lt (Nat.pow_le_pow_right (by decide) hdigits) (by decide)

end SyntheticRows.Draw
