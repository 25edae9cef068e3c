import SyntheticRows.Proofs.Text.Blank
import SyntheticRows.Text.Numeral
/-!
# Numerals

The texts that are read as numbers of each kind: digits, with a plus sign in front of them or a minus
sign where the kind has signs, and a value within the range of the kind. A number that is written with
zeros in front keeps its value.
-/

namespace SyntheticRows.Text

/-- Digits, maybe with a plus sign. -/
inductive UnsignedNumeral : List Char → Nat → Prop
  | bare {digits : List Char} (h : isNumeral digits = true) :
      UnsignedNumeral digits (decimalValue digits)
  | plus {digits : List Char} (h : isNumeral digits = true) :
      UnsignedNumeral ('+' :: digits) (decimalValue digits)

/-- Digits, maybe with a sign. -/
inductive SignedNumeral : List Char → Int → Prop
  | unsigned {text : List Char} {n : Nat} (h : UnsignedNumeral text n) : SignedNumeral text n
  | minus {digits : List Char} (h : isNumeral digits = true) :
      SignedNumeral ('-' :: digits) (-decimalValue digits)

/-- A certain number of characters of one kind and nothing else. -/
structure FixedText (kind : Char → Prop) (count : Nat) (text : List Char) : Prop where
  length : text.length = count
  chars : ∀ c ∈ text, kind c

abbrev FixedDigits : (count : Nat) → List Char → Prop :=
  FixedText (·.isDigit = true)

/-- One or more digits, the first of which is zero only where it stands alone. -/
structure WholeNumeral (text : List Char) : Prop where
  numeral : isNumeral text = true
  noLeadingZero : text.head? = some '0' → text = ['0']

/-- The one way to write an integer: a whole numeral, with a minus sign in front of it where the
value is less than zero. -/
inductive IntegerNumeral : List Char → Int → Prop
  | natural {digits : List Char} (h : WholeNumeral digits) :
      IntegerNumeral digits (decimalValue digits)
  | negative {digits : List Char} (h : WholeNumeral digits) (hpositive : 0 < decimalValue digits) :
      IntegerNumeral ('-' :: digits) (-decimalValue digits)

variable {text : List Char} {c : Char}

theorem toNat_bounds_of_isDigit (h : c.isDigit = true) : 48 ≤ c.toNat ∧ c.toNat ≤ 57 := by
  obtain ⟨hlow, hhigh⟩ := Bool.and_eq_true_iff.mp h
  exact ⟨of_decide_eq_true hlow, of_decide_eq_true hhigh⟩

theorem toNat_bounds_of_isAlphanum (h : c.isAlphanum = true) : 48 ≤ c.toNat ∧ c.toNat ≤ 122 := by
  rcases Bool.or_eq_true_iff.mp h with halpha | hdigit
  · rcases Bool.or_eq_true_iff.mp halpha with hupper | hlower
    · have hbounds : 65 ≤ c.toNat ∧ c.toNat ≤ 90 := of_decide_eq_true hupper
      omega
    · obtain ⟨hlow, hhigh⟩ := Bool.and_eq_true_iff.mp hlower
      have hbounds : 97 ≤ c.toNat ∧ c.toNat ≤ 122 :=
        ⟨of_decide_eq_true hlow, of_decide_eq_true hhigh⟩
      omega
  · have hbounds := toNat_bounds_of_isDigit hdigit
    omega

theorem isBlank_eq_false_of_isAlphanum (h : c.isAlphanum = true) : isBlank c = false := by
  have hbounds := toNat_bounds_of_isAlphanum h
  simp only [isBlank, Bool.or_eq_false_iff, Bool.and_eq_false_iff, decide_eq_false_iff_not,
    beq_eq_false_iff_ne]
  omega

theorem isBlank_eq_false_of_isWordChar (h : (c.isAlphanum || c == '_') = true) :
    isBlank c = false := by
  rcases Bool.or_eq_true_iff.mp h with halphanum | hunderscore
  · exact isBlank_eq_false_of_isAlphanum halphanum
  · rw [eq_of_beq hunderscore]
    decide

theorem isBlank_eq_false_of_isDigit (h : c.isDigit = true) : isBlank c = false := by
  apply isBlank_eq_false_of_isAlphanum
  simp [Char.isAlphanum, h]

theorem isNumeral_iff : isNumeral text = true ↔ text ≠ [] ∧ ∀ c ∈ text, c.isDigit = true := by
  simp [isNumeral]

theorem isNumeral_cons_eq_false (h : c.isDigit = false) : isNumeral (c :: text) = false := by
  simp [isNumeral, h]

theorem trimmed_of_isNumeral (h : isNumeral text = true) : Trimmed text :=
  trimmed_of_forall fun c hc => isBlank_eq_false_of_isDigit ((isNumeral_iff.mp h).2 c hc)

theorem natural?_eq_some_iff {n : Nat} :
    natural? text = some n ↔ isNumeral text = true ∧ decimalValue text = n := by
  unfold natural?
  split <;> simp [*]

theorem natural?_cons_eq_none (h : c.isDigit = false) : natural? (c :: text) = none := by
  rw [natural?, isNumeral_cons_eq_false h]
  rfl

theorem unsigned?_eq_some_iff {n : Nat} : unsigned? text = some n ↔ UnsignedNumeral text n := by
  constructor
  · intro h
    unfold unsigned? at h
    split at h
    next =>
      obtain ⟨hdigits, rfl⟩ := natural?_eq_some_iff.mp h
      exact .plus hdigits
    next =>
      obtain ⟨hdigits, rfl⟩ := natural?_eq_some_iff.mp h
      exact .bare hdigits
  · intro h
    cases h with
    | plus hdigits => exact natural?_eq_some_iff.mpr ⟨hdigits, rfl⟩
    | bare hdigits =>
        unfold unsigned?
        split
        next => cases (isNumeral_cons_eq_false (by decide)).symm.trans hdigits
        next => exact natural?_eq_some_iff.mpr ⟨hdigits, rfl⟩

theorem unsigned?_minus (text : List Char) : unsigned? ('-' :: text) = none := by
  rw [unsigned?, natural?_cons_eq_none (by decide)]
  simp

theorem signed?_eq_some_iff {value : Int} :
    signed? text = some value ↔ SignedNumeral text value := by
  constructor
  · intro h
    unfold signed? at h
    split at h
    next digits =>
      cases hn : natural? digits with
      | none =>
          rw [hn] at h
          cases h
      | some n =>
          rw [hn] at h
          obtain ⟨hdigits, rfl⟩ := natural?_eq_some_iff.mp hn
          obtain rfl : -(decimalValue digits : Int) = value := Option.some.inj h
          exact .minus hdigits
    next =>
      obtain ⟨n, hn, rfl⟩ := Option.map_eq_some_iff.mp h
      exact .unsigned (unsigned?_eq_some_iff.mp hn)
  · intro h
    cases h with
    | minus hdigits =>
        rw [signed?, natural?_eq_some_iff.mpr ⟨hdigits, rfl⟩]
        rfl
    | unsigned hunsigned =>
        have hsome := unsigned?_eq_some_iff.mpr hunsigned
        unfold signed?
        split
        next => cases (unsigned?_minus _).symm.trans hsome
        next =>
          rw [hsome]
          rfl

theorem unsigned32?_eq_some_iff {value : UInt32} :
    unsigned32? text = some value ↔ UnsignedNumeral text value.toNat := by
  rw [← unsigned?_eq_some_iff]
  unfold unsigned32?
  cases hvalue : unsigned? text with
  | none => simp
  | some n =>
      simp only [Option.bind_eq_bind, Option.bind_some, Option.some.injEq]
      have hbound := value.toNat_lt_size
      split
      next hlt =>
        have hsame : n.toUInt32.toNat = n := UInt32.toNat_ofNat_of_lt' hlt
        rw [Option.some.injEq, ← UInt32.toNat_inj, hsame]
      next hge =>
        constructor
        · intro h
          cases h
        · rintro rfl
          exact absurd hbound hge

theorem signed64?_eq_some_iff {value : Int} :
    signed64? text = some value ↔ SignedNumeral text value ∧
      Int64.minValue.toInt ≤ value ∧ value ≤ Int64.maxValue.toInt := by
  rw [← signed?_eq_some_iff]
  unfold signed64?
  cases signed? text with
  | none => simp
  | some n =>
      simp only [Option.bind_eq_bind, Option.bind_some, Option.some.injEq]
      have hrange : isWord64 n = true ↔
          Int64.minValue.toInt ≤ n ∧ n ≤ Int64.maxValue.toInt := by
        simp [isWord64]
      split
      next hword =>
        rw [Option.some.injEq]
        refine ⟨?_, And.left⟩
        rintro rfl
        exact ⟨rfl, hrange.mp hword⟩
      next hword =>
        constructor
        · intro h
          cases h
        · rintro ⟨rfl, hbounds⟩
          exact absurd (hrange.mpr hbounds) hword

theorem SignedNumeral.isDigit_or_sign {value : Int} (h : SignedNumeral text value) :
    ∀ c ∈ text, c.isDigit = true ∨ c = '+' ∨ c = '-' := by
  have hdigits : ∀ {digits : List Char}, isNumeral digits = true →
      ∀ c ∈ digits, c.isDigit = true ∨ c = '+' ∨ c = '-' := fun h c hc =>
    .inl ((isNumeral_iff.mp h).2 c hc)
  cases h with
  | minus h => exact List.forall_mem_cons.mpr ⟨.inr (.inr rfl), hdigits h⟩
  | unsigned h =>
      cases h with
      | bare h => exact hdigits h
      | plus h => exact List.forall_mem_cons.mpr ⟨.inr (.inl rfl), hdigits h⟩

theorem SignedNumeral.trimmed {value : Int} (h : SignedNumeral text value) : Trimmed text := by
  refine trimmed_of_forall fun c hc => ?_
  rcases h.isDigit_or_sign c hc with hdigit | rfl | rfl
  · exact isBlank_eq_false_of_isDigit hdigit
  all_goals decide

theorem isNumeral_toDigits (n : Nat) : isNumeral (Nat.toDigits 10 n) = true := by
  rw [isNumeral_iff]
  refine ⟨Nat.toDigits_ne_nil, fun c hc => ?_⟩
  exact Nat.isDigit_of_mem_toDigits (by decide) (by decide) hc

theorem isDigit_of_mem_decimal {n : Nat} (h : c ∈ decimal n) : c.isDigit = true :=
  (isNumeral_iff.mp (isNumeral_toDigits n)).2 c h

theorem decimal_ne_nil (n : Nat) : decimal n ≠ [] :=
  Nat.toDigits_ne_nil

theorem exists_decimal_eq_cons (n : Nat) :
    ∃ c digits, decimal n = c :: digits ∧ c.isDigit = true := by
  obtain ⟨c, digits, hdecimal⟩ := List.exists_cons_of_ne_nil (decimal_ne_nil n)
  exact ⟨c, digits, hdecimal, isDigit_of_mem_decimal (hdecimal ▸ List.mem_cons_self)⟩

theorem decimalValue_toDigits (n : Nat) : decimalValue (Nat.toDigits 10 n) = n :=
  Nat.ofDigitChars_ten_toDigits

/-- Only zero is written with a zero in front. -/
theorem head?_decimal_ne_zero {n : Nat} (h : 0 < n) : (decimal n).head? ≠ some '0' := by
  induction n using Nat.strongRecOn with
  | ind n ih =>
      unfold decimal at ih ⊢
      rw [Nat.toDigits_eq_if (by decide)]
      split
      next hlt =>
        have hdigit : ∀ n < 10, 0 < n → Nat.digitChar n ≠ '0' := by decide
        simpa using hdigit n hlt h
      next hge =>
        rw [List.head?_append_of_ne_nil _ Nat.toDigits_ne_nil]
        exact ih (n / 10) (by omega) (by omega)

theorem wholeNumeral_decimal (n : Nat) : WholeNumeral (decimal n) := by
  refine ⟨isNumeral_toDigits n, fun hzero => ?_⟩
  rcases Nat.eq_zero_or_pos n with rfl | hpos
  · rfl
  · exact absurd hzero (head?_decimal_ne_zero hpos)

/-! ### Values of digits -/

/-- Digits that follow move what stands before them up. -/
theorem decimalValue_append (front back : List Char) :
    decimalValue (front ++ back) =
      decimalValue front * Nat.pow 10 back.length + decimalValue back := by
  have hfold : ∀ start : Nat, back.foldl (fun value c => 10 * value + digitValue c) start =
      start * Nat.pow 10 back.length + decimalValue back := by
    unfold decimalValue
    induction back with
    | nil => simp
    | cons c back ih =>
        intro start
        have hshift : 10 * start * Nat.pow 10 back.length = start * Nat.pow 10 (back.length + 1) := by
          rw [Nat.mul_comm 10 start, Nat.mul_assoc, Nat.mul_comm 10]
          rfl
        rw [List.foldl_cons, List.foldl_cons, ih (10 * start + digitValue c),
          ih (10 * 0 + digitValue c), List.length_cons, Nat.add_mul, hshift, Nat.mul_zero,
          Nat.zero_add, Nat.add_assoc]
  rw [decimalValue, List.foldl_append]
  exact hfold (decimalValue front)

theorem digitValue_lt_ten (h : c.isDigit = true) : digitValue c < 10 := by
  have hbounds := toNat_bounds_of_isDigit h
  have hzero : '0'.toNat = 48 := rfl
  unfold digitValue
  omega

theorem FixedDigits.decimalValue_lt {count : Nat} (h : FixedDigits count text) :
    decimalValue text < Nat.pow 10 count := by
  obtain ⟨rfl, hdigits⟩ := h
  induction text with
  | nil => exact Nat.one_pos
  | cons c text ih =>
      obtain ⟨hc, hrest⟩ := List.forall_mem_cons.mp hdigits
      have hfirst : digitValue c < 10 := digitValue_lt_ten hc
      have hvalue : decimalValue (c :: text) =
          digitValue c * Nat.pow 10 text.length + decimalValue text := by
        simpa [decimalValue] using decimalValue_append [c] text
      calc decimalValue (c :: text)
          = digitValue c * Nat.pow 10 text.length + decimalValue text := hvalue
        _ < digitValue c * Nat.pow 10 text.length + Nat.pow 10 text.length :=
            Nat.add_lt_add_left (ih hrest) _
        _ = (digitValue c + 1) * Nat.pow 10 text.length := (Nat.succ_mul _ _).symm
        _ ≤ 10 * Nat.pow 10 text.length := Nat.mul_le_mul_right _ hfirst
        _ = Nat.pow 10 (text.length + 1) := Nat.mul_comm _ _

theorem decimalValue_replicate_zero (count : Nat) :
    decimalValue (List.replicate count '0') = 0 := by
  induction count with
  | zero => rfl
  | succ count ih => exact ih

theorem decimalValue_paddedDecimal (width n : Nat) :
    decimalValue (paddedDecimal width n) = n := by
  rw [paddedDecimal, decimalValue_append, decimalValue_replicate_zero, Nat.zero_mul, Nat.zero_add]
  exact decimalValue_toDigits n

theorem fixedDigits_paddedDecimal {width n : Nat} (hwidth : 0 < width)
    (h : n < Nat.pow 10 width) : FixedDigits width (paddedDecimal width n) := by
  have hlength : (decimal n).length ≤ width :=
    (Nat.length_toDigits_le_iff (by decide) hwidth).mpr h
  constructor
  · rw [paddedDecimal, List.length_append, List.length_replicate, Nat.sub_add_cancel hlength]
  · intro c hc
    rcases List.mem_append.mp hc with hc | hc
    · rw [List.eq_of_mem_replicate hc]
      rfl
    · exact isDigit_of_mem_decimal hc

end SyntheticRows.Text
