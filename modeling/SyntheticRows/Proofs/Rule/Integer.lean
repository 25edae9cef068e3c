import SyntheticRows.Proofs.Random.Word
import SyntheticRows.Proofs.Rule.Meaning
/-!
# Integers stay in the range of their rule

The arguments of a rule for integers bound what its generator draws. A rule that names an empty
range does not compile, no range that a rule can name holds all words, and so a draw that is
computed in machine words wraps around without harm, however far apart the bounds are.
-/

namespace SyntheticRows.Rule

open Text

/-- The integers that the arguments of a rule ask for. -/
def Asked : List Int → Int → Prop
  | [], value => 0 ≤ value ∧ value ≤ 9223372036854775807
  | [bound], value => 0 ≤ value ∧ value < bound
  | [low, high], value => low ≤ value ∧ value < high
  | _, _ => False

theorem integerNumeral_integerText (value : Int) :
    IntegerNumeral (Generator.integerText value) value := by
  cases value with
  | ofNat n =>
      have hnumeral := IntegerNumeral.natural (wholeNumeral_decimal n)
      rwa [decimal, decimalValue_toDigits] at hnumeral
  | negSucc n =>
      have hvalue : decimalValue (decimal (n + 1)) = n + 1 := decimalValue_toDigits (n + 1)
      have hnumeral := IntegerNumeral.negative (wholeNumeral_decimal (n + 1)) (by omega)
      rwa [hvalue] at hnumeral

theorem ArgumentListText.within_words {text : List Char} {values : List Int}
    (h : ArgumentListText text values) :
    ∀ value ∈ values, Int64.minValue.toInt ≤ value ∧ value ≤ Int64.maxValue.toInt := by
  have hone : ∀ {text : List Char} {value : Int}, ArgumentText text value →
      Int64.minValue.toInt ≤ value ∧ value ≤ Int64.maxValue.toInt := by
    rintro _ _ ⟨-, -, -, hlow, hhigh⟩
    exact ⟨hlow, hhigh⟩
  cases h with
  | one h => simpa using hone h
  | two h h' => simpa using ⟨hone h, hone h'⟩

theorem CallText.within_words {text name : List Char} {values : List Int}
    (h : CallText text name values) :
    ∀ value ∈ values, Int64.minValue.toInt ≤ value ∧ value ≤ Int64.maxValue.toInt := by
  cases h with
  | bare => simp
  | called _ _ hvalues => exact hvalues.within_words

/-- The range of a generator that arguments stand for: not empty, within the words, and not all of
them. -/
structure RangeFor (values : List Int) (low high : Int) : Prop where
  nonempty : low < high
  low_word : Int64.minValue.toInt ≤ low
  high_word : high ≤ Int64.maxValue.toInt + 1
  span : high - low < UInt64.size
  asked : ∀ value, low ≤ value → value < high → Asked values value

theorem exists_range_of_integerGenerator {values : List Int} {generator : Generator}
    (h : integerGenerator values = .ok generator)
    (hword : ∀ value ∈ values, Int64.minValue.toInt ≤ value ∧ value ≤ Int64.maxValue.toInt) :
    ∃ low high, generator = .integer low high ∧ RangeFor values low high := by
  have hmin : Int64.minValue.toInt = -9223372036854775808 := rfl
  have hmax : Int64.maxValue.toInt = 9223372036854775807 := rfl
  have hsize : (UInt64.size : Int) = 18446744073709551616 := rfl
  unfold integerGenerator at h
  split at h
  next =>
    cases h
    refine ⟨0, _, rfl, by omega, by omega, by omega, by omega, fun value hlow hhigh => ?_⟩
    exact ⟨hlow, by omega⟩
  next bound =>
    have hbound := hword bound List.mem_cons_self
    split at h
    next hpositive =>
      cases h
      exact ⟨0, bound, rfl, hpositive, by omega, by omega, by omega, fun value => .intro⟩
    next => cases h
  next low high =>
    have hlow := hword low List.mem_cons_self
    have hhigh := hword high (List.mem_cons_of_mem _ List.mem_cons_self)
    split at h
    next hrange =>
      cases h
      exact ⟨low, high, rfl, hrange, by omega, by omega, by omega, fun value => .intro⟩
    next => cases h
  next => cases h

/-- The bounds of such a range are words, and arithmetic of words draws its integers. -/
theorem RangeFor.exists_words {values : List Int} {low high : Int} (h : RangeFor values low high) :
    ∃ first last : Int64, first ≤ last ∧ low = first.toInt ∧ high = last.toInt + 1 ∧
      Draw.integer first.toInt (last.toInt + 1) = Int64.toInt <$> Draw.wordInteger first last := by
  obtain ⟨hnonempty, hlow, hhigh, hspan, -⟩ := h
  obtain ⟨first, rfl⟩ := Draw.exists_toInt_eq hlow (by omega)
  obtain ⟨last, hlast⟩ : ∃ last : Int64, last.toInt = high - 1 :=
    Draw.exists_toInt_eq (by omega) (by omega)
  obtain rfl : high = last.toInt + 1 := by omega
  have hle : first ≤ last := Int64.le_iff_toInt_le.mpr (by omega)
  exact ⟨first, last, hle, rfl, rfl, Draw.integer_eq_map_wordInteger hle (by omega)⟩

/-- **Every value of a rule for integers is the numeral of an integer that its arguments ask for.**
This holds from whatever place of the stream. The range that is drawn from is not empty, and drawing
in machine words that wrap around is the same as drawing with integers that do not. -/
theorem integers_stay_in_range {rule : String} {name : List Char} {values : List Int}
    {generator : Generator} (hform : CallText (trim rule.toList) name values)
    (hname : smallName name = "int" ∨ smallName name = "integer")
    (hcompile : compile rule = .ok generator) :
    ∃ first last : Int64, first ≤ last ∧ generator = .integer first.toInt (last.toInt + 1) ∧
      Draw.integer first.toInt (last.toInt + 1) = Int64.toInt <$> Draw.wordInteger first last ∧
      ∀ stream, ∃ value, IntegerNumeral (generator.draw stream).1.toList value ∧
        Asked values value := by
  rw [compile_of_call hform, named, resolve_eq_ok_iff, ofName_of_integer hname] at hcompile
  obtain ⟨_, hgenerator, ⟨⟩⟩ := map_eq_ok_iff.mp hcompile
  obtain ⟨low, high, rfl, hrange⟩ := exists_range_of_integerGenerator hgenerator hform.within_words
  obtain ⟨first, last, hle, rfl, rfl, hwords⟩ := hrange.exists_words
  refine ⟨first, last, hle, rfl, hwords, fun stream => ?_⟩
  obtain ⟨hlow, hhigh⟩ := Draw.yields_integer hrange.nonempty stream
  refine ⟨_, ?_, hrange.asked _ hlow hhigh⟩
  show IntegerNumeral (String.ofList (Generator.integerText _)).toList _
  rw [String.toList_ofList]
  exact integerNumeral_integerText _

/-- The widest range that a rule can name; its span exceeds the greatest word with a sign. -/
theorem integers_stay_in_widest_range :
    let rule := "INT( -9223372036854775808 , 9223372036854775807 )"
    let low : Int := -9223372036854775808
    let high : Int := 9223372036854775807
    CallText (trim rule.toList) "INT".toList [low, high] ∧
    compile rule = .ok (.integer low high) ∧
    ∃ first last : Int64, first ≤ last ∧
      Generator.integer low high = .integer first.toInt (last.toInt + 1) ∧
      Draw.integer first.toInt (last.toInt + 1) = Int64.toInt <$> Draw.wordInteger first last ∧
      ∀ stream, ∃ value,
        IntegerNumeral ((Generator.integer low high).draw stream).1.toList value ∧
        Asked [low, high] value := by
  intro rule low high
  have hlow : ArgumentText ([' '] ++ '-' :: "9223372036854775808".toList ++ [' ']) low :=
    .mk rfl (.minus (by decide)) rfl (by decide) (by decide)
  have hhigh : ArgumentText ([' '] ++ "9223372036854775807".toList ++ [' ']) high :=
    .mk rfl (.unsigned (.bare (by decide))) rfl (by decide) (by decide)
  have htext : trim rule.toList = "INT".toList ++ [] ++
      '(' :: (([' '] ++ '-' :: "9223372036854775808".toList ++ [' '] ++
        ',' :: ([' '] ++ "9223372036854775807".toList ++ [' '])) ++ [')']) := by
    decide +kernel
  have hform : CallText (trim rule.toList) "INT".toList [low, high] := by
    rw [htext]
    exact .called (by decide) rfl (.two hlow hhigh)
  have hint : smallName "INT".toList = "int" := by decide +kernel
  have hcompile : compile rule = .ok (.integer low high) := by
    rw [compile_of_call hform, hint]
    rfl
  exact ⟨hform, hcompile, integers_stay_in_range hform (.inl hint) hcompile⟩

end SyntheticRows.Rule
