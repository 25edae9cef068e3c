import SyntheticRows.Proofs.Generator.Filler
import SyntheticRows.Proofs.Generator.Numeric
import SyntheticRows.Proofs.Generator.Temporal
import SyntheticRows.Proofs.Rule.Meaning
/-!
# Values are never empty and respect declared lengths

The characters and bits of a value are drawn one by one, as many as its type declares. Where a declared
length is a limit, filler text fits it, and so it does where a rule gives the limit. The value that a
column gets by its type alone is never empty, whatever the parameters of the type are.
-/

namespace SyntheticRows

open Text

namespace Draw

/-! ### Lengths -/

theorem declaredLength_pos (missing : Nat) (length : Option UInt32) :
    0 < declaredLength missing length :=
  Nat.le_max_right _ _

theorem declaredLength_some {missing : Nat} {length : UInt32} (h : 1 ≤ length.toNat) :
    declaredLength missing (some length) = length.toNat :=
  Nat.max_eq_left h

theorem yields_letter : Yields letter fun c => c.isLower = true := by
  refine (yields_range (by decide)).bind fun position hposition => .pure ?_
  have hlower : ∀ position < 26, (Char.ofNat ('a'.toNat + position)).isLower = true := by decide
  exact hlower position hposition.2

theorem yields_bit : Yields bit fun c => c = '0' ∨ c = '1' := by
  refine .bind_of_forall fun one => .pure ?_
  cases one with
  | false => exact .inl rfl
  | true => exact .inr rfl

/-! ### Something is drawn for every type -/

theorem yields_naturalText (draw : Draw Nat) : Yields (naturalText draw) (· ≠ []) :=
  .map fun _ => decimal_ne_nil _

theorem toFixed_ne_nil (places : Nat) (number : BinaryFraction) :
    (number.toFixed places).toList ≠ [] := by
  simp [BinaryFraction.toFixed]

theorem yields_points {count : Nat} (h : 2 ≤ count) : Yields (points count) (· ≠ []) :=
  .map ((Yields.length_times point count).imp fun _ hlength =>
    joinWith_ne_nil (by decide) (hlength ▸ h))

theorem yields_enclosed (opening closing : Char) (draw : Draw (List Char)) :
    Yields (enclosed opening closing draw) (· ≠ []) :=
  .bind_of_forall fun _ => .pure (List.cons_ne_nil _ _)

theorem yields_hardwareAddress {count : Nat} (h : 2 ≤ count) :
    Yields (hardwareAddress count) (· ≠ []) := by
  refine .map ((Yields.length_times byte count).bind fun bytes hlength => .pure ?_)
  refine joinWith_ne_nil (by decide) ?_
  rw [List.length_map, hlength]
  exact h

theorem yields_addressV4 : Yields addressV4 (· ≠ []) := by
  refine (Yields.length_times byte 4).bind fun parts hlength => .pure ?_
  refine joinWith_ne_nil (by decide) ?_
  rw [List.length_map, hlength]
  decide

theorem yields_plainValue (type : PlainType) : Yields (plainValue type) (· ≠ []) := by
  cases type with
  | smallInt | integer | bigInt | smallSerial | serial | bigSerial => exact yields_naturalText _
  | real | double | money => exact .bind_of_forall fun _ => .pure (toFixed_ne_nil _ _)
  | text => exact (yields_sentence (by decide) (by decide)).imp fun _ h => h.ne_nil
  | boolean =>
      refine .bind_of_forall fun value => .pure ?_
      cases value <;> decide
  | date => exact .bind_of_forall fun _ => .pure (by simp [Instant.dateText])
  | bytea => exact .bind_of_forall fun _ => .pure (List.cons_ne_nil _ _)
  | point => exact .bind_of_forall fun _ => .bind_of_forall fun _ => .pure (List.cons_ne_nil _ _)
  | line =>
      refine .bind_of_forall fun _ => .bind_of_forall fun _ => .bind_of_forall fun _ => ?_
      exact .pure (List.cons_ne_nil _ _)
  | box => exact yields_points (by decide)
  | lineSegment | path | polygon | circle => exact yields_enclosed _ _ _
  | inet => exact yields_addressV4
  | cidr => exact .bind_of_forall fun _ => .pure (by simp)
  | macAddr | macAddr8 => exact yields_hardwareAddress (by decide)
  | json | jsonb =>
      exact .bind_of_forall fun _ => .bind_of_forall fun _ => .pure (by simp [Json.compactText])
  | xml => exact .bind_of_forall fun _ => .pure (by simp)
  | uuid => exact .bind_of_forall fun _ => .pure (joinWith_ne_nil (by decide) (by simp))
  | tsVector => exact .bind_of_forall fun _ => .pure (List.cons_ne_nil _ _)
  | tsQuery => exact yields_loremWord.bind fun _ h => .pure h.ne_nil
  | pgLsn => exact .bind_of_forall fun _ => .bind_of_forall fun _ => .pure (by simp)
  | pgSnapshot => exact .bind_of_forall fun _ => .bind_of_forall fun _ => .pure (by simp)

theorem yields_times_ne_nil {α : Type} (draw : Draw α) {count : Nat} (h : 0 < count) :
    Yields (times draw count) (· ≠ []) :=
  (Yields.length_times draw count).imp fun _ hlength =>
    List.ne_nil_of_length_pos (hlength ▸ h)

theorem yields_defaultValue (type : ColumnType) : Yields (defaultValue type) (· ≠ []) := by
  cases type with
  | plain type => exact yields_plainValue type
  | numeric precision scale => exact (yields_numericValue precision scale).imp fun _ ⟨_, h, _⟩ => h.ne_nil
  | char length => exact yields_times_ne_nil _ (declaredLength_pos 1 length)
  | varChar maxLength =>
      exact (yields_textUpTo (declaredLength_pos 255 maxLength)).imp fun _ h =>
        List.ne_nil_of_length_pos h.nonempty
  | bit length => exact yields_times_ne_nil _ (declaredLength_pos 1 length)
  | varBit maxLength => exact yields_times_ne_nil _ (declaredLength_pos 8 maxLength)
  | time precision withTimeZone =>
      exact (yields_time precision withTimeZone).imp fun _ h => h.ne_nil
  | timestamp precision withTimeZone =>
      exact (yields_timestamp precision withTimeZone).imp fun _ h => h.ne_nil
  | interval precision =>
      have hintervals : ∀ value ∈ Lexicon.intervals, value.toList ≠ [] := by decide
      exact .map ((yields_pickText (by decide)).imp hintervals)

end Draw

/-! ### Rules with a limit -/

namespace Rule

/-- A rule that asks for text with a positive limit compiles. -/
theorem compile_text {rule : String} {name : List Char} {limit : Int}
    (hform : CallText (trim rule.toList) name [limit])
    (hname : smallName name = "sentence" ∨ smallName name = "text")
    (hlimit : 1 ≤ limit) : compile rule = .ok (.text limit.toNat) := by
  obtain ⟨length, rfl⟩ := Int.eq_ofNat_of_zero_le (by omega : 0 ≤ limit)
  have hlength : 0 < length := by omega
  exact compile_eq_ok_iff.mpr (.called hform (.text hname hlength))

end Rule

namespace Draw

/-- **Values are never empty and respect declared lengths.** A value of `varchar(n)` and of a rule for
text with the limit `n` has from one to `n` characters and no white space at its ends, where `n` is not
zero. A value of `char(n)` has exactly `n` small letters, one of `bit(n)` or `varbit(n)` exactly `n` bits.
The loop that lengthens a text ends for every limit and every source of sentences, and text from a
source whose sentences begin with a visible character fits the limit; filler text is of this kind. The
value that a type has by itself is never empty, whatever its parameters are. -/
theorem values_respect_declared_lengths (stream : RandomStream) :
    (∀ length : UInt32, 1 ≤ length.toNat →
      BoundedText length.toNat (defaultValue (.varChar (some length)) stream).1 ∧
      FixedText (·.isLower = true) length.toNat (defaultValue (.char (some length)) stream).1 ∧
      FixedText (fun c => c = '0' ∨ c = '1') length.toNat
        (defaultValue (.bit (some length)) stream).1 ∧
      FixedText (fun c => c = '0' ∨ c = '1') length.toNat
        (defaultValue (.varBit (some length)) stream).1) ∧
    (∀ (rule : String) (name : List Char) (limit : Int),
      Rule.CallText (trim rule.toList) name [limit] →
      (Rule.smallName name = "sentence" ∨ Rule.smallName name = "text") →
      1 ≤ limit → ∃ generator, Rule.compile rule = .ok generator ∧
        BoundedText limit.toNat (generator.draw stream).1.toList) ∧
    (∀ (source : Draw (List Char)) (limit : Nat),
      (∃ grown rest, Grows source limit (source stream).1 (source stream).2 grown rest ∧
        textFrom source limit stream = (trimEnd (grown.take limit), rest)) ∧
      (Yields source StartsVisibly → 1 ≤ limit →
        BoundedText limit (textFrom source limit stream).1)) ∧
    (∀ limit, textUpTo limit = textFrom (sentence 3 10) limit) ∧
    ∀ type, (defaultValue type stream).1 ≠ [] := by
  refine ⟨fun length hlength => ?_, fun rule name limit hform hname hlimit => ?_,
    fun source limit => ⟨textFrom_grows source limit stream, fun hsource hlimit => ?_⟩,
    fun _ => rfl, fun type => yields_defaultValue type stream⟩
  · simp only [defaultValue, declaredLength_some hlength]
    exact ⟨yields_textUpTo hlength stream, yields_fixedText yields_letter _ stream,
      yields_fixedText yields_bit _ stream, yields_fixedText yields_bit _ stream⟩
  · refine ⟨_, Rule.compile_text hform hname hlimit, ?_⟩
    have hvalue : BoundedText limit.toNat (textUpTo limit.toNat stream).1 :=
      yields_textUpTo (by omega) stream
    show BoundedText limit.toNat (String.ofList (textUpTo limit.toNat stream).1).toList
    rwa [String.toList_ofList]
  · exact yields_textFrom hsource hlimit stream

theorem values_respect_declared_lengths_of_comment :
    BoundedText 5 (defaultValue (.varChar (some 5)) (.ofSeed 0)).1 ∧
    FixedText (fun c => c = '0' ∨ c = '1') 5 (defaultValue (.bit (some 5)) (.ofSeed 0)).1 ∧
    (∃ generator, Rule.compile "Sentence (12)" = .ok generator ∧
      BoundedText 12 (generator.draw (.ofSeed 0)).1.toList) ∧
    BoundedText 6 (textFrom (pure "So it is.".toList) 6 (.ofSeed 0)).1 := by
  have htext : trim "Sentence (12)".toList =
      "Sentence".toList ++ [' '] ++ '(' :: (([] ++ "12".toList ++ []) ++ [')']) := by
    decide +kernel
  have hform : Rule.CallText (trim "Sentence (12)".toList) "Sentence".toList [12] := by
    rw [htext]
    refine .called (by decide) (by decide) (.one ?_)
    exact .mk rfl (.unsigned (.bare (by decide))) rfl (by decide) (by decide)
  have hsource : Yields (pure "So it is.".toList) StartsVisibly := .pure (by decide)
  obtain ⟨hlength, hrule, hsources, -⟩ := values_respect_declared_lengths (.ofSeed 0)
  obtain ⟨hvarChar, -, hbit, -⟩ := hlength 5 (by decide)
  exact ⟨hvarChar, hbit, hrule _ _ _ hform (.inl (by decide +kernel)) (by decide),
    (hsources _ 6).2 hsource (by decide)⟩

end Draw

end SyntheticRows
