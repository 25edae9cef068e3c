import SyntheticRows.Proofs.Random.Yields
/-!
# Filler text fits its limit

Text for a limit is a sentence with more of them behind it while characters are missing, and then cut
at the limit and trimmed at its end. The loop ends for whatever sentences: the space in front of one is
enough to bring the text nearer to the limit. If sentences begin with a character that is not blank,
the beginning stays, so that something is left however short the limit is. Sentences of filler words
begin so, with the first letter of a word.
-/

namespace SyntheticRows.Draw

open Text

/-- There is a first character, and it is not blank. -/
def StartsVisibly (text : List Char) : Prop :=
  ∃ c, text.head? = some c ∧ isBlank c = false

/-- Some text, with no more characters than the limit and no white space at its ends. -/
structure BoundedText (limit : Nat) (text : List Char) : Prop where
  nonempty : 1 ≤ text.length
  length_le : text.length ≤ limit
  trimmed : Trimmed text

/-- How text grows from one place of the stream to another: by a space and a sentence of the source, as
long as it has fewer characters than the limit. -/
inductive Grows (source : Draw (List Char)) (limit : Nat) : (text : List Char) →
    (stream : RandomStream) → (grown : List Char) → (rest : RandomStream) → Prop
  | done {text : List Char} {stream : RandomStream} (h : limit ≤ text.length) :
      Grows source limit text stream text stream
  | more {text grown : List Char} {stream rest : RandomStream} (h : text.length < limit)
      (hmore : Grows source limit (text ++ ' ' :: (source stream).1) (source stream).2 grown rest) :
      Grows source limit text stream grown rest

variable {source : Draw (List Char)} {limit : Nat} {text grown : List Char} {stream rest : RandomStream}

instance (text : List Char) : Decidable (StartsVisibly text) :=
  decidable_of_iff (text.head?.any (!isBlank ·) = true) (by cases text <;> simp [StartsVisibly])

theorem StartsVisibly.append (h : StartsVisibly text) (more : List Char) :
    StartsVisibly (text ++ more) := by
  obtain ⟨c, hc, hvisible⟩ := h
  exact ⟨c, by rw [List.head?_append, hc]; rfl, hvisible⟩

theorem StartsVisibly.ne_nil (h : StartsVisibly text) : text ≠ [] := by
  rintro rfl
  obtain ⟨c, ⟨⟩, -⟩ := h

/-! ### The loop -/

namespace Grows

/-- Text grows at its end only. -/
theorem startsVisibly (h : Grows source limit text stream grown rest) (hstart : StartsVisibly text) :
    StartsVisibly grown := by
  induction h with
  | done _ => exact hstart
  | more _ _ ih => exact ih (hstart.append _)

end Grows

/-- As many rounds as there are characters missing are enough. -/
theorem grows_growText {rounds : Nat} (h : limit ≤ text.length + rounds) :
    Grows source limit text stream (growText source limit rounds text stream).1
      (growText source limit rounds text stream).2 := by
  induction rounds generalizing text stream with
  | zero => exact .done h
  | succ rounds ih =>
      unfold growText
      split
      next hless =>
        -- The space alone makes up for the round that is gone.
        refine .more hless (ih ?_)
        rw [List.length_append, List.length_cons]
        omega
      next hless => exact .done (Nat.le_of_not_lt hless)

/-- What a limit and a trim at the end leave of a text that starts visibly. -/
theorem boundedText_trimEnd_take (hlimit : 0 < limit) (h : StartsVisibly text) :
    BoundedText limit (trimEnd (text.take limit)) := by
  obtain ⟨c, hc, hvisible⟩ := h
  have hhead : (text.take limit).head? = some c := by
    rw [List.head?_take, if_neg (Nat.pos_iff_ne_zero.mp hlimit), hc]
  have hfirst : ∀ c ∈ (text.take limit).head?, isBlank c = false := by
    rw [hhead]
    rintro _ ⟨⟩
    exact hvisible
  refine ⟨?_, ?_, trimmed_trimEnd hfirst⟩
  · rw [Nat.one_le_iff_ne_zero, ne_eq, List.length_eq_zero_iff]
    intro hnil
    have hsame := head?_trimEnd hfirst
    rw [hnil, hhead] at hsame
    cases hsame
  · obtain ⟨gap, -, htext⟩ := exists_eq_trimEnd_append (text.take limit)
    have hlength := congrArg List.length htext
    rw [List.length_append, List.length_take] at hlength
    omega

/-- The loop ends for every limit, zero included, and text for a limit is what it leaves, cut and
trimmed at the end. -/
theorem textFrom_grows (source : Draw (List Char)) (limit : Nat) (stream : RandomStream) :
    ∃ grown rest, Grows source limit (source stream).1 (source stream).2 grown rest ∧
      textFrom source limit stream = (trimEnd (grown.take limit), rest) :=
  ⟨_, _, grows_growText (Nat.le_add_left limit _), rfl⟩

theorem yields_textFrom (hsource : Yields source StartsVisibly) (hlimit : 0 < limit) :
    Yields (textFrom source limit) (BoundedText limit) := by
  intro stream
  obtain ⟨grown, rest, hgrows, htext⟩ := textFrom_grows source limit stream
  rw [htext]
  exact boundedText_trimEnd_take hlimit (hgrows.startsVisibly (hsource stream))

/-! ### Sentences of filler words -/

theorem startsVisibly_of_mem_loremWords :
    ∀ word ∈ Lexicon.loremWords, StartsVisibly word.toList := by
  decide +kernel

theorem yields_loremWord : Yields loremWord fun word => StartsVisibly word.toList :=
  (yields_pickText (by decide)).imp startsVisibly_of_mem_loremWords

theorem yields_sentence {low high : Nat} (hlow : 0 < low) (hhigh : low < high) :
    Yields (sentence low high) StartsVisibly := by
  refine (yields_size hhigh).bind fun count hcount => ?_
  refine (yields_loremWord.times count).bind fun words ⟨hlength, hwords⟩ => .pure ?_
  cases words with
  | nil =>
      -- A sentence without words is too short.
      subst hlength
      exact absurd (Nat.lt_of_lt_of_le hlow hcount.1) (Nat.lt_irrefl 0)
  | cons word words =>
      rw [List.map_cons, joinWith_cons]
      exact ((hwords word List.mem_cons_self).append _).append _

theorem yields_textUpTo (h : 0 < limit) : Yields (textUpTo limit) (BoundedText limit) :=
  yields_textFrom (yields_sentence (by decide) (by decide)) h

end SyntheticRows.Draw
