import SyntheticRows.Text.Blank
import SyntheticRows.Text.LowerCase
/-!
# Small letters

Lower-casing goes by single characters, of which only the capital sigma looks at what stands around
it. It changes no ASCII text that has no capital letter. Of the characters beyond ASCII only the
Kelvin sign has a small letter within ASCII, apart from the dotted I, of which a dot remains.
-/

namespace SyntheticRows.Text

def isSmallAscii (c : Char) : Bool :=
  c.toNat < 128 && c.toLower == c

theorem lowerChar_of_ascii {c : Char} (h : c.toNat < 128) : lowerChar c = c.toLower :=
  if_pos h

/-! ### Small letters one by one -/

/-- A cased letter stands in front of a place and none behind it. -/
def EndsCased (before after : List Char) : Prop :=
  reachesCased before = true ∧ reachesCased after = false

/-- What lower-casing makes of a character, with what stands before it, nearest first, and what
stands behind it. -/
inductive SmallAt (before after : List Char) : Char → List Char → Prop
  | ascii {c : Char} (h : c.toNat < 128) : SmallAt before after c [c.toLower]
  | beyond {c : Char} (h : 128 ≤ c.toNat) (hsigma : c ≠ 'Σ') (hdotted : c ≠ 'İ') :
      SmallAt before after c [lowerChar c]
  | finalSigma (h : EndsCased before after) : SmallAt before after 'Σ' ['ς']
  | sigma (h : ¬EndsCased before after) : SmallAt before after 'Σ' ['σ']
  | dotted : SmallAt before after 'İ' ['i', '\u0307']

/-- A text that stands behind `before` and what lower-casing makes of it. -/
inductive Lowered : (before text small : List Char) → Prop
  | nil {before : List Char} : Lowered before [] []
  | cons {before text first small : List Char} {c : Char} (hfirst : SmallAt before text c first)
      (h : Lowered (c :: before) text small) : Lowered before (c :: text) (first ++ small)

theorem exists_smallAt (before after : List Char) (c : Char) :
    ∃ small, SmallAt before after c small := by
  by_cases hsigma : c = 'Σ'
  · subst hsigma
    by_cases hends : EndsCased before after
    · exact ⟨_, .finalSigma hends⟩
    · exact ⟨_, .sigma hends⟩
  by_cases hdotted : c = 'İ'
  · subst hdotted
    exact ⟨_, .dotted⟩
  rcases Nat.lt_or_ge c.toNat 128 with hascii | hbeyond
  · exact ⟨_, .ascii hascii⟩
  · exact ⟨_, .beyond hbeyond hsigma hdotted⟩

theorem lowerAfter_cons {before text small : List Char} {c : Char}
    (h : SmallAt before text c small) :
    lowerAfter before (c :: text) = small ++ lowerAfter (c :: before) text := by
  cases h with
  | ascii hascii =>
      have hsigma : c ≠ 'Σ' := by
        rintro rfl
        exact absurd hascii (by decide)
      have hdotted : c ≠ 'İ' := by
        rintro rfl
        exact absurd hascii (by decide)
      rw [lowerAfter, if_neg hsigma, if_neg hdotted, lowerChar_of_ascii hascii]
  | beyond _ hsigma hdotted => rw [lowerAfter, if_neg hsigma, if_neg hdotted]
  | finalSigma hends => rw [lowerAfter, if_pos rfl, if_pos (by simpa [EndsCased] using hends)]
  | sigma hends => rw [lowerAfter, if_pos rfl, if_neg (by simpa [EndsCased] using hends)]
  | dotted => rw [lowerAfter, if_neg (by decide), if_pos rfl]

theorem lowered_iff {before text small : List Char} :
    Lowered before text small ↔ lowerAfter before text = small := by
  constructor
  · intro h
    induction h with
    | nil => rfl
    | cons hfirst _ ih => rw [lowerAfter_cons hfirst, ih]
  · rintro rfl
    induction text generalizing before with
    | nil => exact .nil
    | cons c text ih =>
        obtain ⟨first, hfirst⟩ := exists_smallAt before text c
        rw [lowerAfter_cons hfirst]
        exact .cons hfirst ih

/-! ### Texts in small letters -/

theorem lowerAfter_eq_self {before text : List Char} (h : ∀ c ∈ text, isSmallAscii c = true) :
    lowerAfter before text = text := by
  induction text generalizing before with
  | nil => rfl
  | cons c text ih =>
      obtain ⟨hc, htext⟩ := List.forall_mem_cons.mp h
      obtain ⟨hascii, hsmall⟩ := Bool.and_eq_true_iff.mp hc
      rw [lowerAfter_cons (.ascii (of_decide_eq_true hascii)), eq_of_beq hsmall, ih htext]
      rfl

theorem lower_eq_self {text : List Char} (h : ∀ c ∈ text, isSmallAscii c = true) :
    lower text = text :=
  lowerAfter_eq_self h

/-! ### Beyond ASCII -/

/-- Beyond ASCII, small letters are not blank, and one of them is an ASCII letter. -/
theorem small_of_mem_caseRuns {run : CaseRun} {code : Nat} (hrun : run ∈ caseRuns)
    (hcovers : run.covers code = true) :
    let small := Char.ofNat (code + run.shift).toNat
    small = 'k' ∨ 128 ≤ small.toNat ∧ isBlank small = false := by
  have hall : ∀ run ∈ caseRuns, ∀ code ∈ List.range' run.first (run.last + 1 - run.first),
      let small := Char.ofNat (code + run.shift).toNat
      small = 'k' ∨ 128 ≤ small.toNat ∧ isBlank small = false := by decide +kernel
  refine hall run hrun code ?_
  simp only [CaseRun.covers, Bool.and_eq_true, decide_eq_true_eq] at hcovers
  rw [List.mem_range'_1]
  omega

theorem lowerChar_of_not_ascii {c : Char} (h : 128 ≤ c.toNat) :
    lowerChar c = c ∨ lowerChar c = 'k' ∨
      128 ≤ (lowerChar c).toNat ∧ isBlank (lowerChar c) = false := by
  rw [lowerChar, if_neg (Nat.not_lt.mpr h)]
  split
  next run hfound =>
    have hcovers := List.find?_some hfound
    exact .inr (small_of_mem_caseRuns (List.mem_of_find?_eq_some hfound) hcovers)
  next => exact .inl rfl

end SyntheticRows.Text
