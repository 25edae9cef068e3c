import Mathlib.Data.List.Infix
import SyntheticRows.ColumnType.Declaration
import SyntheticRows.Proofs.Text.Cut
/-!
# What joining word pairs does to the leading word

Spellings of two words are replaced wherever they stand in a text, one spelling behind the other.
Only one of them can begin in the leading word of a text, since it has to end with the first word of
the spelling and their last letters differ. If one does, its new word takes its place, whatever
stands around it; if none does, the leading word stays. No replacement makes or breaks an occurrence
of another spelling there.
-/

namespace SyntheticRows.Declaration

open Text

/-- No name goes on with the text. -/
def Breaks (text : List Char) : Prop :=
  ∀ c ∈ text.head?, isNameChar c = false

/-- A spelling begins in the leading word of a text. -/
def Meets (spelling text : List Char) : Prop :=
  ∃ front back, text = front ++ (spelling ++ back) ∧ ∀ c ∈ front, isNameChar c = true

def firstWord (pair : String × String) : List Char :=
  pair.1.toList.takeWhile isNameChar

/-- What stands behind the first word, with the space. -/
def otherWords (pair : String × String) : List Char :=
  pair.1.toList.dropWhile isNameChar

def joinPair (text : List Char) (pair : String × String) : List Char :=
  replaceText pair.1.toList pair.2.toList text

/-! ### The table of pairs -/

theorem words_ne_nil : ∀ pair ∈ wordPairs,
    pair.1.toList ≠ [] ∧ firstWord pair ≠ [] ∧ otherWords pair ≠ [] := by
  decide +kernel

theorem isNameChar_new : ∀ pair ∈ wordPairs,
    pair.2.toList ≠ [] ∧ ∀ c ∈ pair.2.toList, isNameChar c = true := by
  have hall : ∀ pair ∈ wordPairs, pair.2.toList ≠ [] ∧ pair.2.toList.all isNameChar = true := by
    decide +kernel
  exact fun pair hpair => (hall pair hpair).imp_right List.all_eq_true.mp

theorem eq_of_getLast?_firstWord : ∀ pair ∈ wordPairs, ∀ other ∈ wordPairs,
    (firstWord pair).getLast? = (firstWord other).getLast? → pair = other := by
  decide +kernel

/-- No other spelling begins behind the first word of a spelling. -/
theorem otherWords_apart_spelling : ∀ pair ∈ wordPairs, ∀ other ∈ wordPairs, other ≠ pair →
    ∀ ending ∈ (otherWords pair).tails, ending ≠ [] →
      ¬ending <+: other.1.toList ∧ ¬other.1.toList <+: ending := by
  decide +kernel

/-- No new word brings about what stands behind the first word of a spelling. -/
theorem otherWords_apart_new : ∀ pair ∈ wordPairs, ∀ other ∈ wordPairs,
    ∀ ending ∈ (otherWords pair).tails, ending ≠ [] →
      ¬ending <+: other.2.toList ∧ ¬other.2.toList <+: ending := by
  decide +kernel

/-- No new word ends in a letter of a first word that is replaced later. -/
theorem pairwise_apart : wordPairs.Pairwise fun earlier later =>
    earlier ≠ later ∧ ∀ c ∈ earlier.2.toList.getLast?, c ∉ firstWord later := by
  have hall : wordPairs.Pairwise fun earlier later =>
      earlier ≠ later ∧ earlier.2.toList.getLast?.all (!(firstWord later).contains ·) = true := by
    decide +kernel
  refine hall.imp fun ⟨hne, hlast⟩ => ⟨hne, fun c hc => ?_⟩
  rw [Option.mem_def.mp hc] at hlast
  simpa using hlast

variable {pair other : String × String} {front front' back lead rest word : List Char}

theorem append_spelling (pair : String × String) (front back : List Char) :
    front ++ (pair.1.toList ++ back) = front ++ firstWord pair ++ (otherWords pair ++ back) := by
  have hwords : firstWord pair ++ otherWords pair = pair.1.toList := List.takeWhile_append_dropWhile
  rw [← hwords, List.append_assoc, List.append_assoc]

theorem isNameChar_append_firstWord (hfront : ∀ c ∈ front, isNameChar c = true) :
    ∀ c ∈ front ++ firstWord pair, isNameChar c = true :=
  List.forall_mem_append.mpr ⟨hfront, List.all_eq_true.mp List.all_takeWhile⟩

theorem breaks_otherWords (hpair : pair ∈ wordPairs) (back : List Char) :
    Breaks (otherWords pair ++ back) := by
  rw [Breaks, List.head?_append_of_ne_nil _ (words_ne_nil pair hpair).2.2]
  exact head?_dropWhile_eq_false isNameChar _

theorem eq_of_append_firstWord (hpair : pair ∈ wordPairs) (hother : other ∈ wordPairs)
    (h : front ++ firstWord pair = front' ++ firstWord other) : pair = other := by
  have hlast := congrArg List.getLast? h
  rw [List.getLast?_append_of_ne_nil _ (words_ne_nil pair hpair).2.1,
    List.getLast?_append_of_ne_nil _ (words_ne_nil other hother).2.1] at hlast
  exact eq_of_getLast?_firstWord pair hpair other hother hlast

/-! ### Spellings in the leading word -/

/-- The leading word of a text ends where the first word of a spelling does that begins in it. -/
theorem eq_of_append_spelling (hpair : pair ∈ wordPairs) (hlead : ∀ c ∈ lead, isNameChar c = true)
    (hrest : Breaks rest) (hfront : ∀ c ∈ front, isNameChar c = true)
    (h : lead ++ rest = front ++ (pair.1.toList ++ back)) :
    lead = front ++ firstWord pair ∧ rest = otherWords pair ++ back := by
  rw [append_spelling] at h
  have hword := congrArg (List.takeWhile isNameChar) h
  rw [takeWhile_append_eq_left hlead hrest, takeWhile_append_eq_left
    (isNameChar_append_firstWord hfront) (breaks_otherWords hpair back)] at hword
  rw [hword] at h
  exact ⟨hword, List.append_cancel_left h⟩

theorem meets_iff (hpair : pair ∈ wordPairs) (hlead : ∀ c ∈ lead, isNameChar c = true)
    (hrest : Breaks rest) :
    Meets pair.1.toList (lead ++ rest) ↔
      (∃ front, lead = front ++ firstWord pair) ∧ otherWords pair <+: rest := by
  constructor
  · rintro ⟨front, back, htext, hfront⟩
    obtain ⟨hword, hothers⟩ := eq_of_append_spelling hpair hlead hrest hfront htext
    exact ⟨⟨front, hword⟩, back, hothers.symm⟩
  · rintro ⟨⟨front, rfl⟩, back, rfl⟩
    exact ⟨front, back, (append_spelling pair front back).symm,
      (List.forall_mem_append.mp hlead).1⟩

theorem breaks_replaceText (hpair : pair ∈ wordPairs) (hrest : Breaks rest) (new : List Char) :
    Breaks (replaceText pair.1.toList new rest) := by
  cases rest with
  | nil => exact hrest
  | cons c rest =>
      have habsent : ¬pair.1.toList <+: c :: rest := by
        rintro ⟨back, hback⟩
        have htext : [] ++ (c :: rest) = [] ++ (pair.1.toList ++ back) := hback.symm
        obtain ⟨hword, -⟩ := eq_of_append_spelling hpair (by simp) hrest (by simp) htext
        exact (words_ne_nil pair hpair).2.1 hword.symm
      rw [replaceText_cons_of_absent habsent]
      exact hrest

/-! ### One spelling is replaced -/

theorem replaceText_of_not_meets {spelling : List Char} (hlead : ∀ c ∈ lead, isNameChar c = true)
    (h : ¬Meets spelling (lead ++ rest)) (new : List Char) :
    replaceText spelling new (lead ++ rest) = lead ++ replaceText spelling new rest := by
  refine replaceText_append_left ?_ new
  rintro ending ⟨front, rfl⟩ - ⟨back, hback⟩
  exact h ⟨front, back, by rw [hback, List.append_assoc], (List.forall_mem_append.mp hlead).1⟩

/-- The spelling that begins in the leading word is the first that is replaced. -/
theorem replaceText_self (hpair : pair ∈ wordPairs) (hfront : ∀ c ∈ front, isNameChar c = true)
    (new back : List Char) :
    replaceText pair.1.toList new (front ++ (pair.1.toList ++ back)) =
      front ++ (new ++ replaceText pair.1.toList new back) := by
  rw [replaceText_append_left _ new, replaceText_append_self (words_ne_nil pair hpair).1]
  rintro ending ⟨before, rfl⟩ hne ⟨rest, hrest⟩
  -- An occurrence that begins earlier would have a longer first word.
  have hending : ∀ c ∈ ending, isNameChar c = true := (List.forall_mem_append.mp hfront).2
  rw [append_spelling, ← List.nil_append (_ ++ rest)] at hrest
  obtain ⟨hword, -⟩ := eq_of_append_spelling hpair (isNameChar_append_firstWord hending)
    (breaks_otherWords hpair back) (by simp) hrest.symm
  exact hne (List.append_left_eq_self.mp hword)

/-- Replacing a spelling leaves another one that begins in the leading word. -/
theorem replaceText_other (hpair : pair ∈ wordPairs) (hother : other ∈ wordPairs)
    (hne : other ≠ pair) (hfront : ∀ c ∈ front, isNameChar c = true) (new back : List Char) :
    replaceText other.1.toList new (front ++ (pair.1.toList ++ back)) =
      front ++ (pair.1.toList ++ replaceText other.1.toList new back) := by
  have hlead : ∀ c ∈ front ++ firstWord pair, isNameChar c = true :=
    isNameChar_append_firstWord hfront
  have hmeets : ¬Meets other.1.toList (front ++ firstWord pair ++ (otherWords pair ++ back)) := by
    rw [meets_iff hother hlead (breaks_otherWords hpair back)]
    rintro ⟨⟨front', hword⟩, -⟩
    exact hne (eq_of_append_firstWord hpair hother hword).symm
  have hothers : replaceText other.1.toList new (otherWords pair ++ back) =
      otherWords pair ++ replaceText other.1.toList new back := by
    refine replaceText_append_left (fun ending hending hsome hfound => ?_) new
    have hapart := otherWords_apart_spelling pair hpair other hother hne ending
      ((List.mem_tails _ _).mpr hending) hsome
    rcases List.prefix_or_prefix_of_prefix hfound (List.prefix_append ending back) with h | h
    · exact hapart.2 h
    · exact hapart.1 h
  rw [append_spelling, replaceText_of_not_meets hlead hmeets, hothers, append_spelling]

/-- A word stays whose last letter is none of the first word of the spelling, whatever follows. -/
theorem replaceText_word (hother : other ∈ wordPairs) (hword : ∀ c ∈ word, isNameChar c = true)
    (hlast : ∀ c ∈ word.getLast?, c ∉ firstWord other) (new back : List Char) :
    replaceText other.1.toList new (word ++ back) =
      word ++ replaceText other.1.toList new back := by
  refine replaceText_append_left ?_ new
  rintro ending ⟨before, rfl⟩ hsome ⟨rest, hfound⟩
  obtain ⟨-, hending⟩ := List.forall_mem_append.mp hword
  rw [← List.nil_append (_ ++ rest), append_spelling, List.nil_append] at hfound
  -- The ending consists of name characters, so it lies within the first word.
  obtain ⟨tail, htail⟩ : ∃ tail, firstWord other = ending ++ tail := by
    rcases List.append_eq_append_iff.mp hfound with ⟨tail, htail, hrest⟩ | ⟨tail, htail, -⟩
    · cases tail with
      | nil => exact ⟨[], by rw [htail, List.append_nil, List.append_nil]⟩
      | cons c tail =>
          have hbreaks := breaks_otherWords hother rest c (by rw [hrest]; rfl)
          rw [hending c (htail ▸ by simp)] at hbreaks
          cases hbreaks
    · exact ⟨tail, htail⟩
  have hmem : ending.getLast hsome ∈ firstWord other :=
    htail ▸ List.mem_append_left tail (List.getLast_mem hsome)
  refine hlast _ ?_ hmem
  rw [List.getLast?_append_of_ne_nil _ hsome, List.getLast?_eq_getLast_of_ne_nil hsome]
  rfl

/-! ### All spellings are replaced -/

theorem joinWordPairs_eq_foldl (text : List Char) :
    joinWordPairs text = wordPairs.foldl joinPair text :=
  rfl

theorem breaks_foldl_joinPair (pairs : List (String × String)) (hpairs : pairs ⊆ wordPairs)
    (hrest : Breaks rest) : Breaks (pairs.foldl joinPair rest) := by
  induction pairs generalizing rest with
  | nil => exact hrest
  | cons pair pairs ih =>
      obtain ⟨hpair, hpairs⟩ := List.cons_subset.mp hpairs
      exact ih hpairs (breaks_replaceText hpair hrest _)

/-- Replacing a spelling that does not begin in the leading word brings none about there. -/
theorem not_meets_joinPair (hpair : pair ∈ wordPairs) (hother : other ∈ wordPairs)
    (hlead : ∀ c ∈ lead, isNameChar c = true) (hrest : Breaks rest)
    (h : ¬Meets other.1.toList (lead ++ rest)) :
    ¬Meets other.1.toList (lead ++ joinPair rest pair) := by
  rw [joinPair, meets_iff hother hlead (breaks_replaceText hpair hrest _)]
  rintro ⟨hword, hothers⟩
  refine h ((meets_iff hother hlead hrest).mpr ⟨hword, ?_⟩)
  have hreplaced := replaced_replaceText (words_ne_nil pair hpair).1 pair.2.toList rest
  refine hreplaced.prefix_text (fun ending hending => ?_) hothers
  exact otherWords_apart_new other hother pair hpair ending ((List.mem_tails _ _).mpr hending)

/-- A leading word in which no spelling begins stays. -/
theorem takeWhile_foldl_joinPair (pairs : List (String × String)) (hpairs : pairs ⊆ wordPairs)
    (hlead : ∀ c ∈ lead, isNameChar c = true) (hrest : Breaks rest)
    (h : ∀ pair ∈ wordPairs, ¬Meets pair.1.toList (lead ++ rest)) :
    (pairs.foldl joinPair (lead ++ rest)).takeWhile isNameChar = lead := by
  induction pairs generalizing rest with
  | nil => exact takeWhile_append_eq_left hlead hrest
  | cons pair pairs ih =>
      obtain ⟨hpair, hpairs⟩ := List.cons_subset.mp hpairs
      have hjoin : joinPair (lead ++ rest) pair = lead ++ joinPair rest pair :=
        replaceText_of_not_meets hlead (h pair hpair) _
      rw [List.foldl_cons, hjoin]
      refine ih hpairs (breaks_replaceText hpair hrest _) fun other hother => ?_
      exact not_meets_joinPair hpair hother hlead hrest (h other hother)

theorem foldl_joinPair_other (hpair : pair ∈ wordPairs)
    (hfront : ∀ c ∈ front, isNameChar c = true) (pairs : List (String × String))
    (hpairs : ∀ other ∈ pairs, other ∈ wordPairs ∧ other ≠ pair) (back : List Char) :
    pairs.foldl joinPair (front ++ (pair.1.toList ++ back)) =
      front ++ (pair.1.toList ++ pairs.foldl joinPair back) := by
  induction pairs generalizing back with
  | nil => rfl
  | cons other pairs ih =>
      obtain ⟨⟨hother, hne⟩, hpairs⟩ := List.forall_mem_cons.mp hpairs
      rw [List.foldl_cons, joinPair, replaceText_other hpair hother hne hfront, ih hpairs]
      rfl

theorem foldl_joinPair_word (hword : ∀ c ∈ word, isNameChar c = true)
    (pairs : List (String × String)) (hpairs : ∀ other ∈ pairs, other ∈ wordPairs ∧
      ∀ c ∈ word.getLast?, c ∉ firstWord other) (back : List Char) :
    pairs.foldl joinPair (word ++ back) = word ++ pairs.foldl joinPair back := by
  induction pairs generalizing back with
  | nil => rfl
  | cons other pairs ih =>
      obtain ⟨⟨hother, hlast⟩, hpairs⟩ := List.forall_mem_cons.mp hpairs
      rw [List.foldl_cons, joinPair, replaceText_word hother hword hlast, ih hpairs]
      rfl

/-- The new word takes the place of the spelling that begins in the leading word. -/
theorem joinWordPairs_append_spelling (hpair : pair ∈ wordPairs)
    (hfront : ∀ c ∈ front, isNameChar c = true) (back : List Char) :
    joinWordPairs (front ++ (pair.1.toList ++ back)) =
      front ++ pair.2.toList ++ joinWordPairs back := by
  obtain ⟨earlier, later, hsplit⟩ := List.append_of_mem hpair
  obtain ⟨hsome, hnew⟩ := isNameChar_new pair hpair
  have hapart := pairwise_apart
  rw [hsplit, List.pairwise_append, List.pairwise_cons] at hapart
  obtain ⟨-, ⟨hlater, -⟩, hearlier⟩ := hapart
  have hbefore : ∀ other ∈ earlier, other ∈ wordPairs ∧ other ≠ pair := fun other hother =>
    ⟨hsplit ▸ List.mem_append_left _ hother, (hearlier other hother pair List.mem_cons_self).1⟩
  have hbehind : ∀ other ∈ later, other ∈ wordPairs ∧
      ∀ c ∈ (front ++ pair.2.toList).getLast?, c ∉ firstWord other := by
    intro other hother
    rw [List.getLast?_append_of_ne_nil _ hsome]
    exact ⟨hsplit ▸ List.mem_append_right _ (List.mem_cons_of_mem _ hother),
      (hlater other hother).2⟩
  calc joinWordPairs (front ++ (pair.1.toList ++ back))
      = later.foldl joinPair (joinPair (earlier.foldl joinPair
          (front ++ (pair.1.toList ++ back))) pair) := by
        rw [joinWordPairs_eq_foldl, hsplit, List.foldl_append, List.foldl_cons]
    _ = later.foldl joinPair (joinPair (front ++ (pair.1.toList ++
          earlier.foldl joinPair back)) pair) := by
        rw [foldl_joinPair_other hpair hfront earlier hbefore]
    _ = later.foldl joinPair (front ++ pair.2.toList ++
          joinPair (earlier.foldl joinPair back) pair) := by
        rw [joinPair, replaceText_self hpair hfront, ← List.append_assoc]
        rfl
    _ = front ++ pair.2.toList ++
          later.foldl joinPair (joinPair (earlier.foldl joinPair back) pair) :=
        foldl_joinPair_word (List.forall_mem_append.mpr ⟨hfront, hnew⟩) later hbehind _
    _ = front ++ pair.2.toList ++ joinWordPairs back := by
        rw [joinWordPairs_eq_foldl, hsplit, List.foldl_append, List.foldl_cons]

end SyntheticRows.Declaration
