import SyntheticRows.Proofs.ColumnType.Grammar
import SyntheticRows.Proofs.ColumnType.WordPairs
/-!
# Errors and the name that a type begins with

A text that is not read as a type is unknown by its leading word or malformed. That word is taken
from the text after spellings of two words have been joined. Where the leading word runs into such a
spelling without being its first word, or goes on behind it, joining makes it another word, which
the text does not have; everywhere else an error goes by the name that the text begins with.
-/

namespace SyntheticRows

open Text

namespace Declaration

/-- A spelling stands first, and no name goes on behind it. -/
def standsFirst (spelling text : List Char) : Bool :=
  match after? spelling text with
  | none => false
  | some rest => rest.head?.all (!isNameChar ·)

/-- The name that a text begins with: its leading word, or the word for a spelling of two words that
stands first. -/
def leadingName (text : List Char) : List Char :=
  match wordPairs.find? fun pair => standsFirst pair.1.toList text with
  | some pair => pair.2.toList
  | none => text.takeWhile isNameChar

/-- A spelling of two words begins in the leading word, but there are more name characters in front
of it or behind it. -/
def RunsOn (text : List Char) : Prop :=
  ∃ pair ∈ wordPairs, ∃ front back, text = front ++ (pair.1.toList ++ back) ∧
    (∀ c ∈ front, isNameChar c = true) ∧ (front ≠ [] ∨ ∃ c ∈ back.head?, isNameChar c = true)

variable {pair : String × String} {front back text : List Char}

theorem standsFirst_iff {spelling : List Char} :
    standsFirst spelling text = true ↔ ∃ rest, text = spelling ++ rest ∧ Breaks rest := by
  unfold standsFirst
  split
  next hnone =>
    simp only [Bool.false_eq_true, false_iff]
    rintro ⟨rest, hrest, -⟩
    cases hnone.symm.trans (after?_eq_some_iff.mpr hrest)
  next rest hsome =>
    obtain rfl := after?_eq_some_iff.mp hsome
    cases rest <;> simp [Breaks]

theorem exists_of_find?_standsFirst
    (h : wordPairs.find? (fun pair => standsFirst pair.1.toList text) = some pair) :
    pair ∈ wordPairs ∧ ∃ rest, text = pair.1.toList ++ rest ∧ Breaks rest := by
  have hfirst : standsFirst pair.1.toList text = true := by simpa using List.find?_some h
  exact ⟨List.mem_of_find?_eq_some h, standsFirst_iff.mp hfirst⟩

/-- A text that does not run into a spelling keeps its leading name when word pairs are joined. -/
theorem takeWhile_joinWordPairs_eq (h : ¬RunsOn text) :
    (joinWordPairs text).takeWhile isNameChar = leadingName text := by
  unfold leadingName
  split
  next pair hfind =>
    obtain ⟨hpair, rest, rfl, hrest⟩ := exists_of_find?_standsFirst hfind
    have hjoin : joinWordPairs ([] ++ (pair.1.toList ++ rest)) =
        [] ++ pair.2.toList ++ joinWordPairs rest :=
      joinWordPairs_append_spelling hpair (by simp) rest
    rw [List.nil_append, List.nil_append] at hjoin
    rw [hjoin]
    exact takeWhile_append_eq_left (isNameChar_new pair hpair).2
      (breaks_foldl_joinPair wordPairs (List.Subset.refl _) hrest)
  next hfind =>
    have hmeets : ∀ pair ∈ wordPairs, ¬Meets pair.1.toList text := by
      rintro pair hpair ⟨front, back, htext, hfront⟩
      have hwhole : ¬(front ≠ [] ∨ ∃ c ∈ back.head?, isNameChar c = true) := fun hmore =>
        h ⟨pair, hpair, front, back, htext, hfront, hmore⟩
      obtain ⟨hempty, hback⟩ := not_or.mp hwhole
      obtain rfl := not_ne_iff.mp hempty
      refine List.find?_eq_none.mp hfind pair hpair (standsFirst_iff.mpr ⟨back, htext, ?_⟩)
      exact fun c hc => Bool.eq_false_iff.mpr fun hname => hback ⟨c, hc, hname⟩
    rw [← List.takeWhile_append_dropWhile (p := isNameChar) (l := text)] at hmeets
    have hkept := takeWhile_foldl_joinPair wordPairs (List.Subset.refl _)
      (List.all_eq_true.mp List.all_takeWhile) (head?_dropWhile_eq_false isNameChar text) hmeets
    rwa [List.takeWhile_append_dropWhile] at hkept

/-- A spelling that a text runs into does not stand first in it, nor does another one. -/
theorem leadingName_append_spelling (hpair : pair ∈ wordPairs)
    (hfront : ∀ c ∈ front, isNameChar c = true)
    (hmore : front ≠ [] ∨ ∃ c ∈ back.head?, isNameChar c = true) :
    leadingName (front ++ (pair.1.toList ++ back)) = front ++ firstWord pair := by
  have hlead : ∀ c ∈ front ++ firstWord pair, isNameChar c = true :=
    isNameChar_append_firstWord hfront
  unfold leadingName
  split
  next other hfind =>
    exfalso
    obtain ⟨hother, rest, htext, hrest⟩ := exists_of_find?_standsFirst hfind
    rw [append_spelling, ← List.nil_append (other.1.toList ++ rest)] at htext
    obtain ⟨hword, hothers⟩ := eq_of_append_spelling hother hlead
      (breaks_otherWords hpair back) (by simp) htext
    obtain rfl := eq_of_append_firstWord hpair hother hword
    obtain rfl := List.append_cancel_left hothers
    rcases hmore with hfront | ⟨c, hc, hname⟩
    · exact hfront (List.append_cancel_right hword)
    · cases hname.symm.trans (hrest c hc)
  next => rw [append_spelling, takeWhile_append_eq_left hlead (breaks_otherWords hpair back)]

/-- A text that runs into a spelling gets another leading word when word pairs are joined. -/
theorem takeWhile_joinWordPairs_ne (h : RunsOn text) :
    (joinWordPairs text).takeWhile isNameChar ≠ leadingName text := by
  obtain ⟨pair, hpair, front, back, rfl, hfront, hmore⟩ := h
  have hshort : ∀ pair ∈ wordPairs, ¬pair.2.toList <+: firstWord pair := by decide +kernel
  have hword : ∀ c ∈ front ++ pair.2.toList, isNameChar c = true :=
    List.forall_mem_append.mpr ⟨hfront, (isNameChar_new pair hpair).2⟩
  rw [joinWordPairs_append_spelling hpair hfront, leadingName_append_spelling hpair hfront hmore,
    List.takeWhile_append_of_pos hword]
  intro heq
  rw [List.append_assoc] at heq
  exact hshort pair hpair ⟨_, List.append_cancel_left heq⟩

end Declaration

namespace ColumnType

open Declaration

variable {raw : String} {error : ColumnTypeError}

/-- Errors quote the whole text; an unknown name is the leading word of the normalized text. -/
theorem malformed_or_unknown_of_parse_eq_error (h : parse raw = .error error) :
    (∃ fault, error = .malformed raw fault) ∨
      TypeHead.ofName? ((normalize raw.toList).takeWhile isNameChar) = none ∧
        error = .unknown raw (String.ofList ((normalize raw.toList).takeWhile isNameChar)) := by
  unfold parse ofNormalized at h
  split at h
  next fault _ =>
    cases h
    exact .inl ⟨fault, rfl⟩
  next declaration hdeclaration =>
    rw [← (Declaration.ofNormalized_eq_ok_iff.mp hdeclaration).name_eq]
    split at h
    next hunknown =>
      cases h
      exact .inr ⟨hunknown, rfl⟩
    next =>
      split at h
      next fault _ =>
        cases h
        exact .inl ⟨fault, rfl⟩
      next => cases h

/-- **An error goes by the name that the text begins with, unless the text is unknown and its
leading word runs into a spelling of two words.** To go by the name means that a text is malformed
if the catalog has the name, and else is unknown by no other name. -/
theorem error_follows_leading_name_iff (h : parse raw = .error error) :
    let text := lower (collapseBlanks raw.toList)
    ((TypeHead.ofName? (leadingName text) ≠ none → ∃ fault, error = .malformed raw fault) ∧
      ∀ quoted name, error = .unknown quoted name →
        quoted = raw ∧ name = String.ofList (leadingName text)) ↔
      ¬(RunsOn text ∧ ∃ name, error = .unknown raw name) := by
  intro text
  have hnormalize : normalize raw.toList = joinWordPairs text := rfl
  rcases malformed_or_unknown_of_parse_eq_error h with ⟨fault, rfl⟩ | ⟨hunknown, rfl⟩
  · refine iff_of_true ⟨fun _ => ⟨fault, rfl⟩, ?_⟩ ?_
    · rintro _ _ ⟨⟩
    · rintro ⟨-, _, ⟨⟩⟩
  rw [hnormalize] at hunknown ⊢
  constructor
  · rintro ⟨-, hname⟩ ⟨hruns, -⟩
    obtain ⟨-, hsame⟩ := hname _ _ rfl
    exact takeWhile_joinWordPairs_ne hruns (String.ofList_injective hsame)
  · intro hwhole
    have hname := takeWhile_joinWordPairs_eq fun hruns => hwhole ⟨hruns, _, rfl⟩
    refine ⟨fun hknown => absurd (hname ▸ hunknown) hknown, ?_⟩
    rintro _ _ ⟨⟩
    exact ⟨rfl, by rw [hname]⟩

/-- A spelling of two words that begins behind the leading word has no part in the name. -/
theorem error_follows_leading_name_of_citext :
    let raw := "CIText  Character Varying"
    let text := lower (collapseBlanks raw.toList)
    let error := ColumnTypeError.unknown raw "citext"
    parse raw = .error error ∧ leadingName text = "citext".toList ∧
      ((TypeHead.ofName? (leadingName text) ≠ none → ∃ fault, error = .malformed raw fault) ∧
        ∀ quoted name, error = .unknown quoted name →
          quoted = raw ∧ name = String.ofList (leadingName text)) := by
  intro raw text error
  have hparse : parse raw = .error error := by decide +kernel
  have hsame : (joinWordPairs text).takeWhile isNameChar = leadingName text := by decide +kernel
  refine ⟨hparse, by decide +kernel, (error_follows_leading_name_iff hparse).mpr ?_⟩
  exact fun ⟨hruns, _⟩ => takeWhile_joinWordPairs_ne hruns hsame

/-- Errors do not always go by the name that the text begins with: the catalog has the first word of
this text, and the error names a word that the text does not have. -/
theorem error_names_joined_word :
    let raw := "character varyings"
    let text := lower (collapseBlanks raw.toList)
    parse raw = .error (.unknown raw "varchars") ∧ leadingName text = "character".toList ∧
      TypeHead.ofName? (leadingName text) ≠ none ∧
      ¬∀ raw error, parse raw = .error error →
        let text := lower (collapseBlanks raw.toList)
        (TypeHead.ofName? (leadingName text) ≠ none → ∃ fault, error = .malformed raw fault) ∧
          ∀ quoted name, error = .unknown quoted name →
            quoted = raw ∧ name = String.ofList (leadingName text) := by
  intro raw text
  have hparse : parse raw = .error (.unknown raw "varchars") := by decide +kernel
  have hknown : TypeHead.ofName? (leadingName text) ≠ none := by decide +kernel
  refine ⟨hparse, by decide +kernel, hknown, fun hall => ?_⟩
  obtain ⟨fault, hfault⟩ := (hall raw _ hparse).1 hknown
  cases hfault

end ColumnType

end SyntheticRows
