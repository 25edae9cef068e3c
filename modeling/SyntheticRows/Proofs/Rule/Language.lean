import SyntheticRows.Proofs.Elementwise
import SyntheticRows.Proofs.Text.Numeral
import SyntheticRows.Rule.Compiler
/-!
# The forms of a rule

A rule is a name of letters with a body in brackets, or the name of a generator with nothing behind
it or one or two integers in parentheses. White space may stand around the pieces. A text is split
into the pieces of a form exactly if it is put together from them, and no text has both forms.
-/

namespace SyntheticRows.Rule

open Text

/-- A name of letters and behind it a body, of any text, in brackets. -/
inductive Bracketed : List Char → List Char → List Char → Prop
  | mk {name gap body : List Char} (hnonempty : name ≠ []) (hletters : ∀ c ∈ name, c.isAlpha = true)
      (hgap : allBlank gap = true) : Bracketed (name ++ gap ++ '[' :: (body ++ [']'])) name body

/-- A label and its weight with a percent sign between them. White space around them is dropped. -/
inductive EntryText : List Char → String × UInt32 → Prop
  | mk {label weight : List Char} {value : UInt32} (hlabel : '%' ∉ label) (hweight : '%' ∉ weight)
      (hnumeral : UnsignedNumeral (trim weight) value.toNat) :
      EntryText (label ++ '%' :: weight) (String.ofList (trim label), value)

/-- An integer of 64 bits with white space around it. -/
inductive ArgumentText : List Char → Int → Prop
  | mk {front numeral back : List Char} {value : Int} (hfront : allBlank front = true)
      (hnumeral : SignedNumeral numeral value) (hback : allBlank back = true)
      (hlow : Int64.minValue.toInt ≤ value) (hhigh : value ≤ Int64.maxValue.toInt) :
      ArgumentText (front ++ numeral ++ back) value

/-- One argument, or two with a comma between them. -/
inductive ArgumentListText : List Char → List Int → Prop
  | one {text : List Char} {value : Int} (h : ArgumentText text value) :
      ArgumentListText text [value]
  | two {text text' : List Char} {value value' : Int} (h : ArgumentText text value)
      (h' : ArgumentText text' value') : ArgumentListText (text ++ ',' :: text') [value, value']

/-- Letters, digits and underscores, of which a letter stands first. -/
structure IsName (name : List Char) : Prop where
  starts : ∃ c ∈ name.head?, c.isAlpha = true
  chars : ∀ c ∈ name, c.isAlphanum = true ∨ c = '_'

/-- A name with nothing behind it, or with arguments in parentheses. -/
inductive CallText : List Char → List Char → List Int → Prop
  | bare {name : List Char} (hname : IsName name) : CallText name name []
  | called {name gap inner : List Char} {values : List Int} (hname : IsName name)
      (hgap : allBlank gap = true) (hvalues : ArgumentListText inner values) :
      CallText (name ++ gap ++ '(' :: (inner ++ [')'])) name values

variable {text name body : List Char}

theorem isBlank_eq_false_of_isAlpha {c : Char} (h : c.isAlpha = true) : isBlank c = false :=
  isBlank_eq_false_of_isAlphanum (Bool.or_eq_true_iff.mpr (.inl h))

/-! ### Brackets -/

theorem splitBrackets?_eq_some_iff {small : List Char} :
    splitBrackets? text = some (small, body) ↔
      ∃ name, Bracketed text name body ∧ lowerAscii name = small := by
  simp only [splitBrackets?, Option.bind_eq_bind, Option.bind_eq_some_iff, Prod.exists,
    cutFirst_eq_some_iff, before?_eq_some_iff]
  constructor
  · rintro ⟨before, _, ⟨rfl, -⟩, body', rfl, h⟩
    obtain ⟨gap, hgap, hbefore⟩ := exists_eq_trimEnd_append before
    split at h
    next => cases h
    next hname =>
      cases h
      obtain ⟨hnonempty, hletters⟩ : trimEnd before ≠ [] ∧
          ∀ c ∈ trimEnd before, c.isAlpha = true := by
        simpa using hname
      have hbracketed : Bracketed (trimEnd before ++ gap ++ '[' :: (body ++ [']'])) (trimEnd before)
          body := .mk hnonempty hletters hgap
      rw [← hbefore] at hbracketed
      exact ⟨trimEnd before, hbracketed, rfl⟩
  · rintro ⟨name, hbracketed, rfl⟩
    obtain ⟨hnonempty, hletters, hgap⟩ := hbracketed
    rename_i gap
    have hopen : '[' ∉ name ++ gap := by
      intro hmem
      rcases List.mem_append.mp hmem with hmem | hmem
      · cases hletters _ hmem
      · cases allBlank_iff.mp hgap _ hmem
    have hname : trimEnd (name ++ gap) = name := by
      rw [trimEnd_append_of_allBlank hgap, trimEnd_eq_self]
      exact fun c hc => isBlank_eq_false_of_isAlpha (hletters c (List.mem_of_mem_getLast? hc))
    refine ⟨name ++ gap, _, ⟨rfl, hopen⟩, body, rfl, ?_⟩
    rw [hname, if_neg]
    simpa [hnonempty] using hletters

theorem Bracketed.open_mem (h : Bracketed text name body) : '[' ∈ text := by
  obtain ⟨-, -, -⟩ := h
  simp

theorem Bracketed.trimmed (h : Bracketed text name body) : Trimmed text := by
  obtain ⟨hnonempty, hletters, -⟩ := h
  rename_i gap
  obtain ⟨c, name, rfl⟩ := List.exists_cons_of_ne_nil hnonempty
  have hfirst := isBlank_eq_false_of_isAlpha (hletters c List.mem_cons_self)
  have hlast : isBlank ']' = false := by decide
  simpa using trimmed_between hfirst hlast (name ++ gap ++ '[' :: body)

theorem weightedLabel_eq_ok_iff {weighted : String × UInt32} :
    weightedLabel text = .ok weighted ↔ EntryText text weighted := by
  unfold weightedLabel
  constructor
  · intro h
    split at h
    next label weight hparts =>
      obtain ⟨rfl, hlabel, hweight⟩ := splitAtEach_eq_pair_iff.mp hparts
      split at h
      next value hvalue =>
        cases h
        exact .mk hlabel hweight (unsigned32?_eq_some_iff.mp hvalue)
      next => cases h
    next => cases h
  · rintro ⟨hlabel, hweight, hnumeral⟩
    rw [splitAtEach_eq_pair_iff.mpr ⟨rfl, hlabel, hweight⟩]
    dsimp only
    rw [unsigned32?_eq_some_iff.mpr hnumeral]

/-! ### Arguments -/

theorem argument_eq_ok_iff {value : Int} : argument text = .ok value ↔ ArgumentText text value := by
  have hread : argument text = .ok value ↔ signed64? (trim text) = some value := by
    unfold argument
    cases signed64? (trim text) <;> simp
  rw [hread, signed64?_eq_some_iff]
  constructor
  · rintro ⟨hnumeral, hlow, hhigh⟩
    obtain ⟨-, front, back, hfront, hback, htext⟩ := trim_eq_iff.mp (Eq.refl (trim text))
    rw [htext]
    exact .mk hfront hnumeral hback hlow hhigh
  · rintro ⟨hfront, hnumeral, hback, hlow, hhigh⟩
    rw [trim_eq_iff.mpr ⟨hnumeral.trimmed, _, _, hfront, hback, rfl⟩]
    exact ⟨hnumeral, hlow, hhigh⟩

theorem ArgumentText.notMem {value : Int} (h : ArgumentText text value) {c : Char}
    (hblank : isBlank c = false) (hdigit : c.isDigit = false) (hplus : c ≠ '+') (hminus : c ≠ '-') :
    c ∉ text := by
  obtain ⟨hfront, hnumeral, hback, -, -⟩ := h
  refine notMem_between_blanks hfront hback hblank fun hc => ?_
  rcases hnumeral.isDigit_or_sign c hc with h | h | h
  · cases hdigit.symm.trans h
  · exact hplus h
  · exact hminus h

theorem ArgumentText.comma_notMem {value : Int} (h : ArgumentText text value) : ',' ∉ text :=
  h.notMem (by decide) (by decide) (by decide) (by decide)

theorem ArgumentListText.open_notMem {values : List Int} (h : ArgumentListText text values) :
    '[' ∉ text := by
  have hone : ∀ {part : List Char} {value : Int}, ArgumentText part value → '[' ∉ part :=
    fun hpart => hpart.notMem (by decide) (by decide) (by decide) (by decide)
  cases h with
  | one h => exact hone h
  | two h h' => simp [hone h, hone h']

theorem arguments_eq_ok_iff {values : List Int} :
    arguments name text = .ok values ↔
      ∃ inner, text = '(' :: (inner ++ [')']) ∧ ArgumentListText inner values := by
  have hinner : ∀ {inner : List Char},
      (after? ['('] text >>= before? [')']) = some inner ↔ text = '(' :: (inner ++ [')']) := by
    intro inner
    simp only [Option.bind_eq_bind, Option.bind_eq_some_iff, after?_eq_some_iff, before?_eq_some_iff]
    constructor
    · rintro ⟨_, rfl, rfl⟩
      rfl
    · rintro rfl
      exact ⟨_, rfl, rfl⟩
  unfold arguments
  constructor
  · intro h
    split at h
    next => cases h
    next inner hsome =>
      obtain ⟨values', hvalues, h⟩ := bind_eq_ok_iff.mp h
      refine ⟨inner, hinner.mp hsome, ?_⟩
      split at h
      next => cases h
      next hcount =>
        cases h
        match values, hvalues, hcount with
        | [], hvalues, _ => exact absurd hvalues mapM_splitAtEach_ne_nil
        | [_], hvalues, _ =>
            exact .one ((mapM_splitAtEach_eq_singleton_iff argument_eq_ok_iff
              ArgumentText.comma_notMem).mp hvalues)
        | [_, _], hvalues, _ =>
            obtain ⟨part, part', rfl, hfirst, hsecond⟩ := (mapM_splitAtEach_eq_pair_iff
              argument_eq_ok_iff ArgumentText.comma_notMem).mp hvalues
            exact .two hfirst hsecond
        | _ :: _ :: _ :: _, _, hcount => cases hcount (by simp)
  · rintro ⟨inner, htext, h⟩
    rw [hinner.mpr htext]
    dsimp only
    cases h with
    | one hfirst =>
        refine bind_eq_ok_iff.mpr ⟨[_], ?_, rfl⟩
        exact (mapM_splitAtEach_eq_singleton_iff argument_eq_ok_iff
          ArgumentText.comma_notMem).mpr hfirst
    | two hfirst hsecond =>
        refine bind_eq_ok_iff.mpr ⟨[_, _], ?_, rfl⟩
        exact (mapM_splitAtEach_eq_pair_iff argument_eq_ok_iff
          ArgumentText.comma_notMem).mpr ⟨_, _, rfl, hfirst, hsecond⟩

/-! ### Calls -/

theorem isNameChar_eq_false_of_isBlank {c : Char} (h : isBlank c = true) :
    isNameChar c = false := by
  by_contra hname
  cases h.symm.trans (isBlank_eq_false_of_isWordChar (Bool.not_eq_false _ ▸ hname))

theorem isName_iff :
    IsName name ↔ startsName name = true ∧ ∀ c ∈ name, isNameChar c = true := by
  have hstarts : startsName name = true ↔ ∃ c ∈ name.head?, c.isAlpha = true := by
    cases name <;> simp [startsName]
  have hchars : (∀ c ∈ name, isNameChar c = true) ↔
      ∀ c ∈ name, c.isAlphanum = true ∨ c = '_' := by simp [isNameChar]
  rw [hstarts, hchars]
  exact ⟨fun ⟨starts, chars⟩ => ⟨starts, chars⟩, fun ⟨starts, chars⟩ => ⟨starts, chars⟩⟩

instance (name : List Char) : Decidable (IsName name) :=
  decidable_of_iff (startsName name = true ∧ name.all isNameChar = true)
    (by rw [isName_iff, List.all_eq_true])

section Calls

variable {rest inner gap : List Char} {values : List Int}

theorem splitCall_of_isName (hname : IsName name)
    (hrest : ∀ c ∈ rest.head?, isNameChar c = false) :
    splitCall (name ++ rest) =
      (if (trim rest).isEmpty then pure [] else arguments name (trim rest)).map
        (String.ofList (lowerAscii name), ·) := by
  obtain ⟨hstarts, hchars⟩ := isName_iff.mp hname
  unfold splitCall
  rw [takeWhile_append_eq_left hchars hrest, dropWhile_append_eq_right hchars hrest]
  dsimp only
  rw [hstarts]
  by_cases hbare : (trim rest).isEmpty = true
  · rw [if_pos hbare, if_pos hbare]
    rfl
  · rw [if_neg hbare, if_neg hbare]
    cases arguments name (trim rest) <;> rfl

theorem splitCall_bare (hname : IsName name) :
    splitCall name = .ok (String.ofList (lowerAscii name), []) := by
  have hend : ∀ c ∈ ([] : List Char).head?, isNameChar c = false := nofun
  have hcall := splitCall_of_isName hname hend
  rw [List.append_nil] at hcall
  rw [hcall]
  rfl

theorem splitCall_called (hname : IsName name) (hgap : allBlank gap = true)
    (hvalues : ArgumentListText inner values) :
    splitCall (name ++ gap ++ '(' :: (inner ++ [')'])) =
      .ok (String.ofList (lowerAscii name), values) := by
  have htrim : trim (gap ++ '(' :: (inner ++ [')'])) = '(' :: (inner ++ [')']) := by
    refine trim_eq_iff.mpr ⟨?_, gap, [], hgap, rfl, (List.append_nil _).symm⟩
    exact trimmed_between (by decide) (by decide) inner
  have hrest : ∀ c ∈ (gap ++ '(' :: (inner ++ [')'])).head?, isNameChar c = false := by
    cases gap with
    | nil =>
        rintro _ ⟨⟩
        decide
    | cons c gap =>
        rintro _ ⟨⟩
        exact isNameChar_eq_false_of_isBlank (allBlank_iff.mp hgap _ List.mem_cons_self)
  rw [List.append_assoc, splitCall_of_isName hname hrest, htrim]
  rw [if_neg (by simp), arguments_eq_ok_iff.mpr ⟨inner, rfl, hvalues⟩]
  rfl

theorem exists_name_of_splitCall_eq_ok {call : String × List Int} (h : splitCall text = .ok call) :
    ∃ name rest, text = name ++ rest ∧ IsName name ∧
      ∀ c ∈ rest.head?, isNameChar c = false := by
  have hstarts : startsName (text.takeWhile isNameChar) = true := by
    by_contra hstarts
    rw [Bool.not_eq_true] at hstarts
    unfold splitCall at h
    dsimp only at h
    rw [hstarts] at h
    cases h
  refine ⟨_, _, List.takeWhile_append_dropWhile.symm, isName_iff.mpr ⟨hstarts, fun c hc => ?_⟩,
    head?_dropWhile_eq_false isNameChar text⟩
  exact List.all_eq_true.mp List.all_takeWhile c hc

/-- What follows a name in a text without blank ends ends in no blank. -/
theorem exists_blank_append_trim (htrimmed : Trimmed (name ++ rest)) :
    ∃ gap, allBlank gap = true ∧ rest = gap ++ trim rest := by
  obtain ⟨-, gap, back, hgap, hback, hrest⟩ := trim_eq_iff.mp (Eq.refl (trim rest))
  obtain rfl : back = [] := by
    rw [hrest, ← List.append_assoc] at htrimmed
    exact eq_nil_of_trimmed_append htrimmed hback
  rw [List.append_nil] at hrest
  exact ⟨gap, hgap, hrest⟩

theorem splitCall_eq_ok_iff {small : String} (htrimmed : Trimmed text) :
    splitCall text = .ok (small, values) ↔
      ∃ name, CallText text name values ∧ String.ofList (lowerAscii name) = small := by
  constructor
  · intro h
    obtain ⟨name, rest, rfl, hname, hend⟩ := exists_name_of_splitCall_eq_ok h
    obtain ⟨gap, hgap, hrest⟩ := exists_blank_append_trim htrimmed
    rw [splitCall_of_isName hname hend] at h
    by_cases hbare : trim rest = []
    · rw [hbare] at h
      cases h
      -- Blanks alone do not follow the name either.
      obtain rfl : rest = [] := by
        rw [hbare, List.append_nil] at hrest
        exact eq_nil_of_trimmed_append htrimmed (hrest ▸ hgap)
      rw [List.append_nil]
      exact ⟨name, .bare hname, rfl⟩
    · rw [if_neg (by simpa using hbare)] at h
      obtain ⟨values', hvalues, ⟨⟩⟩ := map_eq_ok_iff.mp h
      obtain ⟨inner, hinner, hlist⟩ := arguments_eq_ok_iff.mp hvalues
      rw [hrest, hinner, ← List.append_assoc]
      exact ⟨name, .called hname hgap hlist, rfl⟩
  · rintro ⟨name, hcall, rfl⟩
    cases hcall with
    | bare hname => exact splitCall_bare hname
    | called hname hgap hvalues => exact splitCall_called hname hgap hvalues

end Calls

theorem CallText.open_notMem {values : List Int} (h : CallText text name values) : '[' ∉ text := by
  have hname : ∀ {name : List Char}, IsName name → '[' ∉ name := fun h hmem => by
    cases (isName_iff.mp h).2 _ hmem
  cases h with
  | bare h => exact hname h
  | called h hgap hvalues =>
      have hblank : '[' ∉ _ := fun hmem => by cases allBlank_iff.mp hgap _ hmem
      simp [hname h, hblank, hvalues.open_notMem]

/-- No text has both forms. -/
theorem CallText.not_bracketed {values : List Int} {name' : List Char}
    (h : CallText text name values) : ¬Bracketed text name' body :=
  fun h' => h.open_notMem h'.open_mem

end SyntheticRows.Rule
