import SyntheticRows.ColumnType.Declaration
import SyntheticRows.Proofs.Elementwise
import SyntheticRows.Proofs.Text.Numeral
/-!
# The forms of a declaration

A declaration is a name, at most two parameters in parentheses and a qualifier, with white space
wherever the pieces stay apart without it. A text is split into these pieces exactly if it is put
together from them. The precision of an interval may also stand behind the qualifier.
-/

namespace SyntheticRows.Declaration

open Text

/-- One or more digits that denote a number of 32 bits, with white space around them. -/
inductive ParameterText : List Char → UInt32 → Prop
  | mk {front digits back : List Char} {value : UInt32} (hfront : allBlank front = true)
      (hsome : digits ≠ []) (hdigits : ∀ c ∈ digits, c.isDigit = true)
      (hvalue : Nat.ofDigitChars 10 digits 0 = value.toNat) (hback : allBlank back = true) :
      ParameterText (front ++ digits ++ back) value

/-- One parameter, or two with a comma between them. -/
inductive ParameterListText : List Char → UInt32 → Option UInt32 → Prop
  | one {text : List Char} {first : UInt32} (h : ParameterText text first) :
      ParameterListText text first none
  | two {text text' : List Char} {first second : UInt32} (h : ParameterText text first)
      (h' : ParameterText text' second) :
      ParameterListText (text ++ ',' :: text') first (some second)

/-- Parameters in parentheses, or nothing. -/
inductive LeadingText : List Char → Option UInt32 → Option UInt32 → Prop
  | absent : LeadingText [] none none
  | present {inner : List Char} {first : UInt32} {second : Option UInt32}
      (h : ParameterListText inner first second) :
      LeadingText ('(' :: (inner ++ [')'])) (some first) second

/-- Letters, digits and underscores, of which no digit stands first. -/
structure IsName (name : List Char) : Prop where
  starts : ∃ c ∈ name.head?, c.isAlpha = true ∨ c = '_'
  chars : ∀ c ∈ name, c.isAlphanum = true ∨ c = '_'

/-- Letters and spaces, with a letter at each end. -/
structure IsQualifier (text : List Char) : Prop where
  nonempty : text ≠ []
  chars : ∀ c ∈ text, c.isAlpha = true ∨ c = ' '
  trimmed : Trimmed text

theorem isName_iff {name : List Char} :
    IsName name ↔ startsName name = true ∧ ∀ c ∈ name, isNameChar c = true := by
  have hstarts : startsName name = true ↔ ∃ c ∈ name.head?, c.isAlpha = true ∨ c = '_' := by
    cases name <;> simp [startsName]
  have hchars : (∀ c ∈ name, isNameChar c = true) ↔
      ∀ c ∈ name, c.isAlphanum = true ∨ c = '_' := by simp [isNameChar]
  rw [hstarts, hchars]
  exact ⟨fun ⟨starts, chars⟩ => ⟨starts, chars⟩, fun ⟨starts, chars⟩ => ⟨starts, chars⟩⟩

theorem isQualifier_iff {text : List Char} :
    IsQualifier text ↔ text ≠ [] ∧ (∀ c ∈ text, isQualifierChar c = true) ∧ Trimmed text := by
  have hchars : (∀ c ∈ text, isQualifierChar c = true) ↔
      ∀ c ∈ text, c.isAlpha = true ∨ c = ' ' := by simp [isQualifierChar]
  rw [hchars]
  exact ⟨fun ⟨nonempty, chars, trimmed⟩ => ⟨nonempty, chars, trimmed⟩,
    fun ⟨nonempty, chars, trimmed⟩ => ⟨nonempty, chars, trimmed⟩⟩

instance (name : List Char) : Decidable (IsName name) :=
  decidable_of_iff (startsName name = true ∧ name.all isNameChar = true)
    (by rw [isName_iff, List.all_eq_true])

instance (text : List Char) : Decidable (IsQualifier text) :=
  decidable_of_iff (text ≠ [] ∧ text.all isQualifierChar = true ∧ Trimmed text)
    (by rw [isQualifier_iff, List.all_eq_true])

/-- What may follow a name and its leading parameters: nothing, a qualifier, or the fields of an
interval and their precision. -/
inductive Followed : List Char → Option UInt32 → Option UInt32 → List Char → Declaration → Prop
  | bare {name : List Char} {first second : Option UInt32} :
      Followed name first second [] ⟨name, first, second, none⟩
  | qualifier {name qualifier back : List Char} {first second : Option UInt32}
      (hqualifier : IsQualifier qualifier) (hback : allBlank back = true) :
      Followed name first second (qualifier ++ back) ⟨name, first, second, some qualifier⟩
  | precision {fields gap inner back : List Char} {second : Option UInt32} {precision : UInt32}
      (hfields : IsQualifier fields) (hgap : allBlank gap = true)
      (hinner : ParameterText inner precision) (hback : allBlank back = true) :
      Followed "interval".toList none second (fields ++ gap ++ '(' :: (inner ++ [')']) ++ back)
        ⟨"interval".toList, some precision, second, some fields⟩

/-- How the text of a declaration is put together. What follows a name right away needs white space
in front of it. -/
inductive Written : List Char → Declaration → Prop
  | mk {name gap parameters gap' rest : List Char} {first second : Option UInt32}
      {declaration : Declaration} (hname : IsName name) (hgap : allBlank gap = true)
      (hparameters : LeadingText parameters first second) (hgap' : allBlank gap' = true)
      (hrest : Followed name first second rest declaration)
      (hapart : rest ≠ [] → parameters = [] → gap ≠ []) :
      Written (name ++ (gap ++ parameters ++ gap' ++ rest)) declaration

variable {text rest : List Char} {first second : Option UInt32} {declaration : Declaration}

/-! ### Parameters -/

theorem parameter_eq_ok_iff_trim {value : UInt32} :
    parameter text = .ok value ↔
      isNumeral (trim text) = true ∧ decimalValue (trim text) = value.toNat := by
  simp only [parameter]
  cases hdigits : natural? (trim text) with
  | none =>
      have hnone : ¬(isNumeral (trim text) = true ∧ decimalValue (trim text) = value.toNat) := by
        intro h
        cases hdigits.symm.trans (natural?_eq_some_iff.mpr h)
      simp [hnone]
  | some n =>
      obtain ⟨hnumeral, rfl⟩ := natural?_eq_some_iff.mp hdigits
      dsimp only
      by_cases hlt : decimalValue (trim text) < UInt32.size
      · have hsame := UInt32.toNat_ofNat_of_lt' hlt
        rw [if_pos hlt, Except.ok.injEq, ← UInt32.toNat_inj, Nat.toUInt32_eq, hsame]
        simp [hnumeral]
      · have hother : decimalValue (trim text) ≠ value.toNat := by
          have hbound := value.toNat_lt_size
          omega
        rw [if_neg hlt]
        simp [hother]

theorem parameter_eq_ok_iff {value : UInt32} :
    parameter text = .ok value ↔ ParameterText text value := by
  rw [parameter_eq_ok_iff_trim]
  constructor
  · rintro ⟨hnumeral, hvalue⟩
    obtain ⟨_, front, back, hfront, hback, htext⟩ := trim_eq_iff.mp (Eq.refl (trim text))
    obtain ⟨hsome, hdigits⟩ := isNumeral_iff.mp hnumeral
    rw [htext]
    exact .mk hfront hsome hdigits hvalue hback
  · rintro ⟨hfront, hsome, hdigits, hvalue, hback⟩
    have hnumeral := isNumeral_iff.mpr ⟨hsome, hdigits⟩
    rw [trim_eq_iff.mpr ⟨trimmed_of_isNumeral hnumeral, _, _, hfront, hback, rfl⟩]
    exact ⟨hnumeral, hvalue⟩

theorem ParameterText.notMem {value : UInt32} (h : ParameterText text value) {c : Char}
    (hblank : isBlank c = false) (hdigit : c.isDigit = false) : c ∉ text := by
  obtain ⟨hfront, -, hdigits, -, hback⟩ := h
  refine notMem_between_blanks hfront hback hblank fun hc => ?_
  cases hdigit.symm.trans (hdigits c hc)

theorem ParameterText.comma_notMem {value : UInt32} (h : ParameterText text value) : ',' ∉ text :=
  h.notMem (by decide) (by decide)

theorem parameterList_eq_ok_iff {first : UInt32} :
    parameterList text = .ok (first, second) ↔ ParameterListText text first second := by
  unfold parameterList
  rw [bind_eq_ok_iff]
  constructor
  · rintro ⟨values, hvalues, h⟩
    match values, hvalues, h with
    | [_], hvalues, rfl =>
        exact .one ((mapM_splitAtEach_eq_singleton_iff parameter_eq_ok_iff
          ParameterText.comma_notMem).mp hvalues)
    | [_, _], hvalues, rfl =>
        obtain ⟨part, part', rfl, hfirst, hsecond⟩ := (mapM_splitAtEach_eq_pair_iff
          parameter_eq_ok_iff ParameterText.comma_notMem).mp hvalues
        exact .two hfirst hsecond
  · intro h
    cases h with
    | one hfirst =>
        refine ⟨[_], ?_, rfl⟩
        exact (mapM_splitAtEach_eq_singleton_iff parameter_eq_ok_iff
          ParameterText.comma_notMem).mpr hfirst
    | two hfirst hsecond =>
        refine ⟨[_, _], ?_, rfl⟩
        exact (mapM_splitAtEach_eq_pair_iff parameter_eq_ok_iff
          ParameterText.comma_notMem).mpr ⟨_, _, rfl, hfirst, hsecond⟩

theorem ParameterListText.close_notMem {first : UInt32} (h : ParameterListText text first second) :
    ')' ∉ text := by
  cases h with
  | one hfirst => exact hfirst.notMem (by decide) (by decide)
  | two hfirst hsecond =>
      have hclose := hfirst.notMem (c := ')') (by decide) (by decide)
      have hclose' := hsecond.notMem (c := ')') (by decide) (by decide)
      simp [hclose, hclose']

theorem leadingParameters_of_head?_ne (h : text.head? ≠ some '(') :
    leadingParameters text = .ok (none, none, text) := by
  unfold leadingParameters
  split
  next => exact absurd rfl h
  next => rfl

theorem leadingParameters_eq_ok_of_present {inner : List Char} {first : UInt32}
    (h : ParameterListText inner first second) (back : List Char) :
    leadingParameters ('(' :: (inner ++ [')']) ++ back) =
      .ok (some first, second, trimStart back) := by
  have hcut : cutFirst ')' (inner ++ ')' :: back) = some (inner, back) :=
    cutFirst_append_cons h.close_notMem back
  rw [List.cons_append, List.append_assoc, List.singleton_append, leadingParameters, hcut]
  dsimp only
  rw [parameterList_eq_ok_iff.mpr h]
  rfl

/-- The pieces that parameters are read from, unless the text holds none. -/
theorem LeadingText.leadingParameters_eq_ok {parameters back : List Char}
    (h : LeadingText parameters first second)
    (hback : parameters = [] → (trimStart back).head? ≠ some '(') :
    leadingParameters (trimStart (parameters ++ back)) = .ok (first, second, trimStart back) := by
  cases h with
  | absent => exact leadingParameters_of_head?_ne (hback rfl)
  | present hlist =>
      rw [← leadingParameters_eq_ok_of_present hlist]
      rfl

theorem exists_of_leadingParameters_eq_ok
    (h : leadingParameters (trimStart text) = .ok (first, second, rest)) :
    ∃ gap parameters gap', text = gap ++ parameters ++ gap' ++ rest ∧ allBlank gap = true ∧
      allBlank gap' = true ∧ LeadingText parameters first second ∧
      (∀ c ∈ rest.head?, isBlank c = false) ∧
      (parameters = [] → gap' = [] ∧ rest.head? ≠ some '(') := by
  obtain ⟨gap, hgap, htext⟩ := exists_eq_append_trimStart text
  have hfirst := first_trimStart text
  generalize trimStart text = trimmed at h htext hfirst
  unfold leadingParameters at h
  split at h
  next opened =>
    split at h
    next => cases h
    next inner back hcut =>
      obtain ⟨rfl, -⟩ := cutFirst_eq_some_iff.mp hcut
      obtain ⟨parameters, hlist, hresult⟩ := bind_eq_ok_iff.mp h
      cases hresult
      obtain ⟨gap', hgap', hback⟩ := exists_eq_append_trimStart back
      refine ⟨gap, '(' :: (inner ++ [')']), gap', ?_, hgap, hgap',
        .present (parameterList_eq_ok_iff.mp hlist), first_trimStart back, fun hnil => ?_⟩
      · rw [htext]
        conv_lhs => rw [hback]
        simp
      · cases hnil
  next hopen =>
    cases h
    refine ⟨gap, [], [], by simpa using htext, hgap, rfl, .absent, hfirst, fun _ => ⟨rfl, ?_⟩⟩
    intro hhead
    obtain ⟨opened, hopened⟩ := List.head?_eq_some_iff.mp hhead
    exact hopen opened hopened

/-! ### Qualifiers -/

theorem checkQualifier_eq_ok_iff {qualifier checked : List Char} :
    checkQualifier rest qualifier = .ok checked ↔
      checked = qualifier ∧ ∀ c ∈ qualifier, isQualifierChar c = true := by
  unfold checkQualifier
  rw [← List.all_eq_true]
  split
  next hall => simp [hall, eq_comm]
  next hall => simp [hall]

theorem fieldPrecision?_eq_some_iff {fields inner : List Char} :
    fieldPrecision? text = some (fields, inner) ↔
      ∃ front, text = front ++ '(' :: (inner ++ [')']) ∧ '(' ∉ front ∧ fields = trimEnd front := by
  unfold fieldPrecision?
  simp only [Option.bind_eq_bind, Option.bind_eq_some_iff, Prod.exists, cutFirst_eq_some_iff,
    before?_eq_some_iff, Option.pure_def, Option.some.injEq, Prod.mk.injEq]
  constructor
  · rintro ⟨front, opened, ⟨rfl, hfront⟩, inner', rfl, rfl, rfl⟩
    exact ⟨front, rfl, hfront, rfl⟩
  · rintro ⟨front, rfl, hfront, rfl⟩
    exact ⟨front, _, ⟨rfl, hfront⟩, inner, rfl, rfl, rfl⟩

theorem IsQualifier.isQualifierChar (h : IsQualifier text) :
    ∀ c ∈ text, isQualifierChar c = true :=
  (isQualifier_iff.mp h).2.1

theorem IsQualifier.open_notMem (h : IsQualifier text) : '(' ∉ text := fun hc => by
  cases h.isQualifierChar _ hc

theorem IsQualifier.head_isAlpha (h : IsQualifier text) (back : List Char) :
    ∀ c ∈ (text ++ back).head?, isBlank c = false ∧ c.isAlpha = true := by
  obtain ⟨c, rest, rfl⟩ := List.exists_cons_of_ne_nil h.nonempty
  intro c' hc'
  obtain rfl : c = c' := Option.some.inj hc'
  have hblank : isBlank c = false := h.trimmed.first c rfl
  have hchar := h.chars c List.mem_cons_self
  refine ⟨hblank, ?_⟩
  rcases hchar with halpha | rfl
  · exact halpha
  · cases hblank

theorem Followed.head_isAlpha {name : List Char}
    (h : Followed name first second rest declaration) :
    ∀ c ∈ rest.head?, isBlank c = false ∧ c.isAlpha = true := by
  cases h with
  | bare => simp
  | qualifier hqualifier _ => exact hqualifier.head_isAlpha _
  | precision hfields _ _ _ =>
      rw [List.append_assoc, List.append_assoc]
      exact hfields.head_isAlpha _

theorem Followed.withQualifier_eq_ok {name : List Char}
    (h : Followed name first second rest declaration) :
    withQualifier name first second rest = .ok declaration := by
  cases h with
  | bare => rfl
  | @qualifier _ qualifier back _ _ hqualifier hback =>
      have hwords : trimEnd (qualifier ++ back) = qualifier := by
        rw [trimEnd_append_of_allBlank hback, trimEnd_eq_self hqualifier.trimmed.last]
      have hfields : fieldPrecision? qualifier = none := by
        rw [fieldPrecision?, cutFirst_eq_none_iff.mpr hqualifier.open_notMem]
        rfl
      have hcheck : checkQualifier (qualifier ++ back) qualifier = .ok qualifier :=
        checkQualifier_eq_ok_iff.mpr ⟨rfl, hqualifier.isQualifierChar⟩
      have hsome : (qualifier ++ back).isEmpty = false := by simp [hqualifier.nonempty]
      simp only [withQualifier, hsome, hwords, hfields, ite_self, hcheck]
      rfl
  | @precision fields gap inner back _ precision hfields hgap hinner hback =>
      set rest := fields ++ gap ++ '(' :: (inner ++ [')']) ++ back with hrest
      have hwords : trimEnd rest = fields ++ gap ++ '(' :: (inner ++ [')']) := by
        rw [hrest, trimEnd_append_of_allBlank hback]
        apply trimEnd_eq_self
        rw [← List.cons_append, ← List.append_assoc, List.getLast?_concat]
        rintro c ⟨⟩
        decide
      have hprecision : fieldPrecision? (trimEnd rest) = some (fields, inner) := by
        refine fieldPrecision?_eq_some_iff.mpr ⟨fields ++ gap, hwords, ?_, ?_⟩
        · intro hopen
          rcases List.mem_append.mp hopen with hopen | hopen
          · exact hfields.open_notMem hopen
          · cases allBlank_iff.mp hgap _ hopen
        · rw [trimEnd_append_of_allBlank hgap, trimEnd_eq_self hfields.trimmed.last]
      have hcheck : checkQualifier rest fields = .ok fields :=
        checkQualifier_eq_ok_iff.mpr ⟨rfl, hfields.isQualifierChar⟩
      have hsome : rest.isEmpty = false := by simp [hrest]
      simp only [withQualifier, hsome, hprecision, beq_self_eq_true, Option.isNone_none,
        Bool.and_self, Bool.false_eq_true, if_true, if_false, parameter_eq_ok_iff.mpr hinner, hcheck]
      rfl

theorem isQualifier_trimEnd (hnonempty : text ≠ [])
    (hblank : ∀ c ∈ text.head?, isBlank c = false)
    (hchars : ∀ c ∈ trimEnd text, isQualifierChar c = true) : IsQualifier (trimEnd text) := by
  refine isQualifier_iff.mpr ⟨fun hnil => ?_, hchars, trimmed_trimEnd hblank⟩
  have hhead := head?_trimEnd hblank
  rw [hnil, List.head?_nil, eq_comm, List.head?_eq_none_iff] at hhead
  exact hnonempty hhead

theorem followed_of_withQualifier_eq_ok {name : List Char}
    (h : withQualifier name first second rest = .ok declaration)
    (hblank : ∀ c ∈ rest.head?, isBlank c = false) (hopen : first = none → rest.head? ≠ some '(') :
    Followed name first second rest declaration := by
  obtain ⟨back, hback, hrest⟩ := exists_eq_trimEnd_append rest
  have hhead := head?_trimEnd hblank
  unfold withQualifier at h
  split at h
  next hnil =>
    obtain rfl := List.isEmpty_iff.mp hnil
    cases h
    exact .bare
  next hsome =>
    have hnonempty : rest ≠ [] := by simpa using hsome
    dsimp only at h
    split at h
    next fields inner hprecision =>
      obtain ⟨hinterval, hfields⟩ := Option.ite_none_right_eq_some.mp hprecision
      obtain ⟨hname, hfirst⟩ := Bool.and_eq_true_iff.mp hinterval
      have hnone : first = none := Option.isNone_iff_eq_none.mp hfirst
      obtain ⟨front, hwords, -, rfl⟩ := fieldPrecision?_eq_some_iff.mp hfields
      -- The parameters were read before, so the fields do not begin with a parenthesis.
      have hfront : front.head? = rest.head? := by
        cases front with
        | nil => exact absurd (by rw [← hhead, hwords]; rfl) (hopen hnone)
        | cons c front => rw [← hhead, hwords, List.cons_append, List.head?_cons, List.head?_cons]
      have hfrontSome : front ≠ [] := by
        rintro rfl
        exact hnonempty (List.head?_eq_none_iff.mp hfront.symm)
      obtain ⟨precision, hinner, h⟩ := bind_eq_ok_iff.mp h
      obtain ⟨checked, hcheck, h⟩ := bind_eq_ok_iff.mp h
      cases h
      obtain ⟨rfl, hchars⟩ := checkQualifier_eq_ok_iff.mp hcheck
      obtain ⟨gap, hgap, hgapEq⟩ := exists_eq_trimEnd_append front
      have htext : rest = trimEnd front ++ gap ++ '(' :: (inner ++ [')']) ++ back := by
        rw [← hgapEq, ← hwords]
        exact hrest
      obtain rfl := eq_of_beq hname
      rw [htext, hnone]
      exact .precision (isQualifier_trimEnd hfrontSome (hfront ▸ hblank) hchars) hgap
        (parameter_eq_ok_iff.mp hinner) hback
    next =>
      obtain ⟨checked, hcheck, h⟩ := bind_eq_ok_iff.mp h
      cases h
      obtain ⟨rfl, hchars⟩ := checkQualifier_eq_ok_iff.mp hcheck
      conv => arg 4; rw [hrest]
      exact .qualifier (isQualifier_trimEnd hnonempty hblank hchars) hback

/-! ### The whole declaration -/

theorem isNameChar_eq_false_of_isBlank {c : Char} (h : isBlank c = true) :
    isNameChar c = false := by
  by_contra hname
  cases h.symm.trans (isBlank_eq_false_of_isWordChar (Bool.not_eq_false _ ▸ hname))

/-- Where a name ends, no character of a name follows. -/
theorem head_isNameChar_eq_false {gap parameters gap' : List Char} (hgap : allBlank gap = true)
    (hparameters : LeadingText parameters first second) (hgap' : allBlank gap' = true)
    (hapart : rest ≠ [] → parameters = [] → gap ≠ []) :
    ∀ c ∈ (gap ++ parameters ++ gap' ++ rest).head?, isNameChar c = false := by
  intro c hc
  have hblank : ∀ {blanks : List Char}, allBlank blanks = true → c ∈ blanks →
      isNameChar c = false := fun hblanks hmem =>
    isNameChar_eq_false_of_isBlank (allBlank_iff.mp hblanks c hmem)
  cases gap with
  | cons c' gap =>
      obtain rfl : c' = c := Option.some.inj hc
      exact hblank hgap List.mem_cons_self
  | nil =>
      cases hparameters with
      | present hlist =>
          obtain rfl : '(' = c := Option.some.inj hc
          decide
      | absent =>
          have hnone : rest = [] := by
            by_contra hsome
            exact hapart hsome rfl rfl
          rw [hnone, List.append_nil] at hc
          exact hblank hgap' (List.mem_of_mem_head? hc)

/-- Whatever is split was put together from its pieces. -/
theorem written_of_ofNormalized_eq_ok (h : ofNormalized text = .ok declaration) :
    Written text declaration := by
  unfold ofNormalized at h
  dsimp only at h
  split at h
  next => cases h
  next hstarts =>
    have hname : IsName (text.takeWhile isNameChar) := by
      refine isName_iff.mpr ⟨by simpa using hstarts, fun c hc => ?_⟩
      exact List.all_eq_true.mp List.all_takeWhile c hc
    obtain ⟨⟨first, second, rest⟩, hleading, h⟩ := bind_eq_ok_iff.mp h
    obtain ⟨gap, parameters, gap', htail, hgap, hgap', hparameters, hblank, habsent⟩ :=
      exists_of_leadingParameters_eq_ok hleading
    have hopen : first = none → rest.head? ≠ some '(' := by
      rintro rfl
      cases hparameters with
      | absent => exact (habsent rfl).2
    have hrest := followed_of_withQualifier_eq_ok h hblank hopen
    -- A qualifier right behind the name would have been read as part of the name.
    have hapart : rest ≠ [] → parameters = [] → gap ≠ [] := by
      rintro hsome hnone rfl
      obtain ⟨rfl, -⟩ := habsent hnone
      obtain ⟨c, rest', rfl⟩ := List.exists_cons_of_ne_nil hsome
      have halpha : c.isAlpha = true := (hrest.head_isAlpha c rfl).2
      have hend := head?_dropWhile_eq_false isNameChar text c (by rw [htail, hnone]; rfl)
      rw [isNameChar, Char.isAlphanum, halpha] at hend
      cases hend
    rw [← List.takeWhile_append_dropWhile (p := isNameChar) (l := text), htail]
    exact .mk hname hgap hparameters hgap' hrest hapart

theorem Written.ofNormalized_eq_ok (h : Written text declaration) :
    ofNormalized text = .ok declaration := by
  obtain ⟨hname, hgap, hparameters, hgap', hrest, hapart⟩ := h
  rename_i name gap parameters gap' rest first second
  have hend := head_isNameChar_eq_false hgap hparameters hgap' hapart
  have hleading : leadingParameters (trimStart (gap ++ parameters ++ gap' ++ rest)) =
      .ok (first, second, rest) := by
    have hrestTrimmed : trimStart (gap' ++ rest) = rest := by
      rw [trimStart_append_of_allBlank hgap', trimStart_eq_self fun c hc =>
        (hrest.head_isAlpha c hc).1]
    have hopen : (trimStart (gap' ++ rest)).head? ≠ some '(' := by
      rw [hrestTrimmed]
      intro hhead
      cases (hrest.head_isAlpha _ hhead).2
    rw [List.append_assoc, List.append_assoc, trimStart_append_of_allBlank hgap,
      hparameters.leadingParameters_eq_ok fun _ => hopen, hrestTrimmed]
  unfold ofNormalized
  dsimp only
  obtain ⟨hstarts, hchars⟩ := isName_iff.mp hname
  rw [takeWhile_append_eq_left hchars hend, dropWhile_append_eq_right hchars hend, hstarts,
    hleading]
  exact hrest.withQualifier_eq_ok

/-- The texts that are split are those that are put together from their pieces. -/
theorem ofNormalized_eq_ok_iff :
    ofNormalized text = .ok declaration ↔ Written text declaration :=
  ⟨written_of_ofNormalized_eq_ok, Written.ofNormalized_eq_ok⟩

theorem Written.name_eq (h : Written text declaration) :
    declaration.name = text.takeWhile isNameChar := by
  obtain ⟨hname, hgap, hparameters, hgap', hrest, hapart⟩ := h
  rw [takeWhile_append_eq_left (isName_iff.mp hname).2
    (head_isNameChar_eq_false hgap hparameters hgap' hapart)]
  cases hrest <;> rfl

theorem Written.second_eq_none (h : Written text declaration) :
    declaration.first = none → declaration.second = none := by
  obtain ⟨-, -, hparameters, -, hrest, -⟩ := h
  intro hfirst
  cases hrest with
  | precision => cases hfirst
  | bare | qualifier =>
      obtain rfl : _ = none := hfirst
      cases hparameters
      rfl

end SyntheticRows.Declaration
