import SyntheticRows.ColumnType.Spelling
import SyntheticRows.Proofs.ColumnType.Grammar
import SyntheticRows.Proofs.Text.LowerCase
/-!
# Spellings of column types

The spelling of a type is a name, its parameters and what it says of the time zone. Normalizing it
joins a name of two words and changes nothing else, so it is read as the type that it spells.
-/

namespace SyntheticRows

open Text

namespace Declaration

/-- What spelled parameters consist of. -/
def isParameterChar (c : Char) : Bool :=
  c.isDigit || c == '(' || c == ')' || c == ','

/-- What the words of a spelling consist of. -/
def isSpellingChar (c : Char) : Bool :=
  isSmallAscii c && !isBlank c

def isSpellingWord (word : List Char) : Bool :=
  !word.isEmpty && word.all isSpellingChar

def parametersText : Option UInt32 → Option UInt32 → List Char
  | none, _ => []
  | some first, none => '(' :: (Nat.toDigits 10 first.toNat ++ [')'])
  | some first, some second =>
      '(' :: (Nat.toDigits 10 first.toNat ++ ',' :: Nat.toDigits 10 second.toNat ++ [')'])

def qualifierText : Option (List Char) → List Char
  | none => []
  | some qualifier => ' ' :: qualifier

def zoneQualifier (zone : Bool) : List Char :=
  if zone then "with time zone".toList else "without time zone".toList

theorem zoneQualifier_holds (zone : Bool) : ZoneQualifier (some (zoneQualifier zone)) zone := by
  cases zone
  · exact .unzoned
  · exact .zoned

/-- A name and a qualifier as spellings have them: words one space apart in small letters. The
catalog has the name once its words are joined, and no pair of words reaches into the qualifier. -/
structure Spelled (name : List Char) (qualifier : Option (List Char)) (head : TypeHead) : Prop where
  name_words : ∀ word ∈ splitAtEach ' ' name, isSpellingWord word = true
  qualifier_words : ∀ text ∈ qualifier, ∀ word ∈ splitAtEach ' ' text, isSpellingWord word = true
  joined : joinWordPairs (name ++ qualifierText qualifier) =
    joinWordPairs name ++ qualifierText qualifier
  unjoined : joinWordPairs (qualifierText qualifier) = qualifierText qualifier
  isName : IsName (joinWordPairs name)
  isQualifier : ∀ text ∈ qualifier, IsQualifier text
  isAlias : (String.ofList (joinWordPairs name), head) ∈ TypeHead.aliases

theorem isSpellingWord_iff {word : List Char} :
    isSpellingWord word = true ↔ word ≠ [] ∧ ∀ c ∈ word, isSpellingChar c = true := by
  simp [isSpellingWord]

theorem isBlank_eq_false_of_isSpellingChar {c : Char} (h : isSpellingChar c = true) :
    isBlank c = false :=
  Bool.not_eq_true' _ ▸ (Bool.and_eq_true_iff.mp h).2

theorem isSmallAscii_of_isSpellingChar {c : Char} (h : isSpellingChar c = true) :
    isSmallAscii c = true :=
  (Bool.and_eq_true_iff.mp h).1

theorem isSpellingChar_of_isDigit {c : Char} (h : c.isDigit = true) : isSpellingChar c = true := by
  have hblank := isBlank_eq_false_of_isDigit h
  have hbounds := toNat_bounds_of_isDigit h
  have hsmall : c.toLower = c := by
    have hupper : ¬(c.val ≥ 'A'.val ∧ c.val ≤ 'Z'.val) := by
      change ¬(65 ≤ c.toNat ∧ c.toNat ≤ 90)
      omega
    exact dif_neg hupper
  simp only [isSpellingChar, isSmallAscii, hblank, hsmall, beq_self_eq_true, Bool.and_true,
    Bool.not_false, decide_eq_true_eq]
  omega

theorem isSpellingChar_of_isParameterChar {c : Char} (h : isParameterChar c = true) :
    isSpellingChar c = true := by
  simp only [isParameterChar, Bool.or_eq_true, beq_iff_eq] at h
  rcases h with ((hdigit | rfl) | rfl) | rfl
  · exact isSpellingChar_of_isDigit hdigit
  all_goals decide

theorem parameterText_toDigits (value : UInt32) :
    ParameterText (Nat.toDigits 10 value.toNat) value := by
  obtain ⟨hsome, hdigits⟩ := isNumeral_iff.mp (isNumeral_toDigits value.toNat)
  have h : ParameterText ([] ++ Nat.toDigits 10 value.toNat ++ []) value :=
    .mk rfl hsome hdigits (decimalValue_toDigits value.toNat) rfl
  simpa using h

theorem leadingText_parametersText {first second : Option UInt32}
    (h : first = none → second = none) :
    LeadingText (parametersText first second) first second := by
  cases first with
  | none =>
      rw [h rfl]
      exact .absent
  | some first =>
      cases second with
      | none => exact .present (.one (parameterText_toDigits first))
      | some second =>
          exact .present (.two (parameterText_toDigits first) (parameterText_toDigits second))

theorem isParameterChar_of_mem {first second : Option UInt32} :
    ∀ c ∈ parametersText first second, isParameterChar c = true := by
  have hdigits : ∀ (value : UInt32), ∀ c ∈ Nat.toDigits 10 value.toNat,
      isParameterChar c = true := fun value c hc => by
    simp [isParameterChar, Nat.isDigit_of_mem_toDigits (by decide) (by decide) hc]
  have hopen : isParameterChar '(' = true := by decide
  have hclose : isParameterChar ')' = true := by decide
  have hcomma : isParameterChar ',' = true := by decide
  cases first <;> cases second <;> intro c hc
  all_goals simp only [parametersText, List.mem_cons, List.mem_append] at hc
  all_goals grind

theorem joinWordPairs_append_cons {c : Char} (h : isParameterChar c = true)
    (text rest : List Char) :
    joinWordPairs (text ++ c :: rest) = joinWordPairs text ++ c :: joinWordPairs rest := by
  have hpairs : ∀ pair ∈ wordPairs, pair.1.toList ≠ [] ∧
      pair.1.toList.any isParameterChar = false := by decide
  unfold joinWordPairs
  generalize wordPairs = pairs at hpairs
  induction pairs generalizing text rest with
  | nil => rfl
  | cons pair pairs ih =>
      obtain ⟨⟨hsome, hchars⟩, hpairs⟩ := List.forall_mem_cons.mp hpairs
      have hfree : c ∉ pair.1.toList := fun hc => List.any_eq_false.mp hchars c hc h
      rw [List.foldl_cons, List.foldl_cons, List.foldl_cons, replaceText_append_cons hsome hfree]
      exact ih _ _ hpairs

/-- Parameters keep what is in front of them apart from what is behind them. -/
theorem joinWordPairs_append {parameters : List Char} (hsome : parameters ≠ [])
    (hparameters : ∀ c ∈ parameters, isParameterChar c = true) (text rest : List Char) :
    joinWordPairs (text ++ (parameters ++ rest)) =
      joinWordPairs text ++ (parameters ++ joinWordPairs rest) := by
  induction parameters generalizing text with
  | nil => exact absurd rfl hsome
  | cons c parameters ih =>
      obtain ⟨hc, hparameters⟩ := List.forall_mem_cons.mp hparameters
      rw [List.cons_append, joinWordPairs_append_cons hc]
      cases parameters with
      | nil => rfl
      | cons c' parameters =>
          have hrest := ih (List.cons_ne_nil _ _) hparameters []
          rw [List.nil_append] at hrest
          rw [hrest]
          rfl

variable {name parameters : List Char} {qualifier : Option (List Char)} {head : TypeHead}

theorem qualifierText_some (text : List Char) :
    qualifierText (some text) = (splitAtEach ' ' text).flatMap (' ' :: ·) := by
  obtain ⟨hnonempty, -, hjoined⟩ := splitAtEach_eq_iff.mp (Eq.refl (splitAtEach ' ' text))
  obtain ⟨part, parts, hparts⟩ := List.exists_cons_of_ne_nil hnonempty
  rw [hparts] at hjoined ⊢
  rw [qualifierText, hjoined, joinWith_cons, List.flatMap_cons, List.cons_append]

/-- A spelling with its parameters is put together from words that stand one space apart. -/
theorem Spelled.exists_words (h : Spelled name qualifier head)
    (hparameters : ∀ c ∈ parameters, isParameterChar c = true) :
    ∃ parts, (∀ part ∈ parts, isSpellingWord part = true) ∧
      name ++ (parameters ++ qualifierText qualifier) = joinWith [' '] parts := by
  obtain ⟨after, hafter, hqualifier⟩ : ∃ after : List (List Char),
      (∀ part ∈ after, isSpellingWord part = true) ∧
        qualifierText qualifier = after.flatMap (' ' :: ·) := by
    cases qualifier with
    | none => exact ⟨[], by simp, rfl⟩
    | some text => exact ⟨_, h.qualifier_words text rfl, qualifierText_some text⟩
  obtain ⟨hnonempty, -, hjoined⟩ := splitAtEach_eq_iff.mp (Eq.refl (splitAtEach ' ' name))
  have hwords := h.name_words
  obtain hnil | ⟨front, last, hparts⟩ := List.eq_nil_or_concat (splitAtEach ' ' name)
  · exact absurd hnil hnonempty
  rw [hparts] at hjoined hwords
  refine ⟨front ++ (last ++ parameters) :: after, ?_, ?_⟩
  · rw [List.concat_eq_append, List.forall_mem_append, List.forall_mem_singleton] at hwords
    obtain ⟨hfront, hlast⟩ := hwords
    obtain ⟨hsome, hlast⟩ := isSpellingWord_iff.mp hlast
    have hchars : ∀ c ∈ parameters, isSpellingChar c = true := fun c hc =>
      isSpellingChar_of_isParameterChar (hparameters c hc)
    have hword : isSpellingWord (last ++ parameters) = true :=
      isSpellingWord_iff.mpr ⟨by simp [hsome], List.forall_mem_append.mpr ⟨hlast, hchars⟩⟩
    exact List.forall_mem_append.mpr ⟨hfront, List.forall_mem_cons.mpr ⟨hword, hafter⟩⟩
  · rw [hjoined, hqualifier]
    cases front <;> simp [joinWith_cons]

theorem Spelled.normalize_eq (h : Spelled name qualifier head)
    (hparameters : ∀ c ∈ parameters, isParameterChar c = true) :
    normalize (name ++ (parameters ++ qualifierText qualifier)) =
      joinWordPairs name ++ (parameters ++ qualifierText qualifier) := by
  obtain ⟨parts, hwords, htext⟩ := h.exists_words hparameters
  have hparts := fun part hpart => isSpellingWord_iff.mp (hwords part hpart)
  have hcollapsed : collapseBlanks (joinWith [' '] parts) = joinWith [' '] parts :=
    collapseBlanks_joinWith fun part hpart => ⟨(hparts part hpart).1, fun c hc =>
      isBlank_eq_false_of_isSpellingChar ((hparts part hpart).2 c hc)⟩
  have hsmall : lower (joinWith [' '] parts) = joinWith [' '] parts := by
    refine lower_eq_self fun c hc => ?_
    rcases mem_joinWith hc with ⟨part, hpart, hc⟩ | hc
    · exact isSmallAscii_of_isSpellingChar ((hparts part hpart).2 c hc)
    · rw [List.mem_singleton.mp hc]
      decide
  rw [normalize, htext, hcollapsed, hsmall, ← htext]
  by_cases hsome : parameters = []
  · rw [hsome]
    exact h.joined
  · rw [joinWordPairs_append hsome hparameters, h.unjoined]

theorem Spelled.written {first second : Option UInt32} (h : Spelled name qualifier head)
    (habsent : first = none → second = none) :
    Written (joinWordPairs name ++ (parametersText first second ++ qualifierText qualifier))
      ⟨joinWordPairs name, first, second, qualifier⟩ := by
  have hparameters := leadingText_parametersText habsent
  cases qualifier with
  | none =>
      have hbare : Written (joinWordPairs name ++ ([] ++ parametersText first second ++ [] ++ []))
          ⟨joinWordPairs name, first, second, none⟩ :=
        .mk h.isName rfl hparameters rfl .bare (absurd rfl)
      simpa [qualifierText] using hbare
  | some text =>
      have hrest : Followed (joinWordPairs name) first second (text ++ [])
          ⟨joinWordPairs name, first, second, some text⟩ := .qualifier (h.isQualifier text rfl) rfl
      by_cases hnil : parametersText first second = []
      · have hspaced : Written (joinWordPairs name ++
            ([' '] ++ parametersText first second ++ [] ++ (text ++ [])))
            ⟨joinWordPairs name, first, second, some text⟩ :=
          .mk h.isName rfl hparameters rfl hrest fun _ _ => List.cons_ne_nil _ _
        simpa [qualifierText, hnil] using hspaced
      · have hspaced : Written (joinWordPairs name ++
            ([] ++ parametersText first second ++ [' '] ++ (text ++ [])))
            ⟨joinWordPairs name, first, second, some text⟩ :=
          .mk h.isName rfl hparameters rfl hrest fun _ habsurd => absurd habsurd hnil
        simpa [qualifierText] using hspaced

instance (name : List Char) (qualifier : Option (List Char)) (head : TypeHead) :
    Decidable (Spelled name qualifier head) :=
  decidable_of_iff
    ((∀ word ∈ splitAtEach ' ' name, isSpellingWord word = true) ∧
      (∀ text ∈ qualifier, IsQualifier text ∧
        ∀ word ∈ splitAtEach ' ' text, isSpellingWord word = true) ∧
      joinWordPairs (name ++ qualifierText qualifier) =
        joinWordPairs name ++ qualifierText qualifier ∧
      joinWordPairs (qualifierText qualifier) = qualifierText qualifier ∧
      IsName (joinWordPairs name) ∧
      (String.ofList (joinWordPairs name), head) ∈ TypeHead.aliases)
    ⟨fun ⟨hwords, hqualifier, hjoined, hunjoined, hname, halias⟩ =>
      ⟨hwords, fun text h => (hqualifier text h).2, hjoined, hunjoined, hname,
        fun text h => (hqualifier text h).1, halias⟩,
      fun ⟨hwords, hwords', hjoined, hunjoined, hname, hqualifier, halias⟩ =>
        ⟨hwords, fun text h => ⟨hqualifier text h, hwords' text h⟩, hjoined, hunjoined, hname,
          halias⟩⟩

end Declaration

namespace ColumnType

open Declaration

variable {type : ColumnType}

/-- The spelling has the parts of a declaration of the type. -/
structure SpelledBy (type : ColumnType) (name : List Char) (first second : Option UInt32)
    (qualifier : Option (List Char)) (head : TypeHead) : Prop where
  spelled : Spelled name qualifier head
  spelling_eq : type.spelling.toList =
    name ++ (parametersText first second ++ qualifierText qualifier)
  absent : first = none → second = none
  denotes : Denotes ⟨joinWordPairs name, first, second, qualifier⟩ head type

theorem SpelledBy.parse_eq {name : List Char} {first second : Option UInt32}
    {qualifier : Option (List Char)} {head : TypeHead}
    (h : SpelledBy type name first second qualifier head) : parse type.spelling = .ok type := by
  have hnormal : normalize type.spelling.toList =
      joinWordPairs name ++ (parametersText first second ++ qualifierText qualifier) := by
    rw [h.spelling_eq]
    exact h.spelled.normalize_eq isParameterChar_of_mem
  rw [parse, hnormal]
  exact ofNormalized_eq_ok_iff.mpr
    ⟨_, head, h.spelled.written h.absent, h.spelled.isAlias, h.denotes⟩

theorem toList_toString (value : UInt32) :
    (toString value).toList = Nat.toDigits 10 value.toNat :=
  Nat.toList_repr

theorem toList_withParameter (name : String) (parameter : Option UInt32) :
    (withParameter name parameter).toList = name.toList ++ parametersText parameter none := by
  cases parameter with
  | none => simp [withParameter, parametersText]
  | some value => simp [withParameter, parametersText, toList_toString]

theorem spelledBy_withParameter {name : String} {parameter : Option UInt32} {head : TypeHead}
    (hspelling : type.spelling = withParameter name parameter)
    (hspelled : Spelled name.toList none head)
    (hdenotes : Denotes ⟨joinWordPairs name.toList, parameter, none, none⟩ head type) :
    SpelledBy type name.toList parameter none none head := by
  refine ⟨hspelled, ?_, fun _ => rfl, hdenotes⟩
  rw [hspelling, toList_withParameter, qualifierText, List.append_nil]

theorem spelledBy_zoned {name : String} {parameter : Option UInt32} {head : TypeHead} {zone : Bool}
    (hspelling : type.spelling = withParameter name parameter ++ zoneSpelling zone)
    (hspelled : Spelled name.toList (some (zoneQualifier zone)) head)
    (hdenotes : Denotes ⟨joinWordPairs name.toList, parameter, none, some (zoneQualifier zone)⟩
      head type) :
    SpelledBy type name.toList parameter none (some (zoneQualifier zone)) head := by
  have hzone : (zoneSpelling zone).toList = qualifierText (some (zoneQualifier zone)) := by
    cases zone <;> rfl
  refine ⟨hspelled, ?_, fun _ => rfl, hdenotes⟩
  rw [hspelling, String.toList_append, toList_withParameter, hzone, List.append_assoc]

theorem spelledBy_plain (type : PlainType) :
    SpelledBy (.plain type) type.spelling.toList none none none (.plain type) := by
  refine spelledBy_withParameter rfl ?_ .plain
  cases type <;> decide

theorem spelledBy_numeric (precision scale : UInt32) :
    SpelledBy (.numeric (some precision) (some scale)) "numeric".toList (some precision)
      (some scale) none .numeric := by
  refine ⟨by decide, ?_, nofun, .numeric⟩
  simp [spelling, parametersText, qualifierText, toList_toString]

theorem parse_spelling (h : ∀ scale, type ≠ .numeric none (some scale)) :
    parse type.spelling = .ok type := by
  cases type with
  | plain type => exact (spelledBy_plain type).parse_eq
  | numeric precision scale =>
      cases scale with
      | none =>
          have hspelling : spelling (.numeric precision none) =
              withParameter "numeric" precision := by
            cases precision <;> rfl
          exact (spelledBy_withParameter hspelling (by decide) .numeric).parse_eq
      | some scale =>
          cases precision with
          | none => exact absurd rfl (h scale)
          | some precision => exact (spelledBy_numeric precision scale).parse_eq
  | char length => exact (spelledBy_withParameter rfl (by decide) .char).parse_eq
  | varChar length => exact (spelledBy_withParameter rfl (by decide) .varChar).parse_eq
  | bit length => exact (spelledBy_withParameter rfl (by decide) .bit).parse_eq
  | varBit length => exact (spelledBy_withParameter rfl (by decide) .varBit).parse_eq
  | time precision zone =>
      have hspelled : Spelled "time".toList (some (zoneQualifier zone)) .time := by
        cases zone <;> decide
      exact (spelledBy_zoned rfl hspelled (.time (zoneQualifier_holds zone))).parse_eq
  | timestamp precision zone =>
      have hspelled : Spelled "timestamp".toList (some (zoneQualifier zone)) .timestamp := by
        cases zone <;> decide
      exact (spelledBy_zoned rfl hspelled (.timestamp (zoneQualifier_holds zone))).parse_eq
  | interval precision =>
      exact (spelledBy_withParameter rfl (by decide) (.interval .absent)).parse_eq

/-- No text is read as a scale without a precision. -/
theorem parse_ne_ok_of_scale {raw : String} {scale : UInt32} :
    parse raw ≠ .ok (.numeric none (some scale)) := by
  intro h
  obtain ⟨declaration, head, hwritten, -, hdenotes⟩ := ofNormalized_eq_ok_iff.mp h
  have hsecond := hwritten.second_eq_none
  cases hdenotes
  cases hsecond rfl

/-- **Spellings are read back.** A type is read from its spelling if and only if it is not a scale
without a precision, and every type that is read at all is read from its spelling. -/
theorem spelling_parses_back :
    (∀ type : ColumnType, parse type.spelling = .ok type ↔
      ¬∃ scale, type = .numeric none (some scale)) ∧
    ∀ raw type, parse raw = .ok type → parse type.spelling = .ok type := by
  refine ⟨fun type => ⟨?_, fun h => parse_spelling fun scale heq => h ⟨scale, heq⟩⟩, ?_⟩
  · rintro h ⟨scale, rfl⟩
    exact parse_ne_ok_of_scale h
  · rintro raw type hraw
    refine parse_spelling fun scale heq => ?_
    subst heq
    exact parse_ne_ok_of_scale hraw

theorem spelling_of_spaced_numeric_parses_back :
    parse " NUMERIC ( 010 , 2 )" = .ok (.numeric (some 10) (some 2)) ∧
      parse (spelling (.numeric (some 10) (some 2))) = .ok (.numeric (some 10) (some 2)) := by
  have hraw : parse " NUMERIC ( 010 , 2 )" = .ok (.numeric (some 10) (some 2)) := by decide +kernel
  exact ⟨hraw, spelling_parses_back.2 _ _ hraw⟩

end ColumnType

end SyntheticRows
