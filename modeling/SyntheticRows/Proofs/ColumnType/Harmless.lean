import SyntheticRows.Proofs.Catalog.References
import SyntheticRows.Proofs.ColumnType.Grammar
import SyntheticRows.Proofs.Text.LowerCase
/-!
# Accepted types are harmless where they are spliced in

Statements cast values to types in the text that the catalog gave, while types are read from a
normalized copy. No character is lost on the way to that copy but white space: capital letters become
small, and names of two words become one. Beyond ASCII only the Kelvin sign would pass for a letter,
namely for a `k`, and no type has one in its name or its qualifier. So the text itself holds word
characters, white space and commas only, and at most one pair of parentheses.
-/

namespace SyntheticRows

open Text

namespace Declaration

def isParenthesis (c : Char) : Bool :=
  c == '(' || c == ')'

/-- What declarations consist of outside parentheses. -/
def isPlainChar (c : Char) : Bool :=
  c.isAlphanum || c == '_' || c == ',' || isBlank c

def isDeclarationChar (c : Char) : Bool :=
  isPlainChar c || isParenthesis c

structure Harmless (text : List Char) : Prop where
  chars : ∀ c ∈ text, isDeclarationChar c = true
  parentheses : text.filter isParenthesis = [] ∨ text.filter isParenthesis = ['(', ')']

/-- A normalized text that the Kelvin sign has no part in. -/
structure Plain (text : List Char) : Prop where
  chars : ∀ c ∈ text, isPlainChar c = true
  noKelvin : 'k' ∉ text

instance (text : List Char) : Decidable (Plain text) :=
  decidable_of_iff (text.all isPlainChar = true ∧ 'k' ∉ text)
    ⟨fun ⟨chars, noKelvin⟩ => ⟨List.all_eq_true.mp chars, noKelvin⟩,
      fun ⟨chars, noKelvin⟩ => ⟨List.all_eq_true.mpr chars, noKelvin⟩⟩

/-- Plain text, or plain text around and within one pair of parentheses. -/
inductive Enclosed : List Char → Prop
  | bare {text : List Char} (h : Plain text) : Enclosed text
  | pair {front inner back : List Char} (hfront : Plain front) (hinner : Plain inner)
      (hback : Plain back) : Enclosed (front ++ '(' :: (inner ++ ')' :: back))

variable {text text' : List Char} {first second : Option UInt32} {declaration : Declaration}

/-! ### The normalized text -/

theorem Plain.append (h : Plain text) (h' : Plain text') : Plain (text ++ text') := by
  refine ⟨fun c hc => ?_, fun hk => ?_⟩
  · rcases List.mem_append.mp hc with hc | hc
    · exact h.chars c hc
    · exact h'.chars c hc
  · rcases List.mem_append.mp hk with hk | hk
    · exact h.noKelvin hk
    · exact h'.noKelvin hk

theorem plain_of_allBlank (h : allBlank text = true) : Plain text := by
  refine ⟨fun c hc => ?_, notMem_of_allBlank h (by decide)⟩
  simp [isPlainChar, allBlank_iff.mp h c hc]

theorem plain_of_isNumeral (h : isNumeral text = true) : Plain text := by
  have hdigits := (isNumeral_iff.mp h).2
  refine ⟨fun c hc => ?_, fun hk => ?_⟩
  · simp [isPlainChar, Char.isAlphanum, hdigits c hc]
  · cases hdigits 'k' hk

theorem ParameterText.plain {value : UInt32} (h : ParameterText text value) : Plain text := by
  obtain ⟨hfront, hsome, hdigits, -, hback⟩ := h
  have hnumeral := isNumeral_iff.mpr ⟨hsome, hdigits⟩
  exact ((plain_of_allBlank hfront).append (plain_of_isNumeral hnumeral)).append
    (plain_of_allBlank hback)

theorem ParameterListText.plain {first : UInt32} (h : ParameterListText text first second) :
    Plain text := by
  cases h with
  | one hfirst => exact hfirst.plain
  | two hfirst hsecond =>
      have hcomma : Plain [','] := by decide
      exact hfirst.plain.append (hcomma.append hsecond.plain)

theorem Denotes.plain_qualifier {head : TypeHead} {type : ColumnType}
    (h : Denotes declaration head type) : ∀ qualifier ∈ declaration.qualifier, Plain qualifier := by
  have hzone : ∀ {qualifier : Option (List Char)} {zone : Bool}, ZoneQualifier qualifier zone →
      ∀ text ∈ qualifier, Plain text := by
    rintro _ _ (_ | _ | _) text ⟨⟩ <;> decide
  cases h with
  | time h | timestamp h => exact hzone h
  | interval h =>
      cases h with
      | absent => simp
      | @fields words _ hwords =>
          rintro _ ⟨⟩
          have hfields : ∀ field ∈ fieldWords, Plain field.toList := by decide
          have hparts : ∀ c ∈ joinWith [' '] (words.map String.toList), ∃ part, Plain part ∧ c ∈ part := by
            intro c hc
            rcases mem_joinWith hc with ⟨part, hpart, hmem⟩ | hspace
            · obtain ⟨word, hword, rfl⟩ := List.mem_map.mp hpart
              exact ⟨_, hfields word (hwords word hword), hmem⟩
            · exact ⟨[' '], by decide, hspace⟩
          refine ⟨fun c hc => ?_, fun hk => ?_⟩
          · obtain ⟨part, hpart, hmem⟩ := hparts c hc
            exact hpart.chars c hmem
          · obtain ⟨part, hpart, hmem⟩ := hparts 'k' hk
            exact hpart.noKelvin hmem
  | _ => simp

theorem LeadingText.enclosed {parameters front back : List Char}
    (h : LeadingText parameters first second) (hfront : Plain front) (hback : Plain back) :
    Enclosed (front ++ parameters ++ back) := by
  cases h with
  | absent =>
      rw [List.append_nil]
      exact .bare (hfront.append hback)
  | present hinner =>
      have hpair := Enclosed.pair hfront hinner.plain hback
      simpa using hpair

theorem Written.enclosed (h : Written text declaration) (hname : Plain declaration.name)
    (hqualifier : ∀ qualifier ∈ declaration.qualifier, Plain qualifier) : Enclosed text := by
  cases h with
  | @mk name gap parameters gap' rest first second _ _ hgap hparameters hgap' hrest _ =>
      have hgap := plain_of_allBlank hgap
      have hgap' := plain_of_allBlank hgap'
      cases hrest with
      | bare =>
          have henclosed := hparameters.enclosed (hname.append hgap) hgap'
          simpa using henclosed
      | qualifier _ hback =>
          have hrest := (hqualifier _ rfl).append (plain_of_allBlank hback)
          have henclosed := hparameters.enclosed (hname.append hgap) (hgap'.append hrest)
          simpa using henclosed
      | precision _ hfieldGap hinner hback =>
          -- Parentheses follow the fields, so none stand in front of them.
          cases hparameters with
          | absent =>
              have hfields := (hqualifier _ rfl).append (plain_of_allBlank hfieldGap)
              have hpair := Enclosed.pair (((hname.append hgap).append hgap').append hfields)
                hinner.plain (plain_of_allBlank hback)
              simpa using hpair

theorem enclosed_of_parse_eq_ok {raw : String} {type : ColumnType}
    (h : ColumnType.parse raw = .ok type) : Enclosed (normalize raw.toList) := by
  obtain ⟨declaration, head, hwritten, halias, hdenotes⟩ := ColumnType.ofNormalized_eq_ok_iff.mp h
  have haliases : ∀ entry ∈ TypeHead.aliases, Plain entry.1.toList := by decide
  have hname : Plain declaration.name := by simpa using haliases _ halias
  exact hwritten.enclosed hname hdenotes.plain_qualifier

theorem isParenthesis_eq_false_of_isPlainChar {c : Char} (h : isPlainChar c = true) :
    isParenthesis c = false := by
  cases hparenthesis : isParenthesis c with
  | false => rfl
  | true =>
      rcases Bool.or_eq_true_iff.mp hparenthesis with hopen | hclose
      · cases eq_of_beq hopen
        cases h
      · cases eq_of_beq hclose
        cases h

theorem Plain.filter_eq_nil (h : Plain text) : text.filter isParenthesis = [] := by
  rw [List.filter_eq_nil_iff]
  intro c hc
  simp [isParenthesis_eq_false_of_isPlainChar (h.chars c hc)]

theorem Plain.isDeclarationChar (h : Plain text) : ∀ c ∈ text, isDeclarationChar c = true :=
  fun c hc => Bool.or_eq_true_iff.mpr (.inl (h.chars c hc))

theorem Enclosed.harmless (h : Enclosed text) : Harmless text ∧ 'k' ∉ text := by
  cases h with
  | bare h => exact ⟨⟨h.isDeclarationChar, .inl h.filter_eq_nil⟩, h.noKelvin⟩
  | pair hfront hinner hback =>
      refine ⟨⟨fun c hc => ?_, .inr ?_⟩, ?_⟩
      · simp only [List.mem_append, List.mem_cons] at hc
        rcases hc with hc | rfl | hc | rfl | hc
        · exact hfront.isDeclarationChar c hc
        · rfl
        · exact hinner.isDeclarationChar c hc
        · rfl
        · exact hback.isDeclarationChar c hc
      · simp [List.filter_append, hfront.filter_eq_nil, hinner.filter_eq_nil,
          hback.filter_eq_nil, isParenthesis]
      · simp [hfront.noKelvin, hinner.noKelvin, hback.noKelvin]

/-! ### Back to the text as it was given -/

theorem Harmless.of_replaced {old new result : List Char} (h : Replaced old new text result)
    (hold : Plain old) (hnew : Plain new) (hresult : Harmless result) : Harmless text := by
  constructor
  · intro c hc
    rcases h.mem_or_mem hc with hc | hc
    · exact hold.isDeclarationChar c hc
    · exact hresult.chars c hc
  · rw [← h.filter_eq hold.filter_eq_nil hnew.filter_eq_nil]
    exact hresult.parentheses

theorem harmless_of_joinWordPairs (h : Harmless (joinWordPairs text) ∧ 'k' ∉ joinWordPairs text) :
    Harmless text ∧ 'k' ∉ text := by
  have hpairs : ∀ pair ∈ wordPairs, pair.1.toList ≠ [] ∧ Plain pair.1.toList ∧
      Plain pair.2.toList := by decide
  unfold joinWordPairs at h
  generalize wordPairs = pairs at h hpairs
  induction pairs generalizing text with
  | nil => exact h
  | cons pair pairs ih =>
      obtain ⟨⟨hnonempty, hold, hnew⟩, hpairs⟩ := List.forall_mem_cons.mp hpairs
      obtain ⟨hresult, hk⟩ := ih h hpairs
      have hreplaced := replaced_replaceText hnonempty pair.2.toList text
      refine ⟨.of_replaced hreplaced hold hnew hresult, fun hmem => ?_⟩
      exact (hreplaced.mem_or_mem hmem).elim hold.noKelvin hk

theorem toNat_lt_of_isDeclarationChar {c : Char} (h : isDeclarationChar c = true)
    (hblank : isBlank c = false) : c.toNat < 128 := by
  simp only [isDeclarationChar, isPlainChar, isParenthesis, hblank, Bool.or_eq_true, beq_iff_eq,
    Bool.false_eq_true, or_false] at h
  rcases h with ((halphanum | rfl) | rfl) | rfl | rfl
  · have hbounds := toNat_bounds_of_isAlphanum halphanum
    omega
  all_goals decide

theorem exists_code_of_ascii {c : Char} (h : c.toNat < 128) :
    ∃ code < 128, Char.ofNat code = c :=
  ⟨c.toNat, h, Char.ofNat_toNat c⟩

theorem isParenthesis_eq_false_of_not_ascii {c : Char} (h : 128 ≤ c.toNat) :
    isParenthesis c = false := by
  simp only [isParenthesis, Bool.or_eq_false_iff, beq_eq_false_iff_ne]
  constructor <;> rintro rfl <;> revert h <;> decide

theorem isDeclarationChar_of_lowerChar {c : Char} (h : isDeclarationChar (lowerChar c) = true)
    (hk : lowerChar c ≠ 'k') : isDeclarationChar c = true := by
  by_cases hascii : c.toNat < 128
  · have hall : ∀ code < 128, isDeclarationChar (lowerChar (Char.ofNat code)) = true →
        isDeclarationChar (Char.ofNat code) = true := by decide
    obtain ⟨code, hcode, rfl⟩ := exists_code_of_ascii hascii
    exact hall code hcode h
  · rcases lowerChar_of_not_ascii (Nat.not_lt.mp hascii) with hsame | hkelvin | ⟨hlarge, hblank⟩
    · rwa [hsame] at h
    · exact absurd hkelvin hk
    · have hsmall := toNat_lt_of_isDeclarationChar h hblank
      omega

theorem filter_lowerChar (c : Char) :
    [lowerChar c].filter isParenthesis = [c].filter isParenthesis := by
  by_cases hascii : c.toNat < 128
  · have hall : ∀ code < 128, [lowerChar (Char.ofNat code)].filter isParenthesis =
        [Char.ofNat code].filter isParenthesis := by decide
    obtain ⟨code, hcode, rfl⟩ := exists_code_of_ascii hascii
    exact hall code hcode
  · have hlarge := Nat.not_lt.mp hascii
    have hother := isParenthesis_eq_false_of_not_ascii hlarge
    rcases lowerChar_of_not_ascii hlarge with hsame | hkelvin | ⟨hlarge', -⟩
    · rw [hsame]
    · have hk : isParenthesis 'k' = false := by decide
      simp [hkelvin, hk, hother]
    · simp [hother, isParenthesis_eq_false_of_not_ascii hlarge']

theorem isDeclarationChar_of_smallAt {before after small : List Char} {c : Char}
    (h : SmallAt before after c small)
    (hsmall : ∀ s ∈ small, isDeclarationChar s = true ∧ s ≠ 'k') : isDeclarationChar c = true := by
  have hone : ∀ {s : Char}, small = [s] → isDeclarationChar s = true ∧ s ≠ 'k' :=
    fun heq => hsmall _ (heq ▸ List.mem_cons_self)
  cases h with
  | ascii hascii =>
      rw [← lowerChar_of_ascii hascii] at hone
      exact isDeclarationChar_of_lowerChar (hone rfl).1 (hone rfl).2
  | beyond => exact isDeclarationChar_of_lowerChar (hone rfl).1 (hone rfl).2
  | finalSigma | sigma => cases (hone rfl).1
  | dotted => cases (hsmall '\u0307' (by decide)).1

theorem filter_smallAt {before after small : List Char} {c : Char}
    (h : SmallAt before after c small) :
    small.filter isParenthesis = [c].filter isParenthesis := by
  cases h with
  | ascii hascii => exact lowerChar_of_ascii hascii ▸ filter_lowerChar c
  | beyond => exact filter_lowerChar c
  | finalSigma | sigma | dotted => decide

theorem harmless_of_lower (h : Harmless (lower text) ∧ 'k' ∉ lower text) : Harmless text := by
  have hall : ∀ before, (∀ c ∈ lowerAfter before text, isDeclarationChar c = true ∧ c ≠ 'k') →
      (∀ c ∈ text, isDeclarationChar c = true) ∧
        (lowerAfter before text).filter isParenthesis = text.filter isParenthesis := by
    clear h
    induction text with
    | nil => intro before _; exact ⟨by simp, rfl⟩
    | cons c text ih =>
        intro before hchars
        obtain ⟨small, hsmall⟩ := exists_smallAt before text c
        rw [lowerAfter_cons hsmall] at hchars ⊢
        obtain ⟨hfirst, hrest⟩ := List.forall_mem_append.mp hchars
        obtain ⟨htext, hfilter⟩ := ih _ hrest
        refine ⟨List.forall_mem_cons.mpr ⟨isDeclarationChar_of_smallAt hsmall hfirst, htext⟩, ?_⟩
        rw [List.filter_append, filter_smallAt hsmall, hfilter, ← List.filter_append,
          List.singleton_append]
  obtain ⟨⟨hchars, hparentheses⟩, hk⟩ := h
  obtain ⟨htext, hfilter⟩ := hall [] fun c hc => ⟨hchars c hc, fun heq => hk (heq ▸ hc)⟩
  exact ⟨htext, hfilter ▸ hparentheses⟩

theorem harmless_of_collapseBlanks (h : Harmless (collapseBlanks text)) : Harmless text := by
  have hsolid := @filter_collapseBlanks (!isBlank ·) (by simp) text
  have hnonblank : ∀ c, isParenthesis c = true → isBlank c = false := by
    intro c hc
    rcases Bool.or_eq_true_iff.mp hc with hopen | hclose
    · rw [eq_of_beq hopen]
      decide
    · rw [eq_of_beq hclose]
      decide
  have hparentheses := filter_collapseBlanks hnonblank text
  refine ⟨fun c hc => ?_, hparentheses ▸ h.parentheses⟩
  cases hblank : isBlank c with
  | true => simp [isDeclarationChar, isPlainChar, hblank]
  | false =>
      have hkept : c ∈ (collapseBlanks text).filter (!isBlank ·) := by
        rw [hsolid]
        simp [hc, hblank]
      exact h.chars c (List.mem_of_mem_filter hkept)

/-- The text that an accepted type was read from is harmless as it was given. -/
theorem harmless_of_parse_eq_ok {raw : String} {type : ColumnType}
    (h : ColumnType.parse raw = .ok type) : Harmless raw.toList :=
  harmless_of_collapseBlanks (harmless_of_lower
    (harmless_of_joinWordPairs (enclosed_of_parse_eq_ok h).harmless))

end Declaration

open Declaration

/-- **Accepted types are harmless.** A text that is read as a type holds letters and digits of ASCII,
underscores, commas and white space, and at most one pair of parentheses, whatever characters
lower-casing may bring into its normalized form. So do the declared types of mapped tables, which
therefore hold no character that would end a cast. -/
theorem accepted_types_are_harmless :
    (∀ raw type, ColumnType.parse raw = .ok type → Harmless raw.toList) ∧
    ∀ (namespaceName : String) (found : CatalogTable) (table : Table),
      found.toTable namespaceName = .ok table → ∀ column ∈ table.columns,
        Harmless column.rawType.toList ∧ ∀ c ∈ "-;/*$'\"".toList, c ∉ column.rawType.toList := by
  refine ⟨fun raw type => harmless_of_parse_eq_ok, ?_⟩
  intro namespaceName found table h column hcolumn
  have hcolumns := (CatalogTable.toTable_eq_ok_iff.mp h).1
  obtain ⟨source, -, hsource⟩ := exists_mem_of_forall₂ hcolumns hcolumn
  obtain ⟨declared, hdeclared, rfl⟩ := CatalogTable.toColumn_eq_ok_iff.mp hsource
  have hharmless := harmless_of_parse_eq_ok hdeclared
  have hforbidden : "-;/*$'\"".toList.all (!isDeclarationChar ·) = true := by decide
  refine ⟨hharmless, fun c hc hmem => ?_⟩
  have hc := List.all_eq_true.mp hforbidden c hc
  rw [hharmless.chars c hmem] at hc
  cases hc

theorem accepted_interval_is_harmless :
    let raw := "InterVAL\u2003day TO second ( 3 )"
    let events : CatalogTable := ⟨"events", [⟨"length", raw, none, false, false⟩], [], []⟩
    let length : Column := ⟨"length", raw, .interval (some 3), false, none, false⟩
    ColumnType.parse raw = .ok (.interval (some 3)) ∧ Harmless raw.toList ∧
      events.toTable "public" = .ok ⟨"events", [length], [], []⟩ ∧
      ∀ c ∈ "-;/*$'\"".toList, c ∉ length.rawType.toList := by
  intro raw events length
  have hparse : ColumnType.parse raw = .ok (.interval (some 3)) := by decide +kernel
  have htable : events.toTable "public" = .ok ⟨"events", [length], [], []⟩ := by decide +kernel
  have hcolumn := accepted_types_are_harmless.2 "public" events _ htable length List.mem_cons_self
  exact ⟨hparse, accepted_types_are_harmless.1 raw _ hparse, htable, hcolumn.2⟩

end SyntheticRows
