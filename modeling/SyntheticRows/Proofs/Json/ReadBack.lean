import Mathlib.Data.List.DropRight
import SyntheticRows.Json.Printer
import SyntheticRows.Json.Reader
import SyntheticRows.Proofs.Text.Cut
import SyntheticRows.Proofs.Text.Numeral
/-!
# Reading written documents back

A value ends where its text ends, whatever follows it: words, strings and brackets close themselves,
and a numeral is followed by a comma, a line break or nothing. So the parts of a document are read
one by one, and the document that was written is the one that is read.
-/

namespace SyntheticRows.Json

open Text

variable {c : Char} {text rest : List Char} {document : Json}

/-! ### White space -/

theorem skipSpace_cons_of_not_isSpace (h : isSpace c = false) (text : List Char) :
    skipSpace (c :: text) = c :: text :=
  List.dropWhile_cons_of_neg (by simp [h])

theorem skipSpace_skipSpace (text : List Char) : skipSpace (skipSpace text) = skipSpace text :=
  List.dropWhile_idempotent _ _

theorem skipSpace_indentation (level : Nat) (text : List Char) :
    skipSpace (indentation level ++ text) = skipSpace text := by
  refine List.dropWhile_append_of_pos fun c hc => ?_
  rcases List.mem_cons.mp hc with rfl | hc
  · rfl
  · obtain rfl := List.eq_of_mem_replicate hc
    rfl

theorem value_skipSpace (fuel : Nat) (text : List Char) :
    value fuel (skipSpace text) = value fuel text := by
  cases fuel with
  | zero => rw [value, value]
  | succ fuel => rw [value, value, skipSpace_skipSpace]

theorem value_of_skipSpace_eq (h : skipSpace text = skipSpace rest) (fuel : Nat) :
    value fuel text = value fuel rest := by
  rw [← value_skipSpace fuel text, h, value_skipSpace]

theorem items_of_skipSpace_eq (h : skipSpace text = skipSpace rest) (fuel : Nat) :
    items fuel text = items fuel rest := by
  cases fuel with
  | zero => rw [items, items]
  | succ fuel => rw [items, items, value_of_skipSpace_eq h]

theorem members_of_skipSpace_eq (h : skipSpace text = skipSpace rest) (fuel : Nat) :
    members fuel text = members fuel rest := by
  cases fuel with
  | zero => rw [members, members]
  | succ fuel => rw [members, members, h]

/-! ### Strings -/

/-- How a character reads back: control characters without a letter of their own are codes. -/
def pieceOf (c : Char) : StringPiece :=
  if (shortEscape? c).isNone && c.toNat < 0x20 then .code c.toNat else .char c

theorem hexValue?_paddedHex_of_lt {n : Nat} (h : n < 0x20) :
    (paddedHex 4 n).length = 4 ∧ hexValue? (paddedHex 4 n) = some n := by
  revert n
  decide

theorem shortEscapeChar?_of_shortEscape?_eq_some {letter : Char}
    (h : shortEscape? c = some letter) : shortEscapeChar? letter = some c ∧ letter ≠ 'u' := by
  unfold shortEscape? at h
  split_ifs at h <;> cases h <;> subst c <;> decide

/-- A character is one piece of the string that it begins. -/
theorem stringPieces_escapeChar (c : Char) (text : List Char) :
    stringPieces (escapeChar c ++ text) =
      (stringPieces text).map fun (pieces, rest) => (pieceOf c :: pieces, rest) := by
  unfold escapeChar pieceOf
  cases hshort : shortEscape? c with
  | some letter =>
      obtain ⟨hletter, hu⟩ := shortEscapeChar?_of_shortEscape?_eq_some hshort
      rw [List.cons_append, List.singleton_append, stringPieces]
      · cases stringPieces text <;> simp [hletter]
      · exact fun _ _ _ _ _ hletter _ => hu hletter
  | none =>
      have hquote : c ≠ '"' := by
        rintro rfl
        cases hshort
      have hslash : c ≠ '\\' := by
        rintro rfl
        cases hshort
      by_cases hcontrol : c.toNat < 0x20
      · obtain ⟨hlength, hvalue⟩ := hexValue?_paddedHex_of_lt hcontrol
        obtain ⟨d₁, d₂, d₃, d₄, hdigits⟩ := List.length_eq_four.mp hlength
        rw [hdigits] at hvalue
        simp only [hcontrol, hdigits, if_true, List.cons_append, List.nil_append]
        rw [stringPieces]
        cases stringPieces text <;> simp [hvalue]
      · simp only [hcontrol, if_false]
        rw [List.singleton_append, stringPieces.eq_def]
        simp only [hquote, hslash, hcontrol, if_false]
        cases stringPieces text <;> rfl

theorem stringPieces_quoted (chars rest : List Char) :
    stringPieces (chars.flatMap escapeChar ++ '"' :: rest) = some (chars.map pieceOf, rest) := by
  induction chars with
  | nil =>
      rw [List.flatMap_nil, List.nil_append, stringPieces.eq_def]
      simp
  | cons c chars ih =>
      rw [List.flatMap_cons, List.append_assoc, stringPieces_escapeChar, ih]
      rfl

/-- A code that is no half of a surrogate pair stands for its own character. -/
theorem joinPieces_code_cons {code : Nat} (h : code < 0xd800) (pieces : List StringPiece) :
    joinPieces (.code code :: pieces) = (joinPieces pieces).map (Char.ofNat code :: ·) := by
  have hhigh : isHighSurrogate code = false := by
    simp only [isHighSurrogate, Bool.and_eq_false_iff, decide_eq_false_iff_not]
    omega
  have hlow : isLowSurrogate code = false := by
    simp only [isLowSurrogate, Bool.and_eq_false_iff, decide_eq_false_iff_not]
    omega
  match pieces with
  | [] | .char _ :: _ | .code _ :: _ => simp [joinPieces, hhigh, hlow]

theorem joinPieces_pieceOf_cons (c : Char) (pieces : List StringPiece) :
    joinPieces (pieceOf c :: pieces) = (joinPieces pieces).map (c :: ·) := by
  unfold pieceOf
  split
  next hcode =>
    simp only [Bool.and_eq_true, decide_eq_true_eq] at hcode
    rw [joinPieces_code_cons (by omega), Char.ofNat_toNat]
  next => rw [joinPieces]

theorem joinPieces_map_pieceOf (chars : List Char) :
    joinPieces (chars.map pieceOf) = some chars := by
  induction chars with
  | nil => rfl
  | cons c chars ih =>
      rw [List.map_cons, joinPieces_pieceOf_cons, ih]
      rfl

theorem quoted_append (name : String) (rest : List Char) :
    quoted name ++ rest = '"' :: (name.toList.flatMap escapeChar ++ '"' :: rest) := by
  simp [quoted]

theorem stringBody_quoted (name : String) (rest : List Char) :
    stringBody (name.toList.flatMap escapeChar ++ '"' :: rest) = some (name, rest) := by
  simp [stringBody, stringPieces_quoted, joinPieces_map_pieceOf]

/-! ### Numerals -/

/-- What follows does not go on with a numeral. -/
def EndsNumeral (rest : List Char) : Prop :=
  ∀ c ∈ rest.head?, c.isDigit = false ∧ c ≠ '.' ∧ c ≠ 'e' ∧ c ≠ 'E'

theorem endsNumeral_nil : EndsNumeral [] := by
  rintro c ⟨⟩

theorem endsNumeral_comma (rest : List Char) : EndsNumeral (',' :: rest) := by
  rintro c ⟨⟩
  decide

theorem endsNumeral_indentation (level : Nat) (rest : List Char) :
    EndsNumeral (indentation level ++ rest) := by
  rintro c ⟨⟩
  decide

theorem wholeDigits_decimal (n : Nat) (hrest : EndsNumeral rest) :
    wholeDigits (Text.decimal n ++ rest) = some (Text.decimal n, rest) := by
  have hstop : ∀ c ∈ rest.head?, c.isDigit = false := fun c hc => (hrest c hc).1
  have hne : Text.decimal n ≠ [] := Nat.toDigits_ne_nil
  unfold wholeDigits
  split
  next after hzero =>
    have hn : n = 0 := by
      by_contra hn
      apply head?_decimal_ne_zero (Nat.pos_of_ne_zero hn)
      rw [← List.head?_append_of_ne_nil _ hne, hzero]
      rfl
    subst hn
    obtain ⟨-, rfl⟩ := List.cons.inj hzero
    rfl
  next =>
    rw [takeWhile_append_eq_left (fun c => isDigit_of_mem_decimal) hstop,
      dropWhile_append_eq_right (fun c => isDigit_of_mem_decimal) hstop]
    simp [hne]

theorem fractionPart_of_endsNumeral (h : EndsNumeral rest) :
    fractionPart rest = some ([], rest) := by
  unfold fractionPart
  split
  next => exact absurd rfl (h '.' rfl).2.1
  next => rfl

theorem exponentPart_of_endsNumeral (h : EndsNumeral rest) :
    exponentPart rest = some ([], rest) := by
  cases rest with
  | nil => rfl
  | cons c rest =>
      obtain ⟨-, -, he, hE⟩ := h c rfl
      simp [exponentPart, he, hE]

theorem numeral_integerText (value : Int) (hrest : EndsNumeral rest) :
    numeral (integerText value ++ rest) = some (.integer value, rest) := by
  have hdigits : ∀ n, decimalValue (Text.decimal n) = n := decimalValue_toDigits
  unfold numeral
  cases value with
  | ofNat n =>
      dsimp only [integerText]
      split
      next sign unsigned hminus =>
        obtain ⟨c, digits, hdecimal, hdigit⟩ := exists_decimal_eq_cons n
        rw [hdecimal] at hminus
        obtain ⟨rfl, -⟩ := List.cons.inj hminus
        cases hdigit
      next =>
        simp [wholeDigits_decimal n hrest, fractionPart_of_endsNumeral hrest,
          exponentPart_of_endsNumeral hrest, hdigits]
  | negSucc n =>
      dsimp only [integerText, List.cons_append]
      simp [wholeDigits_decimal (n + 1) hrest, fractionPart_of_endsNumeral hrest,
        exponentPart_of_endsNumeral hrest, hdigits, Int.negSucc_eq]

/-- How a numeral begins. -/
def isNumeralStart (c : Char) : Bool :=
  c.isDigit || c == '-'

theorem exists_integerText_eq_cons (value : Int) :
    ∃ c text, integerText value = c :: text ∧ isNumeralStart c = true := by
  cases value with
  | ofNat n =>
      obtain ⟨c, digits, hdecimal, hdigit⟩ := exists_decimal_eq_cons n
      exact ⟨c, digits, hdecimal, by simp [isNumeralStart, hdigit]⟩
  | negSucc n => exact ⟨'-', _, rfl, rfl⟩

theorem ne_of_isNumeralStart (h : isNumeralStart c = true) {other : Char}
    (hdigit : other.isDigit = false) (hsign : other ≠ '-') : c ≠ other := by
  rintro rfl
  simp [isNumeralStart, hdigit, hsign] at h

theorem isSpace_of_isNumeralStart (h : isNumeralStart c = true) : isSpace c = false := by
  have hne := @ne_of_isNumeralStart c h
  simp [isSpace, @hne ' ', @hne '\t', @hne '\n', @hne '\r']

/-! ### Values -/

/-- No word, string or bracket begins as a numeral does. -/
theorem value_eq_numeral (h : isNumeralStart c = true) (fuel : Nat) (text : List Char) :
    value (fuel + 1) (c :: text) = numeral (c :: text) := by
  have hne := @ne_of_isNumeralStart c h
  have hword : word? (c :: text) = numeral (c :: text) := by
    simp [word?, @hne 'n', @hne 't', @hne 'f']
  rw [← hword, value, skipSpace_cons_of_not_isSpace (isSpace_of_isNumeralStart h)]
  simp [@hne '"', @hne '[', @hne '\x7b']

theorem value_integerText (fuel : Nat) (n : Int) (hrest : EndsNumeral rest) :
    value (fuel + 1) (integerText n ++ rest) = some (.integer n, rest) := by
  obtain ⟨c, digits, htext, hc⟩ := exists_integerText_eq_cons n
  rw [← numeral_integerText n hrest, htext]
  exact value_eq_numeral hc fuel _

theorem value_quoted (fuel : Nat) (s : String) (rest : List Char) :
    value (fuel + 1) (quoted s ++ rest) = some (.string s, rest) := by
  rw [quoted_append, value, skipSpace_cons_of_not_isSpace rfl]
  simp [stringBody_quoted]

theorem value_bracket (fuel level : Nat) (hspace : isSpace c = false) (hclose : c ≠ ']')
    (text : List Char) :
    value (fuel + 1) ('[' :: (indentation level ++ c :: text)) =
      (items fuel (c :: text)).map fun (items, rest) => (.array items, rest) := by
  rw [value, skipSpace_cons_of_not_isSpace rfl]
  simp [skipSpace_indentation, skipSpace_cons_of_not_isSpace hspace, hclose]

theorem value_brace (fuel level : Nat) (text : List Char) :
    value (fuel + 1) ('\x7b' :: (indentation level ++ '"' :: text)) =
      (members fuel ('"' :: text)).map fun (fields, rest) => (.object fields, rest) := by
  rw [value, skipSpace_cons_of_not_isSpace rfl]
  simp [skipSpace_indentation, skipSpace_cons_of_not_isSpace (c := '"') rfl]

/-! ### Lists of values and of fields -/

/-- The document is read from its text, whatever ends it there. Each step of the reader takes a
character of the text, so the length of the text is fuel enough. -/
def ReadsBack (document : Json) : Prop :=
  ∀ (level fuel : Nat) (rest : List Char), (prettyText level document).length ≤ fuel →
    EndsNumeral rest →
      value fuel (prettyText level document ++ rest) = some (document, rest)

theorem ReadsBack.value_space (h : ReadsBack document) (level fuel : Nat)
    (hfuel : (prettyText level document).length ≤ fuel) (hrest : EndsNumeral rest) :
    value fuel (' ' :: (prettyText level document ++ rest)) = some (document, rest) := by
  have hspace : ∀ text, skipSpace (' ' :: text) = skipSpace text := fun _ => rfl
  rw [value_of_skipSpace_eq (hspace _)]
  exact h level fuel rest hfuel hrest

theorem items_prettyItems {item : Json} {others : List Json} (hitem : ReadsBack item)
    (hothers : ∀ other ∈ others, ReadsBack other) (level fuel : Nat)
    (hfuel : (prettyText level item).length + (prettyItems level others).length < fuel)
    (outer : Nat) (rest : List Char) :
    items fuel (prettyText level item ++
        (prettyItems level others ++ (indentation outer ++ ']' :: rest))) =
      some (item :: others, rest) := by
  -- Each item costs one step, for which the comma in front of it pays.
  obtain ⟨fuel, rfl⟩ := Nat.exists_eq_add_one_of_ne_zero (Nat.ne_zero_of_lt hfuel)
  induction others generalizing item fuel with
  | nil =>
      rw [items, prettyItems, List.nil_append,
        hitem level fuel _ (by omega) (endsNumeral_indentation outer _)]
      simp [skipSpace_indentation, skipSpace_cons_of_not_isSpace (c := ']') rfl]
  | cons next others ih =>
      obtain ⟨hnext, hthose⟩ := List.forall_mem_cons.mp hothers
      have hlength : (prettyItems level (next :: others)).length =
          1 + (indentation level).length + (prettyText level next).length +
            (prettyItems level others).length := by
        simp [prettyItems]
        omega
      obtain ⟨fuel, rfl⟩ := Nat.exists_eq_add_one_of_ne_zero (n := fuel) (by omega)
      have hmore := ih hnext hthose fuel (by omega)
      rw [← items_of_skipSpace_eq (skipSpace_indentation level _)] at hmore
      rw [items, prettyItems]
      simp only [List.cons_append, List.append_assoc]
      rw [hitem level _ _ (by omega) (endsNumeral_comma _)]
      simp [skipSpace_cons_of_not_isSpace (c := ',') rfl, hmore]

theorem members_prettyFields (name : String) (member : Json) {others : List (String × Json)}
    (hmember : ReadsBack member) (hothers : ∀ field ∈ others, ReadsBack field.2) (level fuel : Nat)
    (hfuel : (prettyText level member).length + (prettyFields level others).length < fuel)
    (outer : Nat) (rest : List Char) :
    members fuel (quoted name ++ ':' :: ' ' :: (prettyText level member ++
        (prettyFields level others ++ (indentation outer ++ '\x7d' :: rest)))) =
      some ((name, member) :: others, rest) := by
  obtain ⟨fuel, rfl⟩ := Nat.exists_eq_add_one_of_ne_zero (Nat.ne_zero_of_lt hfuel)
  induction others generalizing name member fuel with
  | nil =>
      have hvalue := hmember.value_space level fuel (by omega)
        (endsNumeral_indentation outer ('\x7d' :: rest))
      rw [members, quoted_append, skipSpace_cons_of_not_isSpace rfl]
      simp [stringBody_quoted, skipSpace_cons_of_not_isSpace (c := ':') rfl, prettyFields, hvalue,
        skipSpace_indentation, skipSpace_cons_of_not_isSpace (c := '\x7d') rfl]
  | cons next others ih =>
      obtain ⟨nextName, nextMember⟩ := next
      obtain ⟨hnext, hthose⟩ := List.forall_mem_cons.mp hothers
      have hlength : (prettyFields level ((nextName, nextMember) :: others)).length =
          3 + (indentation level).length + (quoted nextName).length +
            (prettyText level nextMember).length + (prettyFields level others).length := by
        simp [prettyFields]
        omega
      obtain ⟨fuel, rfl⟩ := Nat.exists_eq_add_one_of_ne_zero (n := fuel) (by omega)
      have hmore := ih nextName nextMember hnext hthose fuel (by omega)
      rw [← members_of_skipSpace_eq (skipSpace_indentation level _)] at hmore
      have hvalue := fun text => hmember.value_space level (fuel + 1) (by omega)
        (endsNumeral_comma text)
      rw [members, quoted_append, skipSpace_cons_of_not_isSpace rfl]
      simp [stringBody_quoted, skipSpace_cons_of_not_isSpace (c := ':') rfl, prettyFields, hvalue,
        skipSpace_cons_of_not_isSpace (c := ',') rfl, hmore]

/-! ### Documents -/

/-- Documents whose numerals are whole. -/
inductive Whole : Json → Prop
  | null : Whole .null
  | bool (value : Bool) : Whole (.bool value)
  | integer (value : Int) : Whole (.integer value)
  | string (value : String) : Whole (.string value)
  | array {items : List Json} (h : ∀ item ∈ items, Whole item) : Whole (.array items)
  | object {fields : List (String × Json)} (h : ∀ field ∈ fields, Whole field.2) :
      Whole (.object fields)

attribute [simp] Whole.null Whole.bool Whole.integer Whole.string

/-- A text begins with its value, and a bracket that closes begins no value. -/
theorem Whole.exists_prettyText_eq_cons (h : Whole document) (level : Nat) :
    ∃ c text, prettyText level document = c :: text ∧ isSpace c = false ∧ c ≠ ']' := by
  cases h with
  | null => exact ⟨'n', _, rfl, rfl, by decide⟩
  | bool value => cases value with
    | true => exact ⟨'t', _, rfl, rfl, by decide⟩
    | false => exact ⟨'f', _, rfl, rfl, by decide⟩
  | integer value =>
      obtain ⟨c, text, htext, hc⟩ := exists_integerText_eq_cons value
      exact ⟨c, text, htext, isSpace_of_isNumeralStart hc, ne_of_isNumeralStart hc rfl (by decide)⟩
  | string value => exact ⟨'"', _, rfl, rfl, by decide⟩
  | @array items h => cases items with
    | nil => exact ⟨'[', _, rfl, rfl, by decide⟩
    | cons item items => exact ⟨'[', _, rfl, rfl, by decide⟩
  | @object fields h => cases fields with
    | nil => exact ⟨'\x7b', _, rfl, rfl, by decide⟩
    | cons field fields => exact ⟨'\x7b', _, rfl, rfl, by decide⟩

/-- No text is empty, so the reader has a step to begin with. -/
theorem Whole.readsBack_of_step (h : Whole document)
    (hstep : ∀ (level fuel : Nat) (rest : List Char),
      (prettyText level document).length ≤ fuel + 1 → EndsNumeral rest →
        value (fuel + 1) (prettyText level document ++ rest) = some (document, rest)) :
    ReadsBack document := by
  intro level fuel rest hfuel hrest
  obtain ⟨c, text, htext, -⟩ := h.exists_prettyText_eq_cons level
  have hpositive : fuel ≠ 0 := by
    rintro rfl
    rw [htext] at hfuel
    cases hfuel
  obtain ⟨fuel, rfl⟩ := Nat.exists_eq_add_one_of_ne_zero hpositive
  exact hstep level fuel rest hfuel hrest

theorem readsBack_array {items : List Json} (hall : ∀ item ∈ items, Whole item)
    (hread : ∀ item ∈ items, ReadsBack item) : ReadsBack (.array items) := by
  refine (Whole.array hall).readsBack_of_step fun level fuel rest hfuel _ => ?_
  cases items with
  | nil => rfl
  | cons item items =>
      obtain ⟨c, text, htext, hspace, hclose⟩ :=
        (hall item List.mem_cons_self).exists_prettyText_eq_cons (level + 1)
      obtain ⟨hitem, hothers⟩ := List.forall_mem_cons.mp hread
      rw [prettyText] at hfuel ⊢
      simp only [List.length_append, List.length_cons] at hfuel
      have hitems := items_prettyItems hitem hothers (level + 1) fuel (by omega) level rest
      rw [htext, List.cons_append] at hitems
      simp only [List.cons_append, List.append_assoc, List.nil_append, htext]
      rw [value_bracket fuel _ hspace hclose, hitems]
      rfl

theorem readsBack_object {fields : List (String × Json)} (hall : ∀ field ∈ fields, Whole field.2)
    (hread : ∀ field ∈ fields, ReadsBack field.2) : ReadsBack (.object fields) := by
  refine (Whole.object hall).readsBack_of_step fun level fuel rest hfuel _ => ?_
  match fields with
  | [] => rfl
  | (name, member) :: fields =>
      obtain ⟨hmember, hothers⟩ := List.forall_mem_cons.mp hread
      rw [prettyText] at hfuel ⊢
      simp only [List.length_append, List.length_cons] at hfuel
      have hmembers := members_prettyFields name member hmember hothers (level + 1) fuel (by omega)
        level rest
      rw [quoted_append] at hmembers
      simp only [List.cons_append, List.append_assoc, List.nil_append]
      rw [quoted_append, value_brace, hmembers]
      rfl

theorem Whole.readsBack (h : Whole document) : ReadsBack document := by
  induction h with
  | null => exact Whole.null.readsBack_of_step fun _ _ _ _ _ => rfl
  | bool b => cases b <;> exact (Whole.bool _).readsBack_of_step fun _ _ _ _ _ => rfl
  | integer n =>
      exact (Whole.integer n).readsBack_of_step fun _ fuel _ _ hrest =>
        value_integerText fuel n hrest
  | string s =>
      exact (Whole.string s).readsBack_of_step fun _ fuel rest _ _ => value_quoted fuel s rest
  | array hall ih => exact readsBack_array hall ih
  | object hall ih => exact readsBack_object hall ih

/-- A document that was written on several lines is read back from them. -/
theorem read?_pretty (h : Whole document) : read? document.pretty = some document := by
  have htext : document.pretty.toList = prettyText 0 document := String.toList_ofList
  have hlength : (prettyText 0 document).length = document.pretty.length := by
    rw [← htext, String.length_toList]
  have hread := h.readsBack 0 (2 * document.pretty.length + 2) [] (by omega) endsNumeral_nil
  rw [List.append_nil] at hread
  unfold read?
  rw [htext, hread]
  rfl

end SyntheticRows.Json
