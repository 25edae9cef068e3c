import SyntheticRows.Proofs.Rule.Language
/-!
# The meaning of a rule

Every rule has a meaning, names a generator that is not known, or is malformed, and compiling tells
which. A rule with brackets is a choice or a constant. A rule without is a call, whose arguments
have to fit the generator that it names. The known names are listed here once more, and shown to be
those that compiling looks for.
-/

namespace SyntheticRows.Rule

open Text

/-- A name in small letters. -/
def smallName (name : List Char) : String :=
  String.ofList (name.map Char.toLower)

/-- The names of the catalog, with what they stand for. -/
def catalogTable : List (String × CatalogEntry) := [
  ("firstname", .firstName), ("name", .name), ("lastname", .lastName), ("email", .email),
  ("username", .username), ("currency", .currency), ("ccnumber", .cardNumber),
  ("cctype", .cardType), ("country", .country), ("city", .city), ("address", .address),
  ("state", .state), ("postalcode", .postalCode), ("latitude", .latitude), ("lat", .lat),
  ("longitude", .longitude), ("lon", .lon), ("phone", .phone), ("date", .date),
  ("dayofweek", .dayOfWeek), ("month", .month), ("year", .year), ("time", .time),
  ("datetime", .dateTime), ("timestamp", .timestamp), ("bloodtype", .bloodType),
  ("bloodrhfactor", .bloodRhFactor), ("bloodgroup", .bloodGroup), ("paragraph", .paragraph),
  ("ipv4", .ipv4), ("ipv6", .ipv6), ("mac", .mac), ("url", .url), ("useragent", .userAgent)]

/-- All names that can be called. -/
def knownNames : List String :=
  ["int", "integer", "sentence", "text"] ++ catalogTable.map (·.1)

/-- The generators that a name in small letters and its arguments stand for. -/
inductive Fits : String → List Int → Generator → Prop
  | anyInteger {name : String} (hname : name = "int" ∨ name = "integer") :
      Fits name [] (.integer 0 (Int64.maxValue.toInt + 1))
  | below {name : String} {bound : Int} (hname : name = "int" ∨ name = "integer")
      (hbound : 0 < bound) : Fits name [bound] (.integer 0 bound)
  | between {name : String} {low high : Int} (hname : name = "int" ∨ name = "integer")
      (hrange : low < high) : Fits name [low, high] (.integer low high)
  | sentence {name : String} (hname : name = "sentence" ∨ name = "text") : Fits name [] .sentence
  | text {name : String} {length : Nat} (hname : name = "sentence" ∨ name = "text")
      (hlength : 0 < length) : Fits name [(length : Int)] (.text length)
  | catalog {name : String} {entry : CatalogEntry} (hname : (name, entry) ∈ catalogTable) :
      Fits name [] (.catalog entry)

/-- The generators that a name in small letters and the body in its brackets stand for. -/
inductive Filled : String → List Char → Generator → Prop
  | choice {body : List Char} {parts : List (List Char)} {entries : List (String × UInt32)}
      (hsome : ¬allBlank body) (hparts : Listed ',' parts body)
      (hentries : List.Forall₂ EntryText parts entries) : Filled "oneof" body (.choice entries)
  | constant {body : List Char} (hsome : ¬allBlank body) (hone : ',' ∉ body) :
      Filled "constant" body (.constant (String.ofList (trim body)))

/-- The generator that a text stands for. -/
inductive Means (text : List Char) : Generator → Prop
  | bracketed {name body : List Char} {generator : Generator} (hform : Bracketed text name body)
      (hmeaning : Filled (smallName name) body generator) : Means text generator
  | called {name : List Char} {values : List Int} {generator : Generator}
      (hform : CallText text name values) (hmeaning : Fits (smallName name) values generator) :
      Means text generator

/-- The form of a text is sound, but nothing has the name, which is in small letters. -/
inductive Unknown (text : List Char) : String → Prop
  | bracketed {name body : List Char} (hform : Bracketed text name body) (hsome : ¬allBlank body)
      (hname : smallName name ≠ "oneof" ∧ smallName name ≠ "constant") :
      Unknown text (smallName name)
  | called {name : List Char} {values : List Int} (hform : CallText text name values)
      (hname : smallName name ∉ knownNames) : Unknown text (smallName name)

variable {rule : String} {name : List Char} {generator : Generator}

/-! ### Brackets -/

/-- Letters that are spelled out are those of a name if the name is. -/
theorem eq_toList_iff {word : String} : name = word.toList ↔ String.ofList name = word := by
  rw [← String.toList_inj, String.toList_ofList]

theorem ofBrackets_eq_some_iff {body : List Char} :
    ofBrackets name body = .ok (some generator) ↔
      Filled (String.ofList name) body generator := by
  unfold ofBrackets
  simp only [eq_toList_iff]
  constructor
  · intro h
    split_ifs at h with hblank hchoice hconstant
    · obtain ⟨entries, hentries, ⟨⟩⟩ := bind_eq_ok_iff.mp h
      rw [hchoice]
      refine .choice hblank (splitAtEach_eq_iff.mp rfl) ?_
      exact (mapM_eq_ok_iff.mp hentries).imp fun _ _ => weightedLabel_eq_ok_iff.mp
    · split at h
      next value hvalue =>
        cases h
        obtain ⟨rfl, hone⟩ := splitAtEach_eq_singleton_iff.mp hvalue
        rw [hconstant]
        exact .constant hblank hone
      next => cases h
    · cases h
  · intro h
    generalize String.ofList name = name at h ⊢
    cases h with
    | choice hsome hparts hentries =>
        rw [if_neg hsome, if_pos rfl, splitAtEach_eq_iff.mpr hparts]
        refine bind_eq_ok_iff.mpr ⟨_, mapM_eq_ok_iff.mpr ?_, rfl⟩
        exact hentries.imp fun _ _ => weightedLabel_eq_ok_iff.mpr
    | constant hsome hone =>
        rw [if_neg hsome, if_neg (by decide), if_pos rfl,
          splitAtEach_eq_singleton_iff.mpr ⟨rfl, hone⟩]

theorem ofBrackets_eq_none_iff {body : List Char} :
    ofBrackets name body = .ok none ↔
      ¬allBlank body ∧ String.ofList name ≠ "oneof" ∧ String.ofList name ≠ "constant" := by
  simp only [ne_eq, ← eq_toList_iff]
  constructor
  · intro h
    unfold ofBrackets at h
    split_ifs at h with hblank hchoice hconstant
    · obtain ⟨entries, -, ⟨⟩⟩ := bind_eq_ok_iff.mp h
    · split at h <;> cases h
    · exact ⟨hblank, hchoice, hconstant⟩
  · rintro ⟨hblank, hchoice, hconstant⟩
    rw [ofBrackets, if_neg hblank, if_neg hchoice, if_neg hconstant]

/-! ### Names -/

theorem mem_catalogTable_iff {name : String} {entry : CatalogEntry} :
    (name, entry) ∈ catalogTable ↔ entry.spelling = name := by
  have hspelled : ∀ listed ∈ catalogTable, listed.2.spelling = listed.1 := by decide +kernel
  have hlisted : ∀ entry : CatalogEntry, (entry.spelling, entry) ∈ catalogTable := by
    rintro ⟨⟩ <;> decide +kernel
  exact ⟨hspelled (name, entry), fun h => h ▸ hlisted entry⟩

/-- The names that compiling looks for are those of the table and the four others. -/
theorem callableNames_eq : callableNames = knownNames := by
  decide +kernel

section

variable {name : String} {values : List Int}

theorem ofName_of_integer (hname : name = "int" ∨ name = "integer") :
    ofName name values = some <$> integerGenerator values := by
  rcases hname with rfl | rfl <;> rfl

theorem ofName_of_sentence (hname : name = "sentence" ∨ name = "text") :
    ofName name values = some <$> sentenceGenerator values := by
  rcases hname with rfl | rfl <;> rfl

theorem ofName_of_other (hinteger : ¬(name = "int" ∨ name = "integer"))
    (hsentence : ¬(name = "sentence" ∨ name = "text")) :
    ofName name values =
      match CatalogEntry.ofSpelling? name with
      | none => .ok none
      | some entry =>
          if values.isEmpty then .ok (some (.catalog entry))
          else .error (.takesNoArguments name) := by
  have hname : ¬(name = "int" || name = "integer") := by simpa using hinteger
  have hname' : ¬(name = "sentence" || name = "text") := by simpa using hsentence
  unfold ofName
  cases CatalogEntry.ofSpelling? name <;> exact (if_neg hname).trans (if_neg hname')

theorem fits_of_integerGenerator (hname : name = "int" ∨ name = "integer")
    (h : integerGenerator values = .ok generator) : Fits name values generator := by
  unfold integerGenerator at h
  split at h
  next =>
    cases h
    exact .anyInteger hname
  next bound =>
    split at h
    next hbound =>
      cases h
      exact .below hname hbound
    next => cases h
  next low high =>
    split at h
    next hrange =>
      cases h
      exact .between hname hrange
    next => cases h
  next => cases h

theorem fits_of_sentenceGenerator (hname : name = "sentence" ∨ name = "text")
    (h : sentenceGenerator values = .ok generator) : Fits name values generator := by
  unfold sentenceGenerator at h
  split at h
  next =>
    cases h
    exact .sentence hname
  next length =>
    split at h
    next hlength =>
      cases h
      have hnat : (length.toNat : Int) = length := Int.toNat_of_nonneg (by omega)
      have hpositive : 0 < length.toNat := by omega
      have hfits := Fits.text hname hpositive
      rwa [hnat] at hfits
    next => cases h
  next => cases h

theorem ofName_eq_some_iff :
    ofName name values = .ok (some generator) ↔ Fits name values generator := by
  constructor
  · intro h
    by_cases hinteger : name = "int" ∨ name = "integer"
    · rw [ofName_of_integer hinteger] at h
      obtain ⟨_, hgenerator, ⟨⟩⟩ := map_eq_ok_iff.mp h
      exact fits_of_integerGenerator hinteger hgenerator
    by_cases hsentence : name = "sentence" ∨ name = "text"
    · rw [ofName_of_sentence hsentence] at h
      obtain ⟨_, hgenerator, ⟨⟩⟩ := map_eq_ok_iff.mp h
      exact fits_of_sentenceGenerator hsentence hgenerator
    rw [ofName_of_other hinteger hsentence] at h
    split at h
    next => cases h
    next entry hentry =>
      have hname : entry.spelling = name := by
        unfold CatalogEntry.ofSpelling? at hentry
        simpa using List.find?_some hentry
      split at h
      next hnone =>
        cases h
        rw [List.isEmpty_iff.mp hnone]
        exact .catalog (mem_catalogTable_iff.mpr hname)
      next => cases h
  · intro h
    cases h with
    | anyInteger hname | sentence hname => rcases hname with rfl | rfl <;> rfl
    | below hname hbound =>
        rw [ofName_of_integer hname, integerGenerator, if_pos hbound]
        rfl
    | between hname hrange =>
        rw [ofName_of_integer hname, integerGenerator, if_pos hrange]
        rfl
    | text hname hlength =>
        rw [ofName_of_sentence hname, sentenceGenerator, if_pos (by omega), Int.toNat_natCast]
        rfl
    | @catalog entry hname =>
        obtain rfl := mem_catalogTable_iff.mp hname
        cases entry <;> rfl

theorem mem_callableNames_iff : name ∈ callableNames ↔ (name = "int" ∨ name = "integer") ∨
    (name = "sentence" ∨ name = "text") ∨ CatalogEntry.ofSpelling? name ≠ none := by
  simp [callableNames, CatalogEntry.ofSpelling?, or_assoc]

theorem ofName_eq_none_iff : ofName name values = .ok none ↔ name ∉ knownNames := by
  rw [← callableNames_eq, mem_callableNames_iff]
  by_cases hinteger : name = "int" ∨ name = "integer"
  · rw [ofName_of_integer hinteger]
    simp only [map_eq_ok_iff, hinteger, true_or, not_true_eq_false, iff_false]
    rintro ⟨_, -, ⟨⟩⟩
  by_cases hsentence : name = "sentence" ∨ name = "text"
  · rw [ofName_of_sentence hsentence]
    simp only [map_eq_ok_iff, hsentence, true_or, or_true, not_true_eq_false, iff_false]
    rintro ⟨_, -, ⟨⟩⟩
  rw [ofName_of_other hinteger hsentence]
  cases CatalogEntry.ofSpelling? name with
  | none => simp [hinteger, hsentence]
  | some entry => cases values <;> simp

end

/-! ### Rules -/

variable {outcome : Except RuleFault (Option Generator)} {quoted known : String}

theorem resolve_eq_ok_iff :
    resolve rule known outcome = .ok generator ↔ outcome = .ok (some generator) := by
  rcases outcome with _ | _ | _ <;> simp [resolve]

theorem resolve_eq_unknown_iff {name : String} :
    resolve rule known outcome = .error (.unknown quoted name) ↔
      quoted = rule ∧ name = known ∧ outcome = .ok none := by
  rcases outcome with _ | _ | _ <;> simp [resolve, eq_comm]

theorem eq_of_resolve_eq_malformed {fault : RuleFault}
    (h : resolve rule known outcome = .error (.malformed quoted fault)) : quoted = rule := by
  rcases outcome with _ | _ | _ <;> cases h
  rfl

theorem compile_of_bracketed {body : List Char} (hform : Bracketed (trim rule.toList) name body) :
    compile rule = resolve rule (smallName name) (ofBrackets (lowerAscii name) body) := by
  have hsome : (trim rule.toList).isEmpty = false := by
    have hopen := hform.open_mem
    cases htext : trim rule.toList with
    | nil => simp [htext] at hopen
    | cons => rfl
  simp only [compile]
  rw [hsome, splitBrackets?_eq_some_iff.mpr ⟨name, hform, rfl⟩]
  rfl

theorem compile_of_call {values : List Int} (hform : CallText (trim rule.toList) name values) :
    compile rule = named rule (smallName name) values := by
  have hcall := (splitCall_eq_ok_iff (trimmed_trim _)).mpr ⟨name, hform, rfl⟩
  have hsome : (trim rule.toList).isEmpty = false := by
    cases htext : trim rule.toList with
    | nil =>
        rw [htext] at hcall
        cases hcall
    | cons => rfl
  have hnone : splitBrackets? (trim rule.toList) = none := by
    rw [Option.eq_none_iff_forall_ne_some]
    rintro ⟨small, body⟩ hsplit
    obtain ⟨name', hbracketed, -⟩ := splitBrackets?_eq_some_iff.mp hsplit
    exact hform.not_bracketed hbracketed
  simp only [compile]
  rw [hsome, hnone, hcall]
  rfl

/-- A rule of neither form is malformed. -/
theorem exists_form_or_malformed (rule : String) :
    (∃ name body, Bracketed (trim rule.toList) name body) ∨
    (∃ name values, CallText (trim rule.toList) name values) ∨
      ∃ fault, compile rule = .error (.malformed rule fault) := by
  cases hsplit : splitBrackets? (trim rule.toList) with
  | some parts =>
      obtain ⟨name, hform, -⟩ := splitBrackets?_eq_some_iff.mp hsplit
      exact .inl ⟨name, _, hform⟩
  | none =>
      cases hcall : splitCall (trim rule.toList) with
      | ok call =>
          obtain ⟨name, hform, -⟩ := (splitCall_eq_ok_iff (trimmed_trim _)).mp hcall
          exact .inr (.inl ⟨name, _, hform⟩)
      | error fault =>
          refine .inr (.inr ?_)
          simp only [compile]
          rw [hsplit, hcall]
          split
          · exact ⟨_, rfl⟩
          · exact ⟨_, rfl⟩

theorem compile_eq_ok_iff : compile rule = .ok generator ↔ Means (trim rule.toList) generator := by
  constructor
  · intro h
    rcases exists_form_or_malformed rule with
      ⟨name, body, hform⟩ | ⟨name, values, hform⟩ | ⟨fault, hfault⟩
    · rw [compile_of_bracketed hform, resolve_eq_ok_iff] at h
      exact .bracketed hform (ofBrackets_eq_some_iff.mp h)
    · rw [compile_of_call hform, named, resolve_eq_ok_iff] at h
      exact .called hform (ofName_eq_some_iff.mp h)
    · cases hfault.symm.trans h
  · intro h
    cases h with
    | bracketed hform hmeaning =>
        rw [compile_of_bracketed hform, resolve_eq_ok_iff]
        exact ofBrackets_eq_some_iff.mpr hmeaning
    | called hform hmeaning =>
        rw [compile_of_call hform, named, resolve_eq_ok_iff]
        exact ofName_eq_some_iff.mpr hmeaning

theorem compile_eq_unknown_iff {name : String} :
    compile rule = .error (.unknown quoted name) ↔
      quoted = rule ∧ Unknown (trim rule.toList) name := by
  constructor
  · intro h
    rcases exists_form_or_malformed rule with
      ⟨name, body, hform⟩ | ⟨name, values, hform⟩ | ⟨fault, hfault⟩
    · rw [compile_of_bracketed hform, resolve_eq_unknown_iff] at h
      obtain ⟨rfl, rfl, hnone⟩ := h
      obtain ⟨hsome, hname⟩ := ofBrackets_eq_none_iff.mp hnone
      exact ⟨rfl, .bracketed hform hsome hname⟩
    · rw [compile_of_call hform, named, resolve_eq_unknown_iff] at h
      obtain ⟨rfl, rfl, hnone⟩ := h
      exact ⟨rfl, .called hform (ofName_eq_none_iff.mp hnone)⟩
    · cases hfault.symm.trans h
  · rintro ⟨rfl, h⟩
    cases h with
    | bracketed hform hsome hname =>
        rw [compile_of_bracketed hform, resolve_eq_unknown_iff]
        exact ⟨rfl, rfl, ofBrackets_eq_none_iff.mpr ⟨hsome, hname⟩⟩
    | called hform hname =>
        rw [compile_of_call hform, named, resolve_eq_unknown_iff]
        exact ⟨rfl, rfl, ofName_eq_none_iff.mpr hname⟩

theorem eq_of_compile_eq_malformed {fault : RuleFault}
    (h : compile rule = .error (.malformed quoted fault)) : quoted = rule := by
  rcases exists_form_or_malformed rule with
    ⟨name, body, hform⟩ | ⟨name, values, hform⟩ | ⟨fault', hfault⟩
  · rw [compile_of_bracketed hform] at h
    exact eq_of_resolve_eq_malformed h
  · rw [compile_of_call hform, named] at h
    exact eq_of_resolve_eq_malformed h
  · cases hfault.symm.trans h
    rfl

/-- **The rule language.** No text has both forms. A rule compiles if and only if its text without
blank ends stands for the generator, it is unknown if and only if that text is of a form but nothing
has its name, and else it is malformed. Errors quote the whole rule. -/
theorem compile_classifies (rule : String) :
    (¬∃ name body name' values, Bracketed (trim rule.toList) name body ∧
      CallText (trim rule.toList) name' values) ∧
    (∀ generator, compile rule = .ok generator ↔ Means (trim rule.toList) generator) ∧
    (∀ quoted name, compile rule = .error (.unknown quoted name) ↔
      quoted = rule ∧ Unknown (trim rule.toList) name) ∧
    ∀ quoted, (∃ fault, compile rule = .error (.malformed quoted fault)) ↔
      quoted = rule ∧ (¬∃ generator, Means (trim rule.toList) generator) ∧
        ¬∃ name, Unknown (trim rule.toList) name := by
  refine ⟨?_, fun _ => compile_eq_ok_iff, fun _ _ => compile_eq_unknown_iff, fun quoted => ?_⟩
  · rintro ⟨name, body, name', values, hbracketed, hcall⟩
    exact hcall.not_bracketed hbracketed
  constructor
  · rintro ⟨fault, hfault⟩
    refine ⟨eq_of_compile_eq_malformed hfault, ?_, ?_⟩
    · rintro ⟨generator, hmeans⟩
      cases hfault.symm.trans (compile_eq_ok_iff.mpr hmeans)
    · rintro ⟨name, hunknown⟩
      cases hfault.symm.trans (compile_eq_unknown_iff.mpr ⟨rfl, hunknown⟩)
  · rintro ⟨rfl, hmeans, hunknown⟩
    cases hcompile : compile quoted with
    | ok generator => exact absurd ⟨generator, compile_eq_ok_iff.mp hcompile⟩ hmeans
    | error cause =>
        cases cause with
        | malformed quoted fault => exact ⟨fault, by rw [eq_of_compile_eq_malformed hcompile]⟩
        | unknown _ name => exact absurd ⟨name, (compile_eq_unknown_iff.mp hcompile).2⟩ hunknown

/-- A name in mixed case with blanks around the brackets and the entries, and one that nothing has. -/
theorem compile_classifies_of_mixed_case :
    let choice := " OneOf\t[ a%80 ,b b% 20]\n"
    let entries : List (String × UInt32) := [("a", 80), ("b b", 20)]
    let mystery := "Shuffle (1, +2)"
    Means (trim choice.toList) (.choice entries) ∧ compile choice = .ok (.choice entries) ∧
      Unknown (trim mystery.toList) "shuffle" ∧
      compile mystery = .error (.unknown mystery "shuffle") := by
  intro choice entries mystery
  obtain ⟨-, hchoices, -, -⟩ := compile_classifies choice
  obtain ⟨-, -, hunknown, -⟩ := compile_classifies mystery
  have hletters : ∀ c ∈ "OneOf".toList, c.isAlpha = true := List.all_eq_true.mp (by decide)
  have hform : Bracketed ("OneOf".toList ++ ['\t'] ++ '[' :: (" a%80 ,b b% 20".toList ++ [']']))
      "OneOf".toList " a%80 ,b b% 20".toList := .mk (by decide) hletters (by decide)
  have hparts : Listed ',' [" a%80 ".toList, "b b% 20".toList] " a%80 ,b b% 20".toList :=
    splitAtEach_eq_iff.mp (by decide)
  have hreads : List.Forall₂ EntryText [" a%80 ".toList, "b b% 20".toList] entries :=
    .cons (weightedLabel_eq_ok_iff.mp (by decide +kernel))
      (.cons (weightedLabel_eq_ok_iff.mp (by decide +kernel)) .nil)
  have hmeans : Means (trim choice.toList) (.choice entries) := by
    have hname : smallName "OneOf".toList = "oneof" := by decide +kernel
    have htext : trim choice.toList =
        "OneOf".toList ++ ['\t'] ++ '[' :: (" a%80 ,b b% 20".toList ++ [']']) := by decide +kernel
    rw [htext]
    exact .bracketed hform (hname ▸ .choice (by decide) hparts hreads)
  have hcall : CallText (trim mystery.toList) "Shuffle".toList [1, 2] := by
    have htext : trim mystery.toList =
        "Shuffle".toList ++ [' '] ++ '(' :: ("1, +2".toList ++ [')']) := by decide +kernel
    rw [htext]
    have hone : ArgumentText "1".toList 1 := argument_eq_ok_iff.mp (by decide +kernel)
    have htwo : ArgumentText " +2".toList 2 := argument_eq_ok_iff.mp (by decide +kernel)
    exact .called (by decide) (by decide) (.two hone htwo)
  have hmystery : Unknown (trim mystery.toList) "shuffle" := by
    have hname : smallName "Shuffle".toList = "shuffle" := by decide +kernel
    exact hname ▸ .called hcall (by decide +kernel)
  exact ⟨hmeans, (hchoices _).mpr hmeans, hmystery, (hunknown _ _).mpr ⟨rfl, hmystery⟩⟩

end SyntheticRows.Rule
