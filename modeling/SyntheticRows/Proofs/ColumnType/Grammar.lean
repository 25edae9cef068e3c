import Mathlib.Data.List.Nodup
import SyntheticRows.ColumnType.Parser
import SyntheticRows.Proofs.ColumnType.Declaration
import SyntheticRows.Proofs.Text.LowerCase
/-!
# The grammar of column types

A text is a column type exactly if its normal form is a declaration whose name is one of the type's
names and whose parameters and qualifier are ones that this name takes. The type has the parameters
as written. The normal form, the names and the words of a qualifier are listed here once more, and
shown to be those that reading goes by.
-/

namespace SyntheticRows

open Text

/-- What the types without parameters are called. -/
def PlainType.names : PlainType → List String
  | .smallInt => ["smallint", "int2"]
  | .integer => ["integer", "int", "int4"]
  | .bigInt => ["bigint", "int8"]
  | .smallSerial => ["smallserial", "serial2"]
  | .serial => ["serial", "serial4"]
  | .bigSerial => ["bigserial", "serial8"]
  | .real => ["real", "float4"]
  | .double => ["float8"]
  | .money => ["money"]
  | .text => ["text"]
  | .boolean => ["boolean", "bool"]
  | .date => ["date"]
  | .bytea => ["bytea"]
  | .point => ["point"]
  | .line => ["line"]
  | .lineSegment => ["lseg"]
  | .box => ["box"]
  | .path => ["path"]
  | .polygon => ["polygon"]
  | .circle => ["circle"]
  | .inet => ["inet"]
  | .cidr => ["cidr"]
  | .macAddr => ["macaddr"]
  | .macAddr8 => ["macaddr8"]
  | .json => ["json"]
  | .jsonb => ["jsonb"]
  | .xml => ["xml"]
  | .uuid => ["uuid"]
  | .tsVector => ["tsvector"]
  | .tsQuery => ["tsquery"]
  | .pgLsn => ["pg_lsn"]
  | .pgSnapshot => ["pg_snapshot", "txid_snapshot"]

/-- What the types of a kind are called. -/
def TypeHead.names : TypeHead → List String
  | plain type => type.names
  | numeric => ["numeric", "decimal"]
  | char => ["char", "character", "bpchar"]
  | varChar => ["varchar"]
  | bit => ["bit"]
  | varBit => ["varbit"]
  | time => ["time"]
  | timeZoned => ["timetz"]
  | timestamp => ["timestamp"]
  | timestampZoned => ["timestamptz"]
  | interval => ["interval"]

namespace Declaration

/-- The words of a text stand one space apart, its letters are small, and then three spellings of two
words give way to one word each, one spelling after the other. -/
inductive NormalForm : (raw text : List Char) → Prop
  | mk {raw small text text' text'' : List Char} {parts : List (List Char)}
      (hwords : InWords raw parts) (hsmall : Lowered [] ([' '].intercalate parts) small)
      (hvarchar : Replaced "character varying".toList "varchar".toList small text)
      (hfloat8 : Replaced "double precision".toList "float8".toList text text')
      (hvarbit : Replaced "bit varying".toList "varbit".toList text' text'') :
      NormalForm raw text''

/-- What a qualifier says of the time zone. -/
inductive ZoneQualifier : Option (List Char) → Bool → Prop
  | absent : ZoneQualifier none false
  | unzoned : ZoneQualifier (some "without time zone".toList) false
  | zoned : ZoneQualifier (some "with time zone".toList) true

/-- The fields of an interval and the word between two of them. -/
def fieldWords : List String :=
  ["year", "month", "day", "hour", "minute", "second", "to"]

/-- Field words one space apart, or no qualifier. -/
inductive IntervalQualifier : Option (List Char) → Prop
  | absent : IntervalQualifier none
  | fields {words : List String} (hnonempty : words ≠ [])
      (hwords : ∀ word ∈ words, word ∈ fieldWords) :
      IntervalQualifier (some ([' '].intercalate (words.map String.toList)))

/-- The parameters and qualifiers that the names of each head take. -/
inductive Denotes : Declaration → TypeHead → ColumnType → Prop
  | plain {name : List Char} {type : PlainType} :
      Denotes ⟨name, none, none, none⟩ (.plain type) (.plain type)
  | numeric {name : List Char} {precision scale : Option UInt32} :
      Denotes ⟨name, precision, scale, none⟩ .numeric (.numeric precision scale)
  | char {name : List Char} {length : Option UInt32} :
      Denotes ⟨name, length, none, none⟩ .char (.char length)
  | varChar {name : List Char} {maxLength : Option UInt32} :
      Denotes ⟨name, maxLength, none, none⟩ .varChar (.varChar maxLength)
  | bit {name : List Char} {length : Option UInt32} :
      Denotes ⟨name, length, none, none⟩ .bit (.bit length)
  | varBit {name : List Char} {maxLength : Option UInt32} :
      Denotes ⟨name, maxLength, none, none⟩ .varBit (.varBit maxLength)
  | time {name : List Char} {precision : Option UInt32} {qualifier : Option (List Char)}
      {zone : Bool} (hzone : ZoneQualifier qualifier zone) :
      Denotes ⟨name, precision, none, qualifier⟩ .time (.time precision zone)
  | timeZoned {name : List Char} {precision : Option UInt32} :
      Denotes ⟨name, precision, none, none⟩ .timeZoned (.time precision true)
  | timestamp {name : List Char} {precision : Option UInt32} {qualifier : Option (List Char)}
      {zone : Bool} (hzone : ZoneQualifier qualifier zone) :
      Denotes ⟨name, precision, none, qualifier⟩ .timestamp (.timestamp precision zone)
  | timestampZoned {name : List Char} {precision : Option UInt32} :
      Denotes ⟨name, precision, none, none⟩ .timestampZoned (.timestamp precision true)
  | interval {name : List Char} {precision : Option UInt32} {qualifier : Option (List Char)}
      (hfields : IntervalQualifier qualifier) :
      Denotes ⟨name, precision, none, qualifier⟩ .interval (.interval precision)

/-! ### Normal forms -/

theorem normalForm_iff {raw text : List Char} : NormalForm raw text ↔ normalize raw = text := by
  constructor
  · rintro ⟨hwords, hsmall, hvarchar, hfloat8, hvarbit⟩
    rw [← (replaced_iff (by decide)).mp hvarbit, ← (replaced_iff (by decide)).mp hfloat8,
      ← (replaced_iff (by decide)).mp hvarchar, ← lowered_iff.mp hsmall, ← inWords_iff.mp hwords]
    rfl
  · rintro rfl
    have hreplaced : ∀ pair ∈ wordPairs, ∀ text,
        Replaced pair.1.toList pair.2.toList text (replaceText pair.1.toList pair.2.toList text) :=
      fun pair hpair text => replaced_replaceText (by revert pair; decide) _ text
    exact .mk (inWords_words raw) (lowered_iff.mpr rfl)
      (hreplaced ("character varying", "varchar") (by decide) _)
      (hreplaced ("double precision", "float8") (by decide) _)
      (hreplaced ("bit varying", "varbit") (by decide) _)

/-! ### Parameters and qualifiers -/

variable {declaration : Declaration}

theorem refuseQualifier_eq_ok_iff {done : Unit} :
    declaration.refuseQualifier = .ok done ↔ declaration.qualifier = none := by
  unfold refuseQualifier
  cases declaration.qualifier <;> simp

theorem refuseParameters_eq_ok_iff {done : Unit} :
    declaration.refuseParameters = .ok done ↔ declaration.first = none := by
  unfold refuseParameters
  cases declaration.first <;> simp

theorem onlyParameter_eq_ok_iff {parameter : Option UInt32} :
    declaration.onlyParameter = .ok parameter ↔
      declaration.second = none ∧ declaration.first = parameter := by
  unfold onlyParameter
  cases declaration.second <;> simp

theorem unqualifiedParameter_eq_ok_iff {parameter : Option UInt32} :
    declaration.unqualifiedParameter = .ok parameter ↔ declaration.qualifier = none ∧
      declaration.second = none ∧ declaration.first = parameter := by
  unfold unqualifiedParameter
  rw [bind_eq_ok_iff]
  simp only [refuseQualifier_eq_ok_iff, onlyParameter_eq_ok_iff, exists_const]

theorem timeZone_eq_ok_iff {zone : Bool} :
    declaration.timeZone = .ok zone ↔ ZoneQualifier declaration.qualifier zone := by
  unfold timeZone
  constructor
  · intro h
    split at h
    next hnone =>
      cases h
      exact hnone ▸ .absent
    next qualifier hsome =>
      rw [hsome]
      split_ifs at h with hunzoned hzoned
      · cases h
        exact eq_of_beq hunzoned ▸ .unzoned
      · cases h
        exact eq_of_beq hzoned ▸ .zoned
  · intro h
    generalize declaration.qualifier = qualifier at h
    cases h <;> rfl

theorem checkIntervalFields_eq_ok_iff {done : Unit} :
    declaration.checkIntervalFields = .ok done ↔ IntervalQualifier declaration.qualifier := by
  have hfield : ∀ word, isIntervalField word = true ↔
      ∃ field ∈ fieldWords, field.toList = word := fun word => by
    simp [isIntervalField, intervalFields, fieldWords]
  unfold checkIntervalFields
  constructor
  · intro h
    split at h
    next hnone => exact hnone ▸ .absent
    next fields hsome =>
      rw [hsome]
      split at h
      next hall =>
        obtain ⟨hnonempty, -, hjoined⟩ := splitAtEach_eq_iff.mp (Eq.refl (splitAtEach ' ' fields))
        have hwords : (splitAtEach ' ' fields).map (String.toList ∘ String.ofList) =
            splitAtEach ' ' fields := by simp
        rw [hjoined, ← hwords, ← List.map_map]
        refine .fields (by simpa using hnonempty) fun word hword => ?_
        obtain ⟨part, hpart, rfl⟩ := List.mem_map.mp hword
        obtain ⟨field, hmem, rfl⟩ := (hfield part).mp (List.all_eq_true.mp hall part hpart)
        simpa using hmem
      next => cases h
  · intro h
    generalize declaration.qualifier = qualifier at h
    cases h with
    | absent => rfl
    | @fields words hnonempty hwords =>
        have hspace : ∀ field ∈ fieldWords, ' ' ∉ field.toList := by decide
        have hparts : splitAtEach ' ' ([' '].intercalate (words.map String.toList)) =
            words.map String.toList := by
          refine splitAtEach_eq_iff.mpr ⟨by simpa using hnonempty, fun part hpart => ?_, rfl⟩
          obtain ⟨word, hword, rfl⟩ := List.mem_map.mp hpart
          exact hspace word (hwords word hword)
        have hall : (words.map String.toList).all isIntervalField = true := by
          refine List.all_eq_true.mpr fun part hpart => ?_
          obtain ⟨word, hword, rfl⟩ := List.mem_map.mp hpart
          exact (hfield word.toList).mpr ⟨word, hwords word hword, rfl⟩
        dsimp only
        rw [hparts, if_pos hall]

theorem typeOf_eq_ok_iff {head : TypeHead} {type : ColumnType}
    (hparameters : declaration.first = none → declaration.second = none) :
    declaration.typeOf head = .ok type ↔ Denotes declaration head type := by
  obtain ⟨name, first, second, qualifier⟩ := declaration
  constructor
  · intro h
    cases head <;> unfold typeOf at h <;>
      simp only [bind_eq_ok_iff, map_eq_ok_iff, refuseParameters_eq_ok_iff,
        refuseQualifier_eq_ok_iff, onlyParameter_eq_ok_iff, unqualifiedParameter_eq_ok_iff,
        timeZone_eq_ok_iff, checkIntervalFields_eq_ok_iff, pure, Except.pure, Except.ok.injEq] at h
    case plain =>
      obtain ⟨_, rfl, _, rfl, rfl⟩ := h
      obtain rfl : second = none := hparameters rfl
      exact .plain
    case numeric =>
      obtain ⟨_, rfl, rfl⟩ := h
      exact .numeric
    case time =>
      obtain ⟨_, ⟨rfl, rfl⟩, zone, hzone, rfl⟩ := h
      exact .time hzone
    case timestamp =>
      obtain ⟨_, ⟨rfl, rfl⟩, zone, hzone, rfl⟩ := h
      exact .timestamp hzone
    case interval =>
      obtain ⟨_, hfields, _, ⟨rfl, rfl⟩, rfl⟩ := h
      exact .interval hfields
    all_goals
      obtain ⟨_, ⟨rfl, rfl, rfl⟩, rfl⟩ := h
      constructor
  · intro h
    cases h with
    | time hzone | timestamp hzone =>
        unfold typeOf
        refine bind_eq_ok_iff.mpr ⟨first, rfl, ?_⟩
        exact bind_eq_ok_iff.mpr ⟨_, timeZone_eq_ok_iff.mpr hzone, rfl⟩
    | interval hfields =>
        unfold typeOf
        exact bind_eq_ok_iff.mpr ⟨(), checkIntervalFields_eq_ok_iff.mpr hfields, rfl⟩
    | _ => rfl

end Declaration

/-! ### Names -/

/-- The names by which reading goes are those of the kinds. -/
theorem TypeHead.mem_aliases_iff {name : String} {head : TypeHead} :
    (name, head) ∈ aliases ↔ name ∈ head.names := by
  have hnamed : ∀ entry ∈ aliases, entry.1 ∈ entry.2.names := by decide +kernel
  have hlisted : ∀ head : TypeHead, ∀ name ∈ head.names, (name, head) ∈ aliases := by
    rintro (type | _ | _ | _ | _ | _ | _ | _ | _ | _ | _)
    case plain => cases type <;> decide +kernel
    all_goals decide +kernel
  exact ⟨hnamed (name, head), hlisted head name⟩

theorem TypeHead.ofName?_eq_some_iff {name : List Char} {head : TypeHead} :
    ofName? name = some head ↔ (String.ofList name, head) ∈ aliases := by
  have hnodup : (aliases.map (·.1)).Nodup := by decide
  unfold ofName?
  rw [Option.map_eq_some_iff]
  constructor
  · rintro ⟨⟨text, head⟩, hfound, rfl⟩
    have hname : text.toList = name := by simpa using List.find?_some hfound
    rw [← hname, String.ofList_toList]
    exact List.mem_of_find?_eq_some hfound
  · intro hmem
    cases hfound : aliases.find? fun entry => entry.1.toList == name with
    | none =>
        have hnone := List.find?_eq_none.mp hfound _ hmem
        simp at hnone
    | some entry =>
        have hname : entry.1.toList = name := by simpa using List.find?_some hfound
        have hsame : entry = (String.ofList name, head) := by
          refine List.inj_on_of_nodup_map hnodup (List.mem_of_find?_eq_some hfound) hmem ?_
          rw [← hname, String.ofList_toList]
        exact ⟨entry, rfl, congrArg Prod.snd hsame⟩

namespace ColumnType

open Declaration

theorem ofNormalized_eq_ok_iff {raw : String} {text : List Char} {type : ColumnType} :
    ofNormalized raw text = .ok type ↔ ∃ declaration head, Written text declaration ∧
      (String.ofList declaration.name, head) ∈ TypeHead.aliases ∧ Denotes declaration head type := by
  unfold ofNormalized
  constructor
  · intro h
    split at h
    next => cases h
    next declaration hdeclaration =>
      have hwritten := Declaration.ofNormalized_eq_ok_iff.mp hdeclaration
      split at h
      next => cases h
      next head hhead =>
        split at h
        next => cases h
        next htype =>
          cases h
          exact ⟨declaration, head, hwritten, TypeHead.ofName?_eq_some_iff.mp hhead,
            (typeOf_eq_ok_iff hwritten.second_eq_none).mp htype⟩
  · rintro ⟨declaration, head, hwritten, hhead, hdenotes⟩
    rw [Declaration.ofNormalized_eq_ok_iff.mpr hwritten]
    dsimp only
    rw [TypeHead.ofName?_eq_some_iff.mpr hhead]
    dsimp only
    rw [(typeOf_eq_ok_iff hwritten.second_eq_none).mpr hdenotes]

/-- **The grammar.** A text is read as a type if and only if its normal form is put together as a
declaration, the name is one of the kind, and types of the kind take the parameters and the qualifier,
which make it the type. -/
theorem parse_eq_ok_iff_written (raw : String) (type : ColumnType) :
    parse raw = .ok type ↔ ∃ text declaration head, NormalForm raw.toList text ∧
      Written text declaration ∧ String.ofList declaration.name ∈ TypeHead.names head ∧
        Denotes declaration head type := by
  rw [parse, ofNormalized_eq_ok_iff]
  simp only [TypeHead.mem_aliases_iff]
  constructor
  · rintro ⟨declaration, head, h⟩
    exact ⟨normalize raw.toList, declaration, head, normalForm_iff.mpr rfl, h⟩
  · rintro ⟨text, declaration, head, hnormal, h⟩
    exact ⟨declaration, head, (normalForm_iff.mp hnormal).symm ▸ h⟩

/-- White space stands around all pieces and between the two words of the name. -/
theorem parse_eq_ok_iff_written_of_two_words :
    let raw := " Character\t Varying ( 5 )\n"
    let text := "varchar ( 5 )".toList
    let declaration : Declaration := ⟨"varchar".toList, some 5, none, none⟩
    NormalForm raw.toList text ∧ Written text declaration ∧ "varchar" ∈ TypeHead.names .varChar ∧
      Denotes declaration .varChar (.varChar (some 5)) ∧ parse raw = .ok (.varChar (some 5)) := by
  intro raw text declaration
  have hnormal : NormalForm raw.toList text := normalForm_iff.mpr (by decide +kernel)
  have hparameter : ParameterText ([' '] ++ ['5'] ++ [' ']) 5 :=
    .mk rfl (by decide) (List.forall_mem_singleton.mpr (by decide)) (by decide) rfl
  have hparameters : LeadingText "( 5 )".toList (some 5) none := .present (.one hparameter)
  have hwritten : Written ("varchar".toList ++ ([' '] ++ "( 5 )".toList ++ [] ++ [])) declaration :=
    .mk (by decide) rfl hparameters rfl .bare (by decide)
  have hname : "varchar" ∈ TypeHead.names .varChar := List.mem_cons_self
  have hdenotes : Denotes declaration .varChar (.varChar (some 5)) := .varChar
  refine ⟨hnormal, hwritten, hname, hdenotes, ?_⟩
  exact (parse_eq_ok_iff_written raw _).mpr
    ⟨text, declaration, .varChar, hnormal, hwritten, hname, hdenotes⟩

end ColumnType

end SyntheticRows
