import SyntheticRows.Json.Record
import SyntheticRows.Proofs.Json.ReadBack
import SyntheticRows.Proofs.NameMap
import SyntheticRows.Rule.Config
/-!
# Decoding what was encoded

A form of values is readable if its documents have whole numerals and a decoder takes each value
from its document. Lists, absent values and names with values are readable if what they hold is, and
a record is readable field by field, as the names of its fields tell them apart.
-/

namespace SyntheticRows

/-! ### Known fields -/

section KnownFields

variable {α : Type} {name : String} {spellings : List String} {value : α}
  {names : List (List String)} {fields : List (String × α)}

@[simp]
theorem fieldValues_nil : fieldValues ([] : List (String × α)) spellings = [] := rfl

@[simp]
theorem fieldValues_cons :
    fieldValues ((name, value) :: fields) spellings =
      if name ∈ spellings then value :: fieldValues fields spellings
      else fieldValues fields spellings := by
  by_cases h : name ∈ spellings <;> simp [fieldValues, h]

@[simp]
theorem knownFields?_nil : knownFields? [] fields = some [] := rfl

@[simp]
theorem knownFields?_cons :
    knownFields? (spellings :: names) fields =
      (atMostOne? (fieldValues fields spellings)).bind fun value =>
        (knownFields? names fields).map (value :: ·) := by
  simp [knownFields?, Option.map_eq_bind]

@[simp]
theorem atMostOne?_nil : atMostOne? ([] : List α) = some none := rfl

@[simp]
theorem atMostOne?_singleton : atMostOne? [value] = some (some value) := rfl

end KnownFields

namespace Json

@[simp]
theorem objectRecord?_object (names : List (List String)) (fields : List (String × Json)) :
    objectRecord? names (object fields) = knownFields? names fields := rfl

@[simp]
theorem record?_object (names : List (List String)) (required : Nat)
    (fields : List (String × Json)) :
    record? names required (object fields) = knownFields? names fields := rfl

/-! ### Readable forms -/

variable {α : Type} {encode : α → Json} {decode : Json → Option α}

/-- Every value has a document with whole numerals, from which the decoder takes it again. -/
structure Readable (encode : α → Json) (decode : Json → Option α) : Prop where
  whole : ∀ value, Whole (encode value)
  decode_encode : ∀ value, decode (encode value) = some value

theorem Readable.read?_pretty (h : Readable encode decode) (value : α) :
    (read? (encode value).pretty).bind decode = some value := by
  rw [Json.read?_pretty (h.whole value)]
  exact h.decode_encode value

theorem readable_string : Readable string string? :=
  ⟨.string, fun _ => rfl⟩

theorem inRange_of_lt {n size : Nat} (h : n < size) :
    (decide (0 ≤ (n : Int)) && decide ((n : Int).toNat < size)) = true := by
  rw [Int.toNat_natCast, Bool.and_eq_true_iff]
  exact ⟨decide_eq_true (Int.natCast_nonneg n), decide_eq_true h⟩

theorem readable_unsigned32 : Readable (fun n : UInt32 => natural n.toNat) unsigned32? where
  whole n := .integer n.toNat
  decode_encode n :=
    (if_pos (inRange_of_lt n.toNat_lt_size)).trans (congrArg some n.ofNat_toNat)

theorem readable_unsigned64 : Readable (fun n : UInt64 => natural n.toNat) unsigned64? where
  whole n := .integer n.toNat
  decode_encode n :=
    (if_pos (inRange_of_lt n.toNat_lt_size)).trans (congrArg some n.ofNat_toNat)

/-- What is decoded one by one is decoded as a list. -/
theorem mapM_map_eq_some {β γ : Type} {f : β → γ} {g : γ → Option β} {values : List β}
    (h : ∀ value ∈ values, g (f value) = some value) : (values.map f).mapM g = some values := by
  induction values with
  | nil => rfl
  | cons value values ih =>
      obtain ⟨hvalue, hvalues⟩ := List.forall_mem_cons.mp h
      simp [hvalue, ih hvalues]

theorem Readable.list (h : Readable encode decode) :
    Readable (fun values => array (values.map encode)) (list? decode) where
  whole values := by
    refine .array fun item hitem => ?_
    obtain ⟨value, -, rfl⟩ := List.mem_map.mp hitem
    exact h.whole value
  decode_encode values := mapM_map_eq_some fun value _ => h.decode_encode value

theorem readable_strings : Readable strings (list? string?) :=
  readable_string.list

theorem Readable.optional (h : Readable encode decode) (hnull : decode null = none) :
    Readable (Json.optional encode) (fun document => nullable? decode (some document)) where
  whole value := by
    cases value with
    | none => exact .null
    | some value => exact h.whole value
  decode_encode value := by
    cases value with
    | none => rfl
    | some value =>
        have hread := h.decode_encode value
        dsimp only [Json.optional]
        unfold nullable?
        split
        next hsome => cases hsome
        next hsome =>
          rw [Option.some.inj hsome, hnull] at hread
          cases hread
        next hsome =>
          rw [← Option.some.inj hsome, hread]
          rfl

/-! ### Names with values -/

theorem Readable.nameMap (h : Readable encode decode) :
    Readable (fun map : NameMap α => object (map.toFields encode)) (nameMap? decode) where
  whole map := by
    refine .object fun field hfield => ?_
    obtain ⟨entry, -, rfl⟩ := List.mem_map.mp hfield
    exact h.whole entry.2
  decode_encode map := by
    have hentries : entries? decode (object (map.toFields encode)) = some map.entries :=
      mapM_map_eq_some fun entry _ => by simp [h.decode_encode]
    simp [nameMap?, hentries, NameMap.ofList_entries]

end Json

end SyntheticRows
