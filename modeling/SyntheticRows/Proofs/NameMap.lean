import Mathlib.Data.List.Sort
import SyntheticRows.NameMap
/-!
# Looking up names

A map is known by its look-ups: an insertion changes the look-up of its own name and of no other.
-/

namespace SyntheticRows.NameMap

variable {α : Type}

theorem lookup_cons_eq_ite (key other : String) (value : α) (entries : List (String × α)) :
    ((key, value) :: entries).lookup other =
      if other = key then some value else entries.lookup other := by
  rw [List.lookup_cons]
  by_cases heq : other = key
  · simp [heq]
  · have hne : (other == key) = false := by simpa using heq
    simp [heq, hne]

theorem lookup_eq_none_of_notMem {name : String} {entries : List (String × α)}
    (h : name ∉ entries.map (·.1)) : entries.lookup name = none := by
  rw [List.lookup_eq_none_iff]
  intro entry hmem
  have hkey : entry.1 ∈ entries.map (·.1) := List.mem_map_of_mem hmem
  have hne : name ≠ entry.1 := fun heq => h (heq ▸ hkey)
  simpa using hne

theorem lookup_insertEntry (name other : String) (value : α) (entries : List (String × α)) :
    (insertEntry name value entries).lookup other =
      if other = name then some value else entries.lookup other := by
  induction entries with
  | nil => rw [insertEntry, lookup_cons_eq_ite]
  | cons entry entries ih =>
      obtain ⟨key, old⟩ := entry
      unfold insertEntry
      split
      · rw [lookup_cons_eq_ite]
      split
      · next hsame =>
          subst hsame
          by_cases heq : other = name <;> simp [lookup_cons_eq_ite, heq]
      · next hsame =>
          rw [lookup_cons_eq_ite, lookup_cons_eq_ite, ih]
          by_cases heq : other = name <;> simp [heq, hsame]

@[simp]
theorem get?_empty (name : String) : (empty : NameMap α).get? name = none := rfl

theorem get?_insert (map : NameMap α) (name other : String) (value : α) :
    (map.insert name value).get? other = if other = name then some value else map.get? other :=
  lookup_insertEntry name other value map.entries

theorem any_eq_isSome_lookup (name : String) (entries : List (String × α)) :
    entries.any (·.1 == name) = (entries.lookup name).isSome := by
  induction entries with
  | nil => rfl
  | cons entry entries ih =>
      obtain ⟨key, value⟩ := entry
      rw [List.any_cons, lookup_cons_eq_ite, ih]
      by_cases heq : key = name
      · simp [heq]
      · have hne : (key == name) = false := by simpa using heq
        simp [hne, Ne.symm heq]

/-- An insertion of a new name leaves the values that are there. -/
theorem get?_insertIfNew (map : NameMap α) (name other : String) (value : α) :
    (map.insertIfNew name value).get? other =
      if other = name then some ((map.get? name).getD value) else map.get? other := by
  have hany : map.entries.any (·.1 == name) = (map.get? name).isSome :=
    any_eq_isSome_lookup name map.entries
  unfold insertIfNew
  rw [hany]
  cases hfound : map.get? name with
  | none => simp [get?_insert]
  | some old =>
      by_cases heq : other = name
      · simp [heq, hfound]
      · simp [heq]

theorem get?_eq_some_iff_mem {map : NameMap α} {name : String} {value : α} :
    map.get? name = some value ↔ (name, value) ∈ map.entries := by
  rw [get?, List.lookup_eq_some_iff]
  constructor
  · rintro ⟨front, back, hentries, _⟩
    rw [hentries]
    exact List.mem_append_right _ List.mem_cons_self
  · intro hmem
    obtain ⟨front, back, hentries⟩ := List.append_of_mem hmem
    refine ⟨front, back, hentries, fun other hother => ?_⟩
    have hascending := map.ascending
    rw [hentries, List.map_append, List.pairwise_append] at hascending
    have hlt := hascending.2.2 other.1 (List.mem_map_of_mem hother) name (by simp)
    simpa using (Std.ne_of_lt hlt).symm

theorem lookup_toFields {δ : Type} (encode : α → δ) (map : NameMap α) (name : String) :
    (map.toFields encode).lookup name = (map.get? name).map encode := by
  unfold toFields get?
  induction map.entries with
  | nil => rfl
  | cons entry entries ih =>
      obtain ⟨key, value⟩ := entry
      rw [List.map_cons, lookup_cons_eq_ite, lookup_cons_eq_ite, ih]
      split <;> rfl

theorem mem_keys_iff {map : NameMap α} {name : String} :
    name ∈ map.keys ↔ ∃ value, map.get? name = some value := by
  simp [keys, get?_eq_some_iff_mem]

theorem mem_keys_insert {map : NameMap α} {name other : String} {value : α} :
    other ∈ (map.insert name value).keys ↔ other = name ∨ other ∈ map.keys := by
  rw [mem_keys_iff, mem_keys_iff, get?_insert]
  by_cases heq : other = name <;> simp [heq]

/-- An entry stands in front of another one, is that one, or has a greater name. -/
theorem mem_entries_cases {map : NameMap α} {front back : List (String × α)} {name : String}
    {value : α} (h : map.entries = front ++ (name, value) :: back) {other : String × α}
    (hmem : other ∈ map.entries) : other ∈ front ∨ other = (name, value) ∨ name < other.1 := by
  have hascending := map.ascending
  rw [h, List.map_append, List.map_cons, List.pairwise_append, List.pairwise_cons] at hascending
  rw [h, List.mem_append, List.mem_cons] at hmem
  exact hmem.imp_right (.imp_right fun hback =>
    hascending.2.1.1 other.1 (List.mem_map_of_mem hback))

/-! ### Entries of agreeing maps -/

/-- Maps that agree on some names have the same entries of these names. -/
theorem filter_entries_congr {map map' : NameMap α} {keep : String → Bool}
    (h : ∀ name, keep name = true → map.get? name = map'.get? name) :
    map.entries.filter (keep ·.1) = map'.entries.filter (keep ·.1) := by
  have hantisymm : Std.Antisymm fun first second : String × α => first.1 < second.1 :=
    ⟨fun _ _ hlt hgt => absurd hgt (Std.not_lt.mpr (Std.le_of_lt hlt))⟩
  have hirrefl : Std.Irrefl fun first second : String × α => first.1 < second.1 :=
    ⟨fun first => String.lt_irrefl first.1⟩
  have hascending : ∀ map : NameMap α,
      (map.entries.filter (keep ·.1)).Pairwise (fun first second => first.1 < second.1) :=
    fun map => (List.pairwise_map.mp map.ascending).filter _
  refine (hascending map).eq_of_mem_iff (hascending map') fun entry => ?_
  rw [List.mem_filter, List.mem_filter]
  refine and_congr_left fun hkeep => ?_
  rw [← get?_eq_some_iff_mem, ← get?_eq_some_iff_mem, h entry.1 hkeep]

/-! ### Maps from their entries -/

theorem insertEntry_of_forall_lt {name : String} {entries : List (String × α)}
    (h : ∀ key ∈ entries.map (·.1), key < name) (value : α) :
    insertEntry name value entries = entries ++ [(name, value)] := by
  induction entries with
  | nil => rfl
  | cons entry entries ih =>
      obtain ⟨key, old⟩ := entry
      obtain ⟨hkey, hkeys⟩ := List.forall_mem_cons.mp h
      have hlt : ¬name < key := Std.not_lt.mpr (Std.le_of_lt hkey)
      have hne : name ≠ key := (Std.ne_of_lt hkey).symm
      rw [insertEntry, if_neg hlt, if_neg hne, ih hkeys]
      rfl

/-- Entries in the order of their names are inserted one behind the other. -/
theorem entries_foldl_insert {map : NameMap α} {entries : List (String × α)}
    (h : ((map.entries ++ entries).map (·.1)).Pairwise (· < ·)) :
    (entries.foldl (fun map entry => map.insert entry.1 entry.2) map).entries =
      map.entries ++ entries := by
  induction entries generalizing map with
  | nil => simp
  | cons entry entries ih =>
      have hlt : ∀ key ∈ map.entries.map (·.1), key < entry.1 := by
        rw [List.map_append, List.map_cons, List.pairwise_append] at h
        exact fun key hkey => h.2.2 key hkey entry.1 List.mem_cons_self
      have hinsert : (map.insert entry.1 entry.2).entries = map.entries ++ [entry] :=
        insertEntry_of_forall_lt hlt entry.2
      rw [List.foldl_cons, ih, hinsert, List.append_assoc, List.singleton_append]
      rw [hinsert, List.append_assoc, List.singleton_append]
      exact h

theorem eq_of_entries_eq {map map' : NameMap α} (h : map.entries = map'.entries) : map = map' := by
  cases map
  cases map'
  cases h
  rfl

theorem ofList_entries (map : NameMap α) : ofList map.entries = map :=
  eq_of_entries_eq (@entries_foldl_insert _ empty map.entries map.ascending)

/-! ### Two maps as one -/

theorem get?_foldl_insert {entries : List (String × α)} (h : (entries.map (·.1)).Nodup)
    (valueOf : String → α → α) (map : NameMap α) (name : String) :
    (entries.foldl (fun map entry => map.insert entry.1 (valueOf entry.1 entry.2)) map).get? name =
      ((entries.lookup name).map (valueOf name)).or (map.get? name) := by
  induction entries generalizing map with
  | nil => rfl
  | cons entry entries ih =>
      obtain ⟨key, value⟩ := entry
      rw [List.map_cons, List.nodup_cons] at h
      rw [List.foldl_cons, ih h.2, get?_insert, lookup_cons_eq_ite]
      by_cases heq : name = key
      · subst heq
        simp [lookup_eq_none_of_notMem h.1]
      · simp [heq]

/-- The values of both maps, combined where both have one for a name. -/
def mergeWith (combine : α → α → α) (map other : NameMap α) : NameMap α :=
  other.entries.foldl (fun merged entry => merged.insert entry.1
    (((map.get? entry.1).map (combine · entry.2)).getD entry.2)) map

theorem get?_mergeWith (combine : α → α → α) (map other : NameMap α) (name : String) :
    (map.mergeWith combine other).get? name =
      Option.merge combine (map.get? name) (other.get? name) := by
  have hmerged := get?_foldl_insert (other.ascending.imp Std.ne_of_lt)
    (fun name value => ((map.get? name).map (combine · value)).getD value) map name
  rw [mergeWith, hmerged, get?, get?]
  cases map.entries.lookup name <;> cases other.entries.lookup name <;> rfl

/-! ### Names below a bound -/

/-- The entries of the names below a bound. -/
def below (map : NameMap α) (bound : String) : NameMap α :=
  { entries := map.entries.filter (·.1 < bound)
    ascending := map.ascending.sublist (List.filter_sublist.map _) }

theorem mem_entries_below {map : NameMap α} {bound : String} {entry : String × α} :
    entry ∈ (map.below bound).entries ↔ entry ∈ map.entries ∧ entry.1 < bound := by
  simp [below]

theorem get?_below_of_lt {map : NameMap α} {bound name : String} (h : name < bound) :
    (map.below bound).get? name = map.get? name := by
  apply Option.ext
  intro value
  rw [get?_eq_some_iff_mem, get?_eq_some_iff_mem, mem_entries_below]
  exact and_iff_left h

theorem get?_below_of_not_lt {map : NameMap α} {bound name : String} (h : ¬name < bound) :
    (map.below bound).get? name = none := by
  apply Option.eq_none_iff_forall_not_mem.mpr
  intro value hvalue
  exact h (mem_entries_below.mp (get?_eq_some_iff_mem.mp hvalue)).2

/-- The entries below a name stand in front of it. -/
theorem entries_below_of_append {map : NameMap α} {front back : List (String × α)} {name : String}
    {value : α} (h : map.entries = front ++ (name, value) :: back) :
    (map.below name).entries = front := by
  have hascending := map.ascending
  rw [h, List.map_append, List.map_cons, List.pairwise_append, List.pairwise_cons] at hascending
  obtain ⟨_, ⟨hback, _⟩, hfront⟩ := hascending
  have hkept : front.filter (·.1 < name) = front := by
    refine List.filter_eq_self.mpr fun entry hmem => ?_
    simpa using hfront entry.1 (List.mem_map_of_mem hmem) name List.mem_cons_self
  have hdropped : back.filter (·.1 < name) = [] := by
    refine List.filter_eq_nil_iff.mpr fun entry hmem => ?_
    simpa using Std.not_lt.mpr (Std.le_of_lt (hback entry.1 (List.mem_map_of_mem hmem)))
  change map.entries.filter (·.1 < name) = front
  rw [h, List.filter_append, hkept, List.filter_cons_of_neg (by simp),
    hdropped, List.append_nil]

end SyntheticRows.NameMap
