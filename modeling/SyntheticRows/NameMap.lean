/-!
Finite maps from names, kept in the order of the names. Names are compared by the codes of their
characters, which is also the order of their bytes.
-/

namespace SyntheticRows

structure NameMap (α : Type) where
  entries : List (String × α)
  ascending : (entries.map (·.1)).Pairwise (· < ·)
  deriving DecidableEq

namespace NameMap

variable {α : Type}

def empty : NameMap α :=
  { entries := [], ascending := .nil }

instance : Inhabited (NameMap α) := ⟨empty⟩

def insertEntry (name : String) (value : α) : List (String × α) → List (String × α)
  | [] => [(name, value)]
  | (other, old) :: entries =>
      if name < other then (name, value) :: (other, old) :: entries
      else if name = other then (name, value) :: entries
      else (other, old) :: insertEntry name value entries

theorem mem_keys_insertEntry {name key : String} {value : α} {entries : List (String × α)}
    (h : key ∈ (insertEntry name value entries).map (·.1)) :
    key = name ∨ key ∈ entries.map (·.1) := by
  induction entries with
  | nil => simpa [insertEntry] using h
  | cons entry entries ih =>
      obtain ⟨other, old⟩ := entry
      unfold insertEntry at h
      split at h
      · simpa using h
      · split at h
        · simp only [List.map_cons, List.mem_cons] at h ⊢
          exact h.imp_right .inr
        · simp only [List.map_cons, List.mem_cons] at h ⊢
          rcases h with h | h
          · exact .inr (.inl h)
          · exact (ih h).imp_right .inr

theorem lt_of_not_lt_of_ne {left right : String} (hlt : ¬left < right) (hne : left ≠ right) :
    right < left :=
  Std.lt_of_le_of_ne (Std.not_lt.mp hlt) hne.symm

theorem ascending_insertEntry (name : String) (value : α) (entries : List (String × α))
    (h : (entries.map (·.1)).Pairwise (· < ·)) :
    ((insertEntry name value entries).map (·.1)).Pairwise (· < ·) := by
  induction entries with
  | nil => simp [insertEntry]
  | cons entry entries ih =>
      obtain ⟨other, old⟩ := entry
      simp only [List.map_cons, List.pairwise_cons] at h
      unfold insertEntry
      split
      · next hlt =>
          simp only [List.map_cons, List.pairwise_cons, List.mem_cons]
          refine ⟨?_, h⟩
          rintro key (rfl | hkey)
          · exact hlt
          · exact String.lt_trans hlt (h.1 key hkey)
      · next hlt =>
          split
          · next heq =>
              subst heq
              simpa using h
          · next hne =>
              simp only [List.map_cons, List.pairwise_cons]
              refine ⟨fun key hkey => ?_, ih h.2⟩
              rcases mem_keys_insertEntry hkey with rfl | hkey
              · exact lt_of_not_lt_of_ne hlt hne
              · exact h.1 key hkey

def insert (map : NameMap α) (name : String) (value : α) : NameMap α :=
  { entries := insertEntry name value map.entries
    ascending := ascending_insertEntry name value map.entries map.ascending }

/-- Inserts a value unless the name has one. -/
def insertIfNew (map : NameMap α) (name : String) (value : α) : NameMap α :=
  if map.entries.any (·.1 == name) then map else map.insert name value

def get? (map : NameMap α) (name : String) : Option α :=
  map.entries.lookup name

def keys (map : NameMap α) : List String :=
  map.entries.map (·.1)

/-- The last of several values of one name stays. -/
def ofList (entries : List (String × α)) : NameMap α :=
  entries.foldl (fun map entry => map.insert entry.1 entry.2) empty

/-- The names with a form of their values. -/
def toFields {δ : Type} (encode : α → δ) (map : NameMap α) : List (String × δ) :=
  map.entries.map fun (name, value) => (name, encode value)

end NameMap

end SyntheticRows
