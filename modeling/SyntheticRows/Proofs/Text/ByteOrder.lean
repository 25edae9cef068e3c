import Mathlib.Tactic.SplitIfs
/-!
# Texts are ordered by their bytes

Characters with greater codes have greater encodings, and the first byte that differs is within both
of them. So the order of texts by their characters is the order of their bytes.
-/

namespace SyntheticRows.Text

def bytes (text : String) : List UInt8 :=
  text.toUTF8.data.toList

theorem bytes_eq_flatMap (text : String) :
    bytes text = text.toList.flatMap String.utf8EncodeChar := by
  rw [bytes, String.toUTF8_eq_toByteArray, ← String.utf8Encode_toList, List.utf8Encode,
    List.data_toByteArray]

/-- Whatever follows, the encoding of a lower character comes first. -/
theorem utf8EncodeChar_append_lt {low high : Char} (h : low < high) (back back' : List UInt8) :
    String.utf8EncodeChar low ++ back < String.utf8EncodeChar high ++ back' := by
  have hcodes : low.val.toNat < high.val.toNat := h
  have hbelow : high.val.toNat < 1114112 := by
    rcases high.valid with hvalid | ⟨_, hvalid⟩ <;> omega
  unfold String.utf8EncodeChar
  generalize low.val.toNat = code at hcodes ⊢
  generalize high.val.toNat = code' at hcodes hbelow ⊢
  -- The digits of a code, each a quotient of the one above, keep the comparisons linear.
  have hdigits : ∀ code : Nat,
      code / 4096 = code / 64 / 64 ∧ code / 262144 = code / 64 / 64 / 64 := by omega
  simp only [hdigits]
  split_ifs <;>
    simp only [List.cons_append, List.nil_append, List.cons_lt_cons_iff, UInt8.lt_iff_toNat_lt,
      ← UInt8.toNat_inj, UInt8.toNat_ofNat'] <;> omega

theorem flatMap_utf8EncodeChar_lt {low high : List Char} (h : low < high) :
    low.flatMap String.utf8EncodeChar < high.flatMap String.utf8EncodeChar := by
  induction low generalizing high with
  | nil =>
      cases high with
      | nil => exact absurd h (List.lt_irrefl [])
      | cons first high =>
          have hsome : String.utf8EncodeChar first ≠ [] := by
            rw [← List.length_pos_iff, String.length_utf8EncodeChar]
            exact first.utf8Size_pos
          obtain ⟨byte, rest, hbytes⟩ := List.exists_cons_of_ne_nil hsome
          rw [List.flatMap_nil, List.flatMap_cons, hbytes]
          exact List.nil_lt_cons byte _
  | cons first low ih =>
      cases high with
      | nil => cases h
      | cons first' high =>
          rw [List.flatMap_cons, List.flatMap_cons]
          rcases List.cons_lt_cons_iff.mp h with hfirst | ⟨rfl, hrest⟩
          · exact utf8EncodeChar_append_lt hfirst _ _
          · exact List.append_left_lt (ih hrest)

theorem lt_iff_bytes_lt {left right : String} : left < right ↔ bytes left < bytes right := by
  have hmono : ∀ {low high : String}, low < high → bytes low < bytes high := by
    intro low high h
    rw [bytes_eq_flatMap, bytes_eq_flatMap]
    exact flatMap_utf8EncodeChar_lt h
  refine ⟨hmono, fun h => ?_⟩
  rcases Std.lt_trichotomy left right with hlt | rfl | hgt
  · exact hlt
  · exact absurd h (List.lt_irrefl _)
  · exact absurd h (List.lt_asymm (hmono hgt))

theorem le_iff_bytes_le {left right : String} : left ≤ right ↔ bytes left ≤ bytes right :=
  not_congr lt_iff_bytes_lt

end SyntheticRows.Text
