import SyntheticRows.Text.InQuotes
/-!
# Reading names in quotes

A quote inside a name is written twice, so the first quote that stands alone closes the name. A name
in quotes is read back from any text that does not go on with another quote, and from no other text.
-/

namespace SyntheticRows.Text

/-- The name up to the quote that closes it, and what follows that quote. -/
def closeQuotes? : List Char → Option (List Char × List Char)
  | [] => none
  | '"' :: '"' :: text => (closeQuotes? text).map fun (name, rest) => ('"' :: name, rest)
  | '"' :: text => some ([], text)
  | c :: text => (closeQuotes? text).map fun (name, rest) => (c :: name, rest)

def quotedName? : List Char → Option (List Char × List Char)
  | '"' :: text => closeQuotes? text
  | _ => none

variable {text name rest : List Char}

theorem doubleQuotes_cons (c : Char) (name : List Char) :
    doubleQuotes (c :: name) = (if c = '"' then ['"', '"'] else [c]) ++ doubleQuotes name :=
  List.flatMap_cons

theorem eq_of_closeQuotes?_eq_some (h : closeQuotes? text = some (name, rest)) :
    text = doubleQuotes name ++ '"' :: rest ∧ rest.head? ≠ some '"' := by
  fun_induction closeQuotes? text generalizing name with
  | case1 => cases h
  | case2 text ih =>
      obtain ⟨⟨inner, after⟩, hinner, heq⟩ := Option.map_eq_some_iff.mp h
      obtain ⟨rfl, rfl⟩ := Prod.mk.inj heq
      obtain ⟨rfl, hrest⟩ := ih hinner
      exact ⟨rfl, hrest⟩
  | case3 text halone =>
      obtain ⟨rfl, rfl⟩ := Prod.mk.inj (Option.some.inj h)
      refine ⟨rfl, fun hhead => ?_⟩
      obtain ⟨after, rfl⟩ := List.head?_eq_some_iff.mp hhead
      exact halone after rfl
  | case4 c text _ hother ih =>
      obtain ⟨⟨inner, after⟩, hinner, heq⟩ := Option.map_eq_some_iff.mp h
      obtain ⟨rfl, rfl⟩ := Prod.mk.inj heq
      obtain ⟨rfl, hrest⟩ := ih hinner
      have hc : c ≠ '"' := hother
      refine ⟨?_, hrest⟩
      rw [doubleQuotes_cons, if_neg hc]
      rfl

theorem closeQuotes?_doubleQuotes (name : List Char) (hrest : rest.head? ≠ some '"') :
    closeQuotes? (doubleQuotes name ++ '"' :: rest) = some (name, rest) := by
  induction name with
  | nil =>
      cases rest with
      | nil => rfl
      | cons c rest =>
          have hc : c ≠ '"' := fun hc => hrest (congrArg some hc)
          simp [doubleQuotes, closeQuotes?, hc]
  | cons c name ih =>
      rw [doubleQuotes_cons, List.append_assoc]
      by_cases hc : c = '"'
      · rw [if_pos hc, hc, List.cons_append, List.cons_append, List.nil_append, closeQuotes?, ih]
        rfl
      · simp [closeQuotes?, hc, ih]

theorem closeQuotes?_eq_some_iff :
    closeQuotes? text = some (name, rest) ↔
      text = doubleQuotes name ++ '"' :: rest ∧ rest.head? ≠ some '"' := by
  refine ⟨eq_of_closeQuotes?_eq_some, ?_⟩
  rintro ⟨rfl, hrest⟩
  exact closeQuotes?_doubleQuotes name hrest

theorem quotedName?_eq_some_iff :
    quotedName? text = some (name, rest) ↔
      text = inQuotes name ++ rest ∧ rest.head? ≠ some '"' := by
  have hquoted : inQuotes name ++ rest = '"' :: (doubleQuotes name ++ '"' :: rest) := by
    simp [inQuotes]
  unfold quotedName?
  split
  next text => rw [hquoted, List.cons.injEq, closeQuotes?_eq_some_iff, and_iff_right rfl]
  next hopen =>
    refine ⟨fun h => ?_, ?_⟩
    · cases h
    · rintro ⟨htext, -⟩
      exact absurd (htext.trans hquoted) (hopen _)

end SyntheticRows.Text
