import SyntheticRows.Proofs.Text.Cut
/-!
# Trimmed and collapsed texts

A text is its trimmed form with white space on both sides, and of all forms with white space around
them only the trimmed one has none at its ends. The words of a text are the stretches between its
white space. Collapsing leaves words alone that stand one space apart.
-/

namespace SyntheticRows.Text

variable {text gap : List Char}

/-- No end of the text is blank. -/
structure Trimmed (text : List Char) : Prop where
  first : ∀ c ∈ text.head?, isBlank c = false
  last : ∀ c ∈ text.getLast?, isBlank c = false

theorem all_not_isBlank_iff {outermost : Option Char} :
    outermost.all (!isBlank ·) = true ↔ ∀ c ∈ outermost, isBlank c = false := by
  cases outermost <;> simp

instance (text : List Char) : Decidable (Trimmed text) :=
  decidable_of_iff (text.head?.all (!isBlank ·) = true ∧ text.getLast?.all (!isBlank ·) = true)
    ⟨fun ⟨first, last⟩ => ⟨all_not_isBlank_iff.mp first, all_not_isBlank_iff.mp last⟩,
      fun ⟨first, last⟩ => ⟨all_not_isBlank_iff.mpr first, all_not_isBlank_iff.mpr last⟩⟩

theorem trimmed_of_forall (h : ∀ c ∈ text, isBlank c = false) : Trimmed text :=
  ⟨fun c hc => h c (List.mem_of_mem_head? hc), fun c hc => h c (List.mem_of_mem_getLast? hc)⟩

theorem trimmed_between {first last : Char} (hfirst : isBlank first = false)
    (hlast : isBlank last = false) (inner : List Char) : Trimmed (first :: (inner ++ [last])) := by
  refine ⟨fun c hc => ?_, fun c hc => ?_⟩
  · exact Option.some.inj hc ▸ hfirst
  · rw [← List.cons_append, List.getLast?_concat] at hc
    exact Option.some.inj hc ▸ hlast

theorem allBlank_iff : allBlank gap = true ↔ ∀ c ∈ gap, isBlank c = true :=
  List.all_eq_true

theorem notMem_of_allBlank (h : allBlank gap = true) {c : Char} (hc : isBlank c = false) :
    c ∉ gap := by
  intro hmem
  cases hc.symm.trans (allBlank_iff.mp h c hmem)

theorem notMem_between_blanks {front core back : List Char} (hfront : allBlank front = true)
    (hback : allBlank back = true) {c : Char} (hc : isBlank c = false) (hcore : c ∉ core) :
    c ∉ front ++ core ++ back := by
  have hfree := notMem_of_allBlank hfront hc
  have hfree' := notMem_of_allBlank hback hc
  simp [hfree, hcore, hfree']

theorem trimStart_append_of_allBlank (h : allBlank gap) (text : List Char) :
    trimStart (gap ++ text) = trimStart text :=
  List.dropWhile_append_of_pos (allBlank_iff.mp h)

theorem trimStart_eq_self (h : ∀ c ∈ text.head?, isBlank c = false) : trimStart text = text := by
  cases text with
  | nil => rfl
  | cons c text => exact List.dropWhile_cons_of_neg (by simp [h c rfl])

theorem trimEnd_append_of_allBlank (h : allBlank gap) (text : List Char) :
    trimEnd (text ++ gap) = trimEnd text := by
  have hreverse : ∀ c ∈ gap.reverse, isBlank c = true := fun c hc =>
    allBlank_iff.mp h c (List.mem_reverse.mp hc)
  rw [trimEnd, trimEnd, List.reverse_append, List.dropWhile_append_of_pos hreverse]

theorem trimEnd_eq_self (h : ∀ c ∈ text.getLast?, isBlank c = false) : trimEnd text = text := by
  have hreverse : text.reverse.dropWhile isBlank = text.reverse := by
    apply trimStart_eq_self
    rwa [List.head?_reverse]
  rw [trimEnd, hreverse, List.reverse_reverse]

theorem exists_eq_append_trimStart (text : List Char) :
    ∃ gap, allBlank gap = true ∧ text = gap ++ trimStart text := by
  refine ⟨text.takeWhile isBlank, ?_, List.takeWhile_append_dropWhile.symm⟩
  exact allBlank_iff.mpr fun c hc => List.all_eq_true.mp List.all_takeWhile c hc

theorem exists_eq_trimEnd_append (text : List Char) :
    ∃ gap, allBlank gap = true ∧ text = trimEnd text ++ gap := by
  obtain ⟨gap, hgap, heq⟩ := exists_eq_append_trimStart text.reverse
  refine ⟨gap.reverse, ?_, ?_⟩
  · rw [allBlank_iff] at hgap ⊢
    exact fun c hc => hgap c (List.mem_reverse.mp hc)
  · have hreverse := congrArg List.reverse heq
    rwa [List.reverse_reverse, List.reverse_append] at hreverse

theorem first_trimStart (text : List Char) : ∀ c ∈ (trimStart text).head?, isBlank c = false :=
  head?_dropWhile_eq_false isBlank text

theorem last_trimEnd (text : List Char) : ∀ c ∈ (trimEnd text).getLast?, isBlank c = false := by
  intro c hc
  rw [trimEnd, List.getLast?_reverse] at hc
  exact first_trimStart text.reverse c hc

theorem head?_trimEnd (h : ∀ c ∈ text.head?, isBlank c = false) :
    (trimEnd text).head? = text.head? := by
  obtain ⟨gap, hgap, htext⟩ := exists_eq_trimEnd_append text
  cases hcore : trimEnd text with
  | cons c core => rw [htext, hcore, List.cons_append, List.head?_cons, List.head?_cons]
  | nil =>
      rw [hcore, List.nil_append] at htext
      subst htext
      cases text with
      | nil => rfl
      | cons c text => cases (h c rfl).symm.trans (allBlank_iff.mp hgap c List.mem_cons_self)

theorem trimmed_trimEnd (h : ∀ c ∈ text.head?, isBlank c = false) : Trimmed (trimEnd text) :=
  ⟨head?_trimEnd h ▸ h, last_trimEnd text⟩

theorem trimmed_trim (text : List Char) : Trimmed (trim text) :=
  trimmed_trimEnd (first_trimStart text)

/-- The trimmed form is the one text without blank ends that white space surrounds. -/
theorem trim_eq_iff {core : List Char} :
    trim text = core ↔ Trimmed core ∧ ∃ front back, allBlank front = true ∧ allBlank back = true ∧
      text = front ++ core ++ back := by
  constructor
  · rintro rfl
    obtain ⟨front, hfront, htext⟩ := exists_eq_append_trimStart text
    obtain ⟨back, hback, hcore⟩ := exists_eq_trimEnd_append (trimStart text)
    refine ⟨trimmed_trim text, front, back, hfront, hback, ?_⟩
    calc text = front ++ trimStart text := htext
      _ = front ++ (trim text ++ back) := congrArg (front ++ ·) hcore
      _ = front ++ trim text ++ back := (List.append_assoc _ _ _).symm
  · rintro ⟨⟨hfirst, hlast⟩, front, back, hfront, hback, rfl⟩
    rw [trim, List.append_assoc, trimStart_append_of_allBlank hfront]
    cases core with
    | nil =>
        have hnil : trimStart back = [] := by
          rw [← List.append_nil back, trimStart_append_of_allBlank hback]
          rfl
        rw [List.nil_append, hnil]
        rfl
    | cons c core =>
        rw [trimStart_eq_self (by simpa using hfirst), trimEnd_append_of_allBlank hback,
          trimEnd_eq_self hlast]

theorem trim_eq_self (h : Trimmed text) : trim text = text :=
  trim_eq_iff.mpr ⟨h, [], [], rfl, rfl, (List.append_nil text).symm⟩

theorem eq_nil_of_trimmed_append (h : Trimmed (text ++ gap)) (hgap : allBlank gap = true) :
    gap = [] := by
  cases hend : gap.getLast? with
  | none => exact List.getLast?_eq_none_iff.mp hend
  | some c =>
      have hlast := h.last c (by rw [List.getLast?_append, hend]; rfl)
      cases hlast.symm.trans (allBlank_iff.mp hgap c (List.mem_of_getLast? hend))

/-! ### The words of a text -/

/-- The words of a text, in order, are what stands between its white space. -/
inductive InWords : List Char → List (List Char) → Prop
  | nil : InWords [] []
  | blank {c : Char} {text : List Char} {parts : List (List Char)} (hblank : isBlank c = true)
      (h : InWords text parts) : InWords (c :: text) parts
  | word {word text : List Char} {parts : List (List Char)} (hsome : word ≠ [])
      (hword : ∀ c ∈ word, isBlank c = false) (hend : ∀ c ∈ text.head?, isBlank c = true)
      (h : InWords text parts) : InWords (word ++ text) (word :: parts)

theorem words_cons_of_isBlank {c : Char} (h : isBlank c = true) (text : List Char) :
    words (c :: text) = words text := by
  rw [words, splitWhere, if_pos h]
  rfl

theorem words_append {word : List Char} (hsome : word ≠ []) (hword : ∀ c ∈ word, isBlank c = false)
    (hend : ∀ c ∈ text.head?, isBlank c = true) : words (word ++ text) = word :: words text := by
  cases text with
  | nil =>
      have hsplit := List.splitOnP_eq_singleton hword
      rw [List.append_nil, words, splitWhere_eq_splitOnP, hsplit]
      simp [hsome, words, splitWhere]
  | cons c text =>
      have hblank := hend c rfl
      have hsplit := List.splitOnP_append_cons_of_forall_mem hword c hblank text
      rw [words_cons_of_isBlank hblank, words, splitWhere_eq_splitOnP, hsplit,
        List.filter_cons_of_pos (by simpa using hsome), words, splitWhere_eq_splitOnP]

theorem inWords_words (text : List Char) : InWords text (words text) := by
  induction hlength : text.length using Nat.strongRecOn generalizing text with
  | ind length ih =>
      cases text with
      | nil => exact .nil
      | cons c text =>
          cases hblank : isBlank c with
          | true =>
              rw [words_cons_of_isBlank hblank]
              exact .blank hblank (ih text.length (by simp [← hlength]) text rfl)
          | false =>
              have htext := List.takeWhile_append_dropWhile (p := (!isBlank ·)) (l := c :: text)
              have hword := List.all_takeWhile (p := (!isBlank ·)) (l := c :: text)
              have hend := head?_dropWhile_eq_false (!isBlank ·) (c :: text)
              have hsome : (c :: text).takeWhile (!isBlank ·) ≠ [] := by simp [hblank]
              generalize (c :: text).takeWhile (!isBlank ·) = word at htext hword hsome
              generalize (c :: text).dropWhile (!isBlank ·) = rest at htext hend
              have hvisible : ∀ c ∈ word, isBlank c = false := by simpa using hword
              have hstops : ∀ c ∈ rest.head?, isBlank c = true := by simpa using hend
              have hshorter : rest.length < length := by
                have hpositive := List.length_pos_iff.mpr hsome
                rw [← hlength, ← htext, List.length_append]
                omega
              rw [← htext, words_append hsome hvisible hstops]
              exact .word hsome hvisible hstops (ih rest.length hshorter rest rfl)

theorem inWords_iff {parts : List (List Char)} : InWords text parts ↔ words text = parts := by
  constructor
  · intro h
    induction h with
    | nil => rfl
    | blank hblank _ ih => rw [words_cons_of_isBlank hblank, ih]
    | word hsome hword hend _ ih => rw [words_append hsome hword hend, ih]
  · rintro rfl
    exact inWords_words text

/-! ### Words one space apart -/

theorem words_joinWith {parts : List (List Char)}
    (h : ∀ part ∈ parts, part ≠ [] ∧ ∀ c ∈ part, isBlank c = false) :
    words (joinWith [' '] parts) = parts := by
  have hsolid : parts.filter (!·.isEmpty) = parts := by
    rw [List.filter_eq_self]
    intro part hpart
    simp [(h part hpart).1]
  cases parts with
  | nil => rfl
  | cons part parts =>
      have hsplit : splitWhere isBlank (joinWith [' '] (part :: parts)) = part :: parts := by
        clear hsolid
        rw [splitWhere_eq_splitOnP]
        induction parts generalizing part with
        | nil =>
            have hpart := h part List.mem_cons_self
            simpa [joinWith] using List.splitOnP_eq_singleton hpart.2
        | cons next parts ih =>
            have hpart := h part List.mem_cons_self
            have hrest := ih next fun other hother => h other (List.mem_cons_of_mem _ hother)
            rw [joinWith_cons_cons]
            exact (List.splitOnP_append_cons_of_forall_mem hpart.2 ' ' (by decide) _).trans
              (congrArg (part :: ·) hrest)
      rw [words, hsplit, hsolid]

theorem collapseBlanks_joinWith {parts : List (List Char)}
    (h : ∀ part ∈ parts, part ≠ [] ∧ ∀ c ∈ part, isBlank c = false) :
    collapseBlanks (joinWith [' '] parts) = joinWith [' '] parts := by
  rw [collapseBlanks, words_joinWith h]

theorem flatten_splitWhere (separates : Char → Bool) (text : List Char) :
    (splitWhere separates text).flatten = text.filter (!separates ·) := by
  induction text with
  | nil => rfl
  | cons c text ih =>
      unfold splitWhere
      cases hc : separates c with
      | true => simpa [hc] using ih
      | false =>
          rw [List.filter_cons_of_pos (by simp [hc]), ← ih]
          cases splitWhere separates text <;> simp

theorem flatten_words (text : List Char) : (words text).flatten = text.filter (!isBlank ·) := by
  rw [words, ← flatten_splitWhere, List.flatten_filter_not_isEmpty]

/-- Only white space is lost when blanks collapse. -/
theorem filter_collapseBlanks {keep : Char → Bool}
    (h : ∀ c, keep c = true → isBlank c = false) (text : List Char) :
    (collapseBlanks text).filter keep = text.filter keep := by
  have hspace : keep ' ' = false := by
    cases hkeep : keep ' ' with
    | false => rfl
    | true => cases h ' ' hkeep
  have hjoined : ∀ parts : List (List Char),
      (joinWith [' '] parts).filter keep = parts.flatten.filter keep := by
    intro parts
    cases parts with
    | nil => rfl
    | cons part parts =>
        rw [joinWith_cons, List.flatten_cons, List.filter_append, List.filter_append]
        congr 1
        induction parts with
        | nil => rfl
        | cons next parts ih => simp [hspace, ih]
  rw [collapseBlanks, hjoined, flatten_words, List.filter_filter]
  apply List.filter_congr
  intro c _
  cases hkeep : keep c with
  | false => rfl
  | true => simp [h c hkeep]

end SyntheticRows.Text
