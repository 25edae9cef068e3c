import SyntheticRows.Proofs.Elementwise
import SyntheticRows.Text.Cut
/-!
# What a cut says about the text

The parts of a cut make up the text again, and the part towards which the search ran is free of the
mark. Where a text begins with a stretch that is free of the mark, the stretch stays in front. The
parts between all marks are those that the marks join again, so readers of one part read a list.
-/

namespace SyntheticRows.Text

variable {mark : Char} {text front back : List Char}

theorem cutFirst_append_of_notMem (h : mark ∉ front) (back : List Char) :
    cutFirst mark (front ++ back) =
      (cutFirst mark back).map fun cut => (front ++ cut.1, cut.2) := by
  induction front with
  | nil => simp
  | cons c front ih =>
      obtain ⟨hc, hfront⟩ := List.ne_and_not_mem_of_not_mem_cons h
      rw [List.cons_append, cutFirst, if_neg hc.symm, ih hfront, Option.map_map]
      rfl

theorem cutFirst_append_cons (h : mark ∉ front) (back : List Char) :
    cutFirst mark (front ++ mark :: back) = some (front, back) := by
  rw [cutFirst_append_of_notMem h, cutFirst, if_pos rfl]
  simp

theorem cutFirst_eq_none_iff : cutFirst mark text = none ↔ mark ∉ text := by
  induction text with
  | nil => simp [cutFirst]
  | cons c text ih =>
      unfold cutFirst
      by_cases hc : c = mark
      · simp [hc]
      · simp [hc, ih, Ne.symm hc]

theorem cutFirst_eq_some_iff :
    cutFirst mark text = some (front, back) ↔ text = front ++ mark :: back ∧ mark ∉ front := by
  constructor
  · intro h
    induction text generalizing front with
    | nil => cases h
    | cons c text ih =>
        unfold cutFirst at h
        split at h
        next hc =>
          cases h
          exact ⟨hc ▸ rfl, List.not_mem_nil⟩
        next hc =>
          obtain ⟨⟨before, after⟩, hcut, heq⟩ := Option.map_eq_some_iff.mp h
          obtain ⟨rfl, rfl⟩ := Prod.mk.inj heq
          obtain ⟨rfl, hbefore⟩ := ih hcut
          exact ⟨rfl, List.not_mem_cons_of_ne_of_not_mem (Ne.symm hc) hbefore⟩
  · rintro ⟨rfl, hfront⟩
    exact cutFirst_append_cons hfront back

/-- The last mark of what follows is the last of all; else the mark in front of it is. -/
theorem cutLast_eq_none (h : mark ∉ text) : cutLast mark text = none := by
  induction text with
  | nil => rfl
  | cons c text ih =>
      have hc : c ≠ mark := Ne.symm (List.ne_of_not_mem_cons h)
      rw [cutLast, ih (List.not_mem_of_not_mem_cons h)]
      exact if_neg hc

theorem cutLast_append_cons (front back : List Char) :
    cutLast mark (front ++ mark :: back) =
      match cutLast mark back with
      | some (before, after) => some (front ++ mark :: before, after)
      | none => some (front, back) := by
  induction front with
  | nil =>
      rw [List.nil_append, cutLast]
      cases cutLast mark back <;> simp
  | cons c front ih =>
      rw [List.cons_append, cutLast, ih]
      cases cutLast mark back <;> simp

theorem cutLast_append_cons_of_notMem (h : mark ∉ back) :
    cutLast mark (front ++ mark :: back) = some (front, back) := by
  rw [cutLast_append_cons, cutLast_eq_none h]

theorem cutLast_eq_some_iff :
    cutLast mark text = some (front, back) ↔ text = front ++ mark :: back ∧ mark ∉ back := by
  constructor
  · intro h
    induction text generalizing front with
    | nil => cases h
    | cons c text ih =>
        unfold cutLast at h
        cases hcut : cutLast mark text with
        | some cut =>
            rw [hcut] at h
            cases h
            obtain ⟨rfl, hback⟩ := ih hcut
            exact ⟨rfl, hback⟩
        | none =>
            have htext : mark ∉ text := fun hmem => by
              obtain ⟨before, after, rfl⟩ := List.append_of_mem hmem
              rw [cutLast_append_cons] at hcut
              split at hcut <;> cases hcut
            rw [hcut] at h
            split_ifs at h with hc
            cases h
            exact ⟨hc ▸ rfl, htext⟩
  · rintro ⟨rfl, hback⟩
    exact cutLast_append_cons_of_notMem hback

/-- What follows the last mark depends on the text behind any mark only. -/
theorem exists_cutLast_append_cons (mark : Char) (back : List Char) :
    ∃ after, ∀ front, ∃ hidden,
      cutLast mark (front ++ mark :: back) = some (front ++ hidden, after) := by
  cases hcut : cutLast mark back with
  | none =>
      refine ⟨back, fun front => ⟨[], ?_⟩⟩
      rw [cutLast_append_cons, hcut, List.append_nil]
  | some cut =>
      refine ⟨cut.2, fun front => ⟨mark :: cut.1, ?_⟩⟩
      rw [cutLast_append_cons, hcut]

theorem after?_eq_some_iff {start : List Char} :
    after? start text = some back ↔ text = start ++ back := by
  induction start generalizing text with
  | nil => simp [after?, eq_comm]
  | cons s start ih =>
      cases text with
      | nil => simp [after?]
      | cons c text =>
          unfold after?
          by_cases hs : s = c
          · simp [hs, ih]
          · simp [hs, Ne.symm hs]

theorem before?_eq_some_iff {ending : List Char} :
    before? ending text = some front ↔ text = front ++ ending := by
  unfold before?
  rw [Option.map_eq_some_iff]
  constructor
  · rintro ⟨rest, hrest, rfl⟩
    have hreverse := congrArg List.reverse (after?_eq_some_iff.mp hrest)
    simpa using hreverse
  · rintro rfl
    exact ⟨front.reverse, after?_eq_some_iff.mpr (by simp), List.reverse_reverse _⟩

/-- A text is found where its first character is. -/
theorem cutFirstText_append {ending : List Char} (h : mark ∉ front) (back : List Char) :
    cutFirstText (mark :: ending) (front ++ (mark :: ending ++ back)) = some (front, back) := by
  induction front with
  | nil =>
      have hafter : after? (mark :: ending) (mark :: (ending ++ back)) = some back :=
        after?_eq_some_iff.mpr rfl
      rw [List.nil_append, List.cons_append, cutFirstText, hafter]
  | cons c front ih =>
      obtain ⟨hc, hfront⟩ := List.ne_and_not_mem_of_not_mem_cons h
      rw [List.cons_append, cutFirstText, after?, if_neg hc, ih hfront]
      rfl

section

variable {sign : List Char}

theorem isSome_after?_iff : (after? sign text).isSome = true ↔ sign <+: text := by
  rw [Option.isSome_iff_exists]
  simp only [after?_eq_some_iff, List.prefix_iff_exists_eq_append]

theorem eq_append_of_cutFirstText_eq_some (h : cutFirstText sign text = some (front, back)) :
    text = front ++ (sign ++ back) := by
  induction text generalizing front with
  | nil =>
      unfold cutFirstText at h
      split_ifs at h with hsign
      cases h
      rw [List.isEmpty_iff.mp hsign]
      rfl
  | cons c text ih =>
      unfold cutFirstText at h
      cases hafter : after? sign (c :: text) with
      | some after =>
          rw [hafter] at h
          cases h
          have hfound := after?_eq_some_iff.mp hafter
          exact hfound
      | none =>
          rw [hafter] at h
          obtain ⟨⟨before, after⟩, hcut, heq⟩ := Option.map_eq_some_iff.mp h
          obtain ⟨rfl, rfl⟩ := Prod.mk.inj heq
          rw [ih hcut, List.cons_append]

/-- What follows the first occurrence of a text has no part in where it is found. -/
theorem cutFirstText_append_of_eq_some (h : cutFirstText sign text = some (front, back))
    (hsign : sign ≠ []) (back' : List Char) :
    cutFirstText sign (front ++ (sign ++ back')) = some (front, back') := by
  induction text generalizing front with
  | nil =>
      unfold cutFirstText at h
      split_ifs at h with hempty
      exact absurd (List.isEmpty_iff.mp hempty) hsign
  | cons c text ih =>
      unfold cutFirstText at h
      cases hafter : after? sign (c :: text) with
      | some after =>
          rw [hafter] at h
          cases h
          have hfound : after? sign (sign ++ back') = some back' := after?_eq_some_iff.mpr rfl
          obtain ⟨first, ending, rfl⟩ := List.exists_cons_of_ne_nil hsign
          rw [List.cons_append] at hfound
          rw [List.nil_append, List.cons_append, cutFirstText, hfound]
      | none =>
          rw [hafter] at h
          obtain ⟨⟨before, after⟩, hcut, heq⟩ := Option.map_eq_some_iff.mp h
          obtain ⟨rfl, rfl⟩ := Prod.mk.inj heq
          -- An occurrence at the first character would end before `back'` begins.
          have hnone : after? sign (c :: (before ++ (sign ++ back'))) = none := by
            rw [← Option.not_isSome_iff_eq_none, isSome_after?_iff]
            intro hprefix
            have hshort : sign <+: c :: (before ++ sign) :=
              List.prefix_of_prefix_length_le hprefix ⟨back', by simp⟩ (by simp; omega)
            have hlong : sign <+: c :: text := by
              rw [eq_append_of_cutFirstText_eq_some hcut]
              exact hshort.trans ⟨after, by simp⟩
            have hsome := isSome_after?_iff.mpr hlong
            rw [hafter] at hsome
            cases hsome
          rw [List.cons_append, cutFirstText, hnone, ih hcut]
          rfl

end

/-! ### Replacing -/

section Replacing

variable {old new word : List Char}

theorem isSome_after?_append_cons (h : mark ∉ old) (text rest : List Char) :
    (after? old (text ++ mark :: rest)).isSome = (after? old text).isSome := by
  induction old generalizing text with
  | nil => rfl
  | cons c old ih =>
      obtain ⟨hc, hold⟩ := List.ne_and_not_mem_of_not_mem_cons h
      cases text with
      | nil => rw [List.nil_append, after?, after?, if_neg hc.symm]
      | cons first text =>
          rw [List.cons_append, after?, after?]
          split
          · exact ih hold text
          · rfl

theorem length_le_of_isSome_after? (h : (after? old text).isSome = true) :
    old.length ≤ text.length := by
  obtain ⟨back, hback⟩ := Option.isSome_iff_exists.mp h
  rw [after?_eq_some_iff.mp hback, List.length_append]
  exact Nat.le_add_right _ _

theorem replaceFrom_append_cons (hold : old ≠ []) (h : mark ∉ old) (new rest : List Char)
    {skip : Nat} (hskip : skip ≤ text.length) :
    replaceFrom old new skip (text ++ mark :: rest) =
      replaceFrom old new skip text ++ mark :: replaceFrom old new 0 rest := by
  induction text generalizing skip with
  | nil =>
      obtain rfl : skip = 0 := Nat.le_zero.mp hskip
      have hnone : (after? old (mark :: rest)).isSome = false := by
        have hnil := isSome_after?_append_cons h [] rest
        obtain ⟨c, old, rfl⟩ := List.exists_cons_of_ne_nil hold
        exact hnil
      have hkeep : replaceFrom old new 0 (mark :: rest) = mark :: replaceFrom old new 0 rest := by
        rw [replaceFrom, hnone]
        rfl
      exact hkeep
  | cons c text ih =>
      cases skip with
      | succ skip =>
          rw [List.cons_append, replaceFrom, replaceFrom]
          exact ih (Nat.le_of_succ_le_succ hskip)
      | zero =>
          rw [List.cons_append, replaceFrom, replaceFrom, ← List.cons_append,
            isSome_after?_append_cons h]
          split
          next hfound =>
            have hlength := length_le_of_isSome_after? hfound
            rw [ih (by simp only [List.length_cons] at hlength; omega), List.append_assoc]
          next => rw [ih (Nat.zero_le _), List.cons_append]

/-- No occurrence reaches over a character that the replaced text lacks. -/
theorem replaceText_append_cons (hold : old ≠ []) (h : mark ∉ old) (new text rest : List Char) :
    replaceText old new (text ++ mark :: rest) =
      replaceText old new text ++ mark :: replaceText old new rest :=
  replaceFrom_append_cons hold h new rest (Nat.zero_le _)

/-- From left to right the occurrences of a text give way to another one. A character is kept where
none begins, so no occurrence overlaps one that is replaced. -/
inductive Replaced (old new : List Char) : List Char → List Char → Prop
  | nil : Replaced old new [] []
  | found {text result : List Char} (h : Replaced old new text result) :
      Replaced old new (old ++ text) (new ++ result)
  | kept {text result : List Char} {c : Char} (habsent : ¬old <+: c :: text)
      (h : Replaced old new text result) : Replaced old new (c :: text) (c :: result)

theorem replaceFrom_eq_replaceText_drop (old new : List Char) (skip : Nat) (text : List Char) :
    replaceFrom old new skip text = replaceText old new (text.drop skip) := by
  induction skip generalizing text with
  | zero => rfl
  | succ skip ih =>
      cases text with
      | nil => simp [replaceText, replaceFrom]
      | cons c text => exact ih text

theorem replaceText_cons_of_absent {c : Char} (h : ¬old <+: c :: text) (new : List Char) :
    replaceText old new (c :: text) = c :: replaceText old new text := by
  rw [replaceText, replaceFrom, if_neg (mt isSome_after?_iff.mp h)]
  rfl

theorem replaceText_append_self (hold : old ≠ []) (new text : List Char) :
    replaceText old new (old ++ text) = new ++ replaceText old new text := by
  obtain ⟨c, tail, rfl⟩ := List.exists_cons_of_ne_nil hold
  have hfound := isSome_after?_iff.mpr (List.prefix_append (c :: tail) text)
  rw [List.cons_append] at hfound ⊢
  rw [replaceText, replaceFrom, if_pos hfound, replaceFrom_eq_replaceText_drop]
  simp

/-- A word in which no occurrence begins stays in front. -/
theorem replaceText_append_left
    (h : ∀ suffix, suffix <:+ word → suffix ≠ [] → ¬old <+: suffix ++ text) (new : List Char) :
    replaceText old new (word ++ text) = word ++ replaceText old new text := by
  induction word with
  | nil => rfl
  | cons c word ih =>
      have hfirst := h (c :: word) (List.suffix_refl _) (List.cons_ne_nil _ _)
      rw [List.cons_append] at hfirst ⊢
      rw [replaceText_cons_of_absent hfirst, List.cons_append,
        ih fun suffix hsuffix => h suffix (hsuffix.trans (List.suffix_cons c word))]

theorem replaced_replaceText (hold : old ≠ []) (new text : List Char) :
    Replaced old new text (replaceText old new text) := by
  induction hlength : text.length using Nat.strongRecOn generalizing text with
  | ind length ih =>
      cases text with
      | nil => exact .nil
      | cons c text =>
          by_cases hfound : old <+: c :: text
          · obtain ⟨back, hback⟩ := hfound
            have hshorter : back.length < length := by
              have hpositive := List.length_pos_iff.mpr hold
              rw [← hlength, ← hback, List.length_append]
              omega
            rw [← hback, replaceText_append_self hold]
            exact .found (ih back.length hshorter back rfl)
          · rw [replaceText_cons_of_absent hfound]
            exact .kept hfound (ih text.length (by simp [← hlength]) text rfl)

theorem replaced_iff (hold : old ≠ []) {new result : List Char} :
    Replaced old new text result ↔ replaceText old new text = result := by
  constructor
  · intro h
    induction h with
    | nil => rfl
    | found _ ih => rw [replaceText_append_self hold, ih]
    | kept habsent _ ih => rw [replaceText_cons_of_absent habsent, ih]
  · rintro rfl
    exact replaced_replaceText hold new text

namespace Replaced

variable {result : List Char} {keep : Char → Bool}

theorem mem_or_mem (h : Replaced old new text result) {c : Char} (hc : c ∈ text) :
    c ∈ old ∨ c ∈ result := by
  induction h with
  | nil => cases hc
  | found _ ih =>
      rcases List.mem_append.mp hc with hc | hc
      · exact .inl hc
      · exact (ih hc).imp_right (List.mem_append_right new)
  | kept _ _ ih =>
      rcases List.mem_cons.mp hc with rfl | hc
      · exact .inr List.mem_cons_self
      · exact (ih hc).imp_right (List.mem_cons_of_mem _)

/-- Characters that neither text has stay as they are. -/
theorem filter_eq (h : Replaced old new text result) (hold : old.filter keep = [])
    (hnew : new.filter keep = []) : result.filter keep = text.filter keep := by
  induction h with
  | nil => rfl
  | found _ ih => rw [List.filter_append, List.filter_append, hold, hnew, ih]
  | kept _ _ ih => rw [List.filter_cons, List.filter_cons, ih]

/-- A word that shares no end with what is put in comes from the text. -/
theorem prefix_text (h : Replaced old new text result)
    (hword : ∀ suffix, suffix <:+ word → suffix ≠ [] → ¬suffix <+: new ∧ ¬new <+: suffix)
    (hresult : word <+: result) : word <+: text := by
  induction h generalizing word with
  | nil => exact hresult
  | @found text result _ ih =>
      rcases Decidable.eq_or_ne word [] with rfl | hne
      · exact List.nil_prefix
      · have hwhole := hword word (List.suffix_refl _) hne
        rcases List.prefix_or_prefix_of_prefix hresult (List.prefix_append new result) with h | h
        · exact absurd h hwhole.1
        · exact absurd h hwhole.2
  | kept _ _ ih =>
      cases word with
      | nil => exact List.nil_prefix
      | cons first word =>
          obtain ⟨rfl, htail⟩ := List.cons_prefix_cons.mp hresult
          refine List.cons_prefix_cons.mpr ⟨rfl, ih (fun suffix hsuffix => ?_) htail⟩
          exact hword suffix (hsuffix.trans (List.suffix_cons first word))

end Replaced

end Replacing

/-! ### The leading stretch of a class of characters -/

section LeadingStretch

variable {inClass : Char → Bool} {stretch rest : List Char}

theorem takeWhile_append_eq_left (hstretch : ∀ c ∈ stretch, inClass c = true)
    (hrest : ∀ c ∈ rest.head?, inClass c = false) :
    (stretch ++ rest).takeWhile inClass = stretch := by
  rw [List.takeWhile_append_of_pos hstretch]
  cases rest with
  | nil => simp
  | cons c rest => simp [hrest c rfl]

theorem dropWhile_append_eq_right (hstretch : ∀ c ∈ stretch, inClass c = true)
    (hrest : ∀ c ∈ rest.head?, inClass c = false) :
    (stretch ++ rest).dropWhile inClass = rest := by
  rw [List.dropWhile_append_of_pos hstretch]
  cases rest with
  | nil => rfl
  | cons c rest => simp [hrest c rfl]

theorem head?_dropWhile_eq_false (inClass : Char → Bool) (text : List Char) :
    ∀ c ∈ (text.dropWhile inClass).head?, inClass c = false := by
  intro c hc
  have hnot := List.head?_dropWhile_not inClass text
  rw [Option.mem_def.mp hc] at hnot
  simpa using hnot

end LeadingStretch

/-! ### Joining -/

theorem joinWith_singleton (separator part : List Char) : joinWith separator [part] = part :=
  List.intercalate_singleton

theorem joinWith_cons_cons (separator part next : List Char) (parts : List (List Char)) :
    joinWith separator (part :: next :: parts) =
      part ++ (separator ++ joinWith separator (next :: parts)) := by
  rw [joinWith, List.intercalate_cons_cons, List.append_assoc]
  rfl

/-- Two parts have the mark between them, even if they are empty. -/
theorem joinWith_ne_nil {mark : List Char} {parts : List (List Char)} (hmark : mark ≠ [])
    (hparts : 2 ≤ parts.length) : joinWith mark parts ≠ [] := by
  match parts, hparts with
  | part :: next :: parts, _ =>
      rw [joinWith_cons_cons]
      simp [hmark]

theorem joinWith_cons (part : List Char) (parts : List (List Char)) :
    joinWith [' '] (part :: parts) = part ++ parts.flatMap (' ' :: ·) := by
  induction parts generalizing part with
  | nil => simp [joinWith_singleton]
  | cons next parts ih => simp [joinWith_cons_cons, ih next]

theorem mem_joinWith {mark : List Char} {parts : List (List Char)} {c : Char}
    (h : c ∈ joinWith mark parts) : (∃ part ∈ parts, c ∈ part) ∨ c ∈ mark := by
  induction parts with
  | nil => cases h
  | cons part parts ih =>
      cases parts with
      | nil =>
          rw [joinWith_singleton] at h
          exact .inl ⟨part, List.mem_cons_self, h⟩
      | cons next parts =>
          rw [joinWith_cons_cons] at h
          rcases List.mem_append.mp h with hpart | hrest
          · exact .inl ⟨part, List.mem_cons_self, hpart⟩
          · rcases List.mem_append.mp hrest with hmark | hrest
            · exact .inr hmark
            · exact (ih hrest).imp_left fun ⟨part, hpart, hc⟩ =>
                ⟨part, List.mem_cons_of_mem _ hpart, hc⟩

theorem mem_joinWith_of_mem {mark : List Char} {parts : List (List Char)} {part : List Char}
    (hpart : part ∈ parts) {c : Char} (hc : c ∈ part) : c ∈ joinWith mark parts := by
  induction parts with
  | nil => cases hpart
  | cons first parts ih =>
      cases parts with
      | nil =>
          obtain rfl := List.mem_singleton.mp hpart
          rwa [joinWith_singleton]
      | cons next parts =>
          rw [joinWith_cons_cons]
          rcases List.mem_cons.mp hpart with rfl | hpart
          · exact List.mem_append_left _ hc
          · exact List.mem_append_right _ (List.mem_append_right _ (ih hpart))

/-! ### Splitting at each mark -/

theorem splitWhere_eq_splitOnP (separates : Char → Bool) (text : List Char) :
    splitWhere separates text = text.splitOnP separates := by
  induction text with
  | nil => rfl
  | cons c text ih =>
      rw [splitWhere, List.splitOnP_cons_eq_if_modifyHead, ih]
      cases hparts : text.splitOnP separates with
      | nil => exact absurd hparts (List.splitOnP_ne_nil _ _)
      | cons part parts => rfl

theorem splitAtEach_eq_splitOn (mark : Char) (text : List Char) :
    splitAtEach mark text = text.splitOn mark := by
  rw [splitAtEach, splitWhere_eq_splitOnP, List.splitOn_eq_splitOnP]

/-- The parts that a text has between the occurrences of a mark. -/
structure Listed (mark : Char) (parts : List (List Char)) (text : List Char) : Prop where
  nonempty : parts ≠ []
  unmarked : ∀ part ∈ parts, mark ∉ part
  joined : text = joinWith [mark] parts

theorem notMem_of_mem_splitWhere {separates : Char → Bool} {part : List Char}
    (h : part ∈ splitWhere separates text) {c : Char} (hc : separates c = true) : c ∉ part := by
  induction text generalizing part with
  | nil =>
      obtain rfl : part = [] := List.mem_singleton.mp h
      exact List.not_mem_nil
  | cons first text ih =>
      unfold splitWhere at h
      split at h
      next =>
        rcases List.mem_cons.mp h with rfl | hmem
        · exact List.not_mem_nil
        · exact ih hmem
      next hfirst =>
        have hother : c ≠ first := by
          rintro rfl
          exact hfirst hc
        split at h
        next =>
          obtain rfl : part = [first] := List.mem_singleton.mp h
          simpa using hother
        next head parts hparts =>
          rw [hparts] at ih
          rcases List.mem_cons.mp h with rfl | hmem
          · exact List.not_mem_cons_of_ne_of_not_mem hother (ih List.mem_cons_self)
          · exact ih (List.mem_cons_of_mem _ hmem)

theorem splitAtEach_eq_iff {parts : List (List Char)} :
    splitAtEach mark text = parts ↔ Listed mark parts text := by
  constructor
  · rintro rfl
    refine ⟨?_, fun part hpart => notMem_of_mem_splitWhere hpart (beq_self_eq_true mark), ?_⟩
    · rw [splitAtEach_eq_splitOn]
      exact List.splitOn_ne_nil _ _
    · rw [splitAtEach_eq_splitOn, joinWith, List.intercalate_splitOn]
  · rintro ⟨hnonempty, hunmarked, rfl⟩
    rw [splitAtEach_eq_splitOn, joinWith, List.splitOn_intercalate mark hunmarked hnonempty]

theorem splitAtEach_eq_singleton_iff {part : List Char} :
    splitAtEach mark text = [part] ↔ text = part ∧ mark ∉ part := by
  rw [splitAtEach_eq_iff]
  constructor
  · rintro ⟨-, hunmarked, hjoined⟩
    refine ⟨?_, hunmarked part List.mem_cons_self⟩
    rw [hjoined, joinWith_singleton]
  · rintro ⟨rfl, hpart⟩
    refine ⟨List.cons_ne_nil _ _, List.forall_mem_singleton.mpr hpart, ?_⟩
    rw [joinWith_singleton]

theorem splitAtEach_eq_pair_iff {part part' : List Char} :
    splitAtEach mark text = [part, part'] ↔
      text = part ++ mark :: part' ∧ mark ∉ part ∧ mark ∉ part' := by
  have hpair : joinWith [mark] [part, part'] = part ++ mark :: part' := by
    rw [joinWith_cons_cons, joinWith_singleton]
    rfl
  rw [splitAtEach_eq_iff]
  constructor
  · rintro ⟨-, hunmarked, hjoined⟩
    have hfirst := hunmarked part List.mem_cons_self
    have hsecond := hunmarked part' (List.mem_cons_of_mem _ List.mem_cons_self)
    exact ⟨hjoined.trans hpair, hfirst, hsecond⟩
  · rintro ⟨rfl, hfirst, hsecond⟩
    refine ⟨List.cons_ne_nil _ _, ?_, hpair.symm⟩
    exact List.forall_mem_cons.mpr ⟨hfirst, List.forall_mem_singleton.mpr hsecond⟩

/-! ### Reading each part -/

section

variable {ε β : Type} {read : List Char → Except ε β} {Reads : List Char → β → Prop}
  (hread : ∀ {part value}, read part = .ok value ↔ Reads part value)
  (hmark : ∀ {part value}, Reads part value → mark ∉ part)

theorem mapM_splitAtEach_ne_nil : (splitAtEach mark text).mapM read ≠ .ok [] := by
  intro h
  have hall := mapM_eq_ok_iff.mp h
  generalize hparts : splitAtEach mark text = parts at hall
  cases hall
  exact (splitAtEach_eq_iff.mp hparts).nonempty rfl

include hread hmark

theorem mapM_splitAtEach_eq_singleton_iff {value : β} :
    (splitAtEach mark text).mapM read = .ok [value] ↔ Reads text value := by
  rw [mapM_eq_ok_iff]
  constructor
  · intro hall
    generalize hparts : splitAtEach mark text = parts at hall
    obtain _ | ⟨hfirst, ⟨⟩⟩ := hall
    obtain ⟨rfl, -⟩ := splitAtEach_eq_singleton_iff.mp hparts
    exact hread.mp hfirst
  · intro h
    rw [splitAtEach_eq_singleton_iff.mpr ⟨rfl, hmark h⟩]
    exact .cons (hread.mpr h) .nil

theorem mapM_splitAtEach_eq_pair_iff {value value' : β} :
    (splitAtEach mark text).mapM read = .ok [value, value'] ↔
      ∃ part part', text = part ++ mark :: part' ∧ Reads part value ∧ Reads part' value' := by
  rw [mapM_eq_ok_iff]
  constructor
  · intro hall
    generalize hparts : splitAtEach mark text = parts at hall
    obtain _ | ⟨hfirst, _ | ⟨hsecond, ⟨⟩⟩⟩ := hall
    obtain ⟨rfl, -⟩ := splitAtEach_eq_pair_iff.mp hparts
    exact ⟨_, _, rfl, hread.mp hfirst, hread.mp hsecond⟩
  · rintro ⟨part, part', rfl, hfirst, hsecond⟩
    rw [splitAtEach_eq_pair_iff.mpr ⟨rfl, hmark hfirst, hmark hsecond⟩]
    exact .cons (hread.mpr hfirst) (.cons (hread.mpr hsecond) .nil)

end

end SyntheticRows.Text
