import Mathlib.Algebra.GroupWithZero.Nat
import SyntheticRows.Proofs.Random.Draw
import SyntheticRows.Proofs.Rule.Meaning
/-!
# Choices follow their weights

A choice adds up the weights in front of it with sums that stay within a word, and takes the first
entry at which the sum exceeds the draw. The draws are below a hundred, so the exact sums tell the
same: an entry is selected by the draws from the sum of the weights in front of it up to the sum with
its own, and the last entry also by all draws beyond.
-/

namespace SyntheticRows

namespace Generator

variable {entries : List (String × UInt32)} {draw : Nat}

/-- The sum of the weights of the first entries, however large. -/
def weightSum (entries : List (String × UInt32)) (count : Nat) : Nat :=
  ((entries.take count).map (·.2.toNat)).sum

/-- The position of the entry that a draw selects: the first one at which the sum of the weights
exceeds the draw, or else the last one. -/
def selected (entries : List (String × UInt32)) (draw : Nat) : Nat :=
  ((List.range entries.length).find? fun position =>
    draw < weightSum entries (position + 1)).getD (entries.length - 1)

theorem weightSum_zero (entries : List (String × UInt32)) : weightSum entries 0 = 0 := by
  simp [weightSum]

theorem weightSum_cons (entry : String × UInt32) (entries : List (String × UInt32)) (count : Nat) :
    weightSum (entry :: entries) (count + 1) = entry.2.toNat + weightSum entries count := by
  simp [weightSum]

theorem weightSum_succ {position : Nat} {entry : String × UInt32}
    (hentry : entries[position]? = some entry) :
    weightSum entries (position + 1) = weightSum entries position + entry.2.toNat := by
  simp [weightSum, List.take_add_one, hentry]

theorem weightSum_le {count count' : Nat} (h : count ≤ count') :
    weightSum entries count ≤ weightSum entries count' := by
  obtain ⟨rest, hrest⟩ : entries.take count <+: entries.take count' :=
    List.take_prefix_take_left h
  rw [weightSum, weightSum, ← hrest, List.map_append, List.sum_append]
  exact Nat.le_add_right _ _

/-- The exact search behind a choice. -/
theorem find?_exceeding_eq_some_iff {position : Nat} :
    ((List.range entries.length).find? fun position =>
      draw < weightSum entries (position + 1)) = some position ↔
      position < entries.length ∧ weightSum entries position ≤ draw ∧
        draw < weightSum entries (position + 1) := by
  rw [List.find?_range_eq_some]
  simp only [decide_eq_true_eq, List.mem_range, Bool.not_eq_true', decide_eq_false_iff_not,
    Nat.not_lt]
  refine ⟨fun ⟨hbelow, hlt, hfirst⟩ => ⟨hlt, ?_, hbelow⟩, fun ⟨hlt, hreached, hbelow⟩ =>
    ⟨hbelow, hlt, fun earlier hearlier => Nat.le_trans (weightSum_le hearlier) hreached⟩⟩
  cases position with
  | zero => simp [weightSum_zero]
  | succ position => exact hfirst position (Nat.lt_succ_self _)

/-- A draw gets to a position when it is not below the weights in front of it. -/
theorem le_selected_iff (draw : Nat) {position : Nat} (hposition : position < entries.length) :
    position ≤ selected entries draw ↔ weightSum entries position ≤ draw := by
  unfold selected
  cases hfound : (List.range entries.length).find? fun position =>
      draw < weightSum entries (position + 1) with
  | none =>
      have hnone := List.find?_range_eq_none.mp hfound position hposition
      refine ⟨fun _ => ?_, fun _ => Nat.le_sub_one_of_lt hposition⟩
      have hreached : weightSum entries (position + 1) ≤ draw := by simpa using hnone
      exact Nat.le_trans (weightSum_le (Nat.le_succ position)) hreached
  | some found =>
      obtain ⟨_, hreached, hbelow⟩ := find?_exceeding_eq_some_iff.mp hfound
      constructor
      · exact fun hle => Nat.le_trans (weightSum_le hle) hreached
      · intro hreached'
        refine Nat.le_of_not_lt fun hlt => ?_
        exact absurd (Nat.lt_of_lt_of_le hbelow (weightSum_le hlt)) (Nat.not_lt.mpr hreached')

theorem selected_lt_length (draw : Nat) (hentries : entries ≠ []) :
    selected entries draw < entries.length := by
  have hlength := List.length_pos_iff.mpr hentries
  unfold selected
  cases hfound : (List.range entries.length).find? fun position =>
      draw < weightSum entries (position + 1) with
  | none => exact Nat.sub_lt hlength Nat.one_pos
  | some found => exact (find?_exceeding_eq_some_iff.mp hfound).1

/-! ### Counting draws -/

theorem countP_range_between (count low high : Nat) :
    (List.range count).countP (fun draw => low ≤ draw ∧ draw < high) =
      min count high - min count low := by
  induction count with
  | zero => simp
  | succ count ih =>
      rw [List.range_succ, List.countP_append, ih, List.countP_singleton]
      split
      next h =>
        simp only [decide_eq_true_eq] at h
        omega
      next h =>
        simp only [decide_eq_true_eq] at h
        omega

theorem selected_eq_iff {position : Nat} (hposition : position < entries.length) :
    selected entries draw = position ↔ weightSum entries position ≤ draw ∧
      (position + 1 < entries.length → draw < weightSum entries (position + 1)) := by
  have hlength := selected_lt_length draw
    (List.ne_nil_of_length_pos (Nat.zero_lt_of_lt hposition))
  have hreached := le_selected_iff draw hposition
  by_cases hmore : position + 1 < entries.length
  · have hpassed := le_selected_iff draw hmore
    omega
  · omega

/-- An entry that is not the last one gets the draws that its weight adds to the sum. -/
theorem countP_selected {position : Nat} (hmore : position + 1 < entries.length) :
    (List.range 100).countP (selected entries · = position) =
      min 100 (weightSum entries (position + 1)) - min 100 (weightSum entries position) := by
  rw [← countP_range_between]
  refine List.countP_congr fun draw _ => ?_
  simp [selected_eq_iff (Nat.lt_of_succ_lt hmore), hmore]

/-- The last entry gets the draws that are left. -/
theorem countP_selected_last (hentries : entries ≠ []) :
    (List.range 100).countP (selected entries · = entries.length - 1) =
      100 - min 100 (weightSum entries (entries.length - 1)) := by
  have hlength := List.length_pos_iff.mpr hentries
  have hposition : entries.length - 1 < entries.length := Nat.sub_lt hlength Nat.one_pos
  have hlast : ¬entries.length - 1 + 1 < entries.length := by omega
  have hall := countP_range_between 100 (weightSum entries (entries.length - 1)) 100
  rw [Nat.min_self] at hall
  rw [← hall]
  refine List.countP_congr fun draw hdraw => ?_
  simp [selected_eq_iff hposition, hlast, List.mem_range.mp hdraw]

/-! ### The choice takes the selected entry -/

/-- Below the limit of a word, sums that stay within it exceed a draw where the exact sums do. -/
theorem firstAbove?_eq (hdraw : draw < weightLimit) (sum : Nat)
    (entries : List (String × UInt32)) :
    firstAbove? draw (min sum weightLimit) entries =
      ((List.range entries.length).find? fun position =>
        draw < sum + weightSum entries (position + 1)).bind (entries[·]?.map (·.1)) := by
  induction entries generalizing sum with
  | nil => rfl
  | cons entry entries ih =>
      obtain ⟨label, weight⟩ := entry
      have hsum : min (min sum weightLimit + weight.toNat) weightLimit =
          min (sum + weight.toNat) weightLimit := by omega
      have hfirst : draw < min (sum + weight.toNat) weightLimit ↔ draw < sum + weight.toNat := by
        omega
      rw [firstAbove?, hsum, List.length_cons, List.range_succ_eq_map, List.find?_cons]
      simp only [hfirst, weightSum_cons, weightSum_zero, Nat.add_zero]
      by_cases hexceeds : draw < sum + weight.toNat
      · simp [hexceeds]
      · simp only [hexceeds, if_false, decide_false]
        rw [ih, List.find?_map]
        simp only [Option.bind_map, Function.comp_def, Nat.succ_eq_add_one,
          List.getElem?_cons_succ, Nat.add_assoc]

/-- The label of a choice is that of the entry that the exact sums select. -/
theorem label_selected (hentries : entries ≠ []) (hdraw : draw < weightLimit) :
    entries[selected entries draw]?.map (·.1) = some (choose entries draw) := by
  have hlength := List.length_pos_iff.mpr hentries
  have hfirst := firstAbove?_eq hdraw 0 entries
  simp only [Nat.zero_min, Nat.zero_add] at hfirst
  unfold choose selected
  rw [hfirst]
  cases hfound : (List.range entries.length).find? fun position =>
      draw < weightSum entries (position + 1) with
  | none =>
      have hlast : entries.getLast? = entries[entries.length - 1]? := List.getLast?_eq_getElem?
      rw [Option.getD_none, hlast, List.getElem?_eq_getElem (Nat.sub_lt hlength Nat.one_pos)]
      rfl
  | some found =>
      rw [Option.getD_some, Option.bind_some,
        List.getElem?_eq_getElem (find?_exceeding_eq_some_iff.mp hfound).1]
      rfl

end Generator

namespace Rule

open Text

/-! ### The text of a choice -/

/-- A label that a choice can be written with. -/
structure PlainLabel (label : String) : Prop where
  trimmed : trim label.toList = label.toList
  comma : ',' ∉ label.toList
  percent : '%' ∉ label.toList

instance (label : String) : Decidable (PlainLabel label) :=
  decidable_of_iff
    (trim label.toList = label.toList ∧ ',' ∉ label.toList ∧ '%' ∉ label.toList)
    ⟨fun ⟨trimmed, comma, percent⟩ => ⟨trimmed, comma, percent⟩,
      fun ⟨trimmed, comma, percent⟩ => ⟨trimmed, comma, percent⟩⟩

def entryText (entry : String × UInt32) : List Char :=
  entry.1.toList ++ '%' :: decimal entry.2.toNat

def choiceText (entries : List (String × UInt32)) : String :=
  String.ofList ("oneof".toList ++ '[' :: (joinWith [','] (entries.map entryText) ++ [']']))

theorem toList_choiceText (entries : List (String × UInt32)) :
    (choiceText entries).toList =
      "oneof".toList ++ '[' :: (joinWith [','] (entries.map entryText) ++ [']']) :=
  String.toList_ofList

theorem entryText_reads {entry : String × UInt32} (h : PlainLabel entry.1) :
    EntryText (entryText entry) entry := by
  have hdigits : isNumeral (decimal entry.2.toNat) = true := isNumeral_toDigits _
  have hvalue : decimalValue (decimal entry.2.toNat) = entry.2.toNat := decimalValue_toDigits _
  have hnumeral : UnsignedNumeral (trim (decimal entry.2.toNat)) entry.2.toNat := by
    have hbare := UnsignedNumeral.bare hdigits
    rwa [hvalue, ← trim_eq_self (trimmed_of_isNumeral hdigits)] at hbare
  have hpercent : '%' ∉ decimal entry.2.toNat := fun hmem => by
    cases isDigit_of_mem_decimal hmem
  have hentry := EntryText.mk h.percent hpercent hnumeral
  rwa [h.trimmed, String.ofList_toList] at hentry

theorem comma_notMem_entryText {entry : String × UInt32} (h : PlainLabel entry.1) :
    ',' ∉ entryText entry := by
  have hdigits : ',' ∉ decimal entry.2.toNat := fun hmem => by
    cases isDigit_of_mem_decimal hmem
  simp [entryText, h.comma, hdigits]

variable {entries : List (String × UInt32)}

theorem compile_choiceText (hentries : entries ≠ [])
    (hlabels : ∀ entry ∈ entries, PlainLabel entry.1) :
    compile (choiceText entries) = .ok (.choice entries) := by
  have hparts : Listed ',' (entries.map entryText) (joinWith [','] (entries.map entryText)) := by
    refine ⟨by simpa using hentries, ?_, rfl⟩
    exact List.forall_mem_map.mpr fun entry hmem => comma_notMem_entryText (hlabels entry hmem)
  have hreads : List.Forall₂ EntryText (entries.map entryText) entries := by
    rw [List.forall₂_map_left_iff, List.forall₂_same]
    exact fun entry hmem => entryText_reads (hlabels entry hmem)
  have hsome : ¬allBlank (joinWith [','] (entries.map entryText)) := by
    obtain ⟨entry, hmem⟩ := List.exists_mem_of_ne_nil entries hentries
    intro hblank
    have hpercent : '%' ∈ joinWith [','] (entries.map entryText) :=
      mem_joinWith_of_mem (List.mem_map_of_mem hmem) (by simp [entryText])
    exact notMem_of_allBlank hblank (by decide) hpercent
  have hletters : ∀ c ∈ "oneof".toList, c.isAlpha = true := List.all_eq_true.mp (by decide)
  have hform : Bracketed
      ("oneof".toList ++ [] ++ '[' :: (joinWith [','] (entries.map entryText) ++ [']']))
      "oneof".toList (joinWith [','] (entries.map entryText)) := .mk (by decide) hletters rfl
  rw [List.append_nil] at hform
  have hname : smallName "oneof".toList = "oneof" := by decide +kernel
  have hmeans : Filled (smallName "oneof".toList) (joinWith [','] (entries.map entryText))
      (.choice entries) := hname ▸ .choice hsome hparts hreads
  rw [compile_eq_ok_iff, toList_choiceText, trim_eq_self hform.trimmed]
  exact .bracketed hform hmeans

/-- **A choice follows its weights.** The text of a choice stands for it, and its values are those of
the draws below a hundred. The exact sums of the weights tell which entry a draw selects: each entry
but the last gets as many draws as its weight adds to the sum, up to a hundred, the last one gets the
draws that are left, and an entry without weight gets none unless it is the last. -/
theorem compile_choice_follows_weights (entries : List (String × UInt32)) (hentries : entries ≠ [])
    (hlabels : ∀ entry ∈ entries, PlainLabel entry.1) :
    compile (choiceText entries) = .ok (.choice entries) ∧
    (∀ stream, (Draw.range 0 100 stream).1 < 100 ∧ ((Generator.choice entries).draw stream).1 =
      Generator.choose entries (Draw.range 0 100 stream).1) ∧
    (∀ draw < 100, entries[Generator.selected entries draw]?.map (·.1) =
      some (Generator.choose entries draw)) ∧
    (∀ position, position + 1 < entries.length →
      (List.range 100).countP (Generator.selected entries · = position) =
        min 100 (Generator.weightSum entries (position + 1)) -
          min 100 (Generator.weightSum entries position)) ∧
    (List.range 100).countP (Generator.selected entries · = entries.length - 1) =
      100 - min 100 (Generator.weightSum entries (entries.length - 1)) ∧
    ∀ position label, position + 1 < entries.length → entries[position]? = some (label, 0) →
      ∀ draw, Generator.selected entries draw ≠ position := by
  refine ⟨compile_choiceText hentries hlabels, fun stream => ⟨Draw.range_lt (by decide) stream, rfl⟩,
    fun draw hdraw => Generator.label_selected hentries ?_,
    fun position => Generator.countP_selected, Generator.countP_selected_last hentries, ?_⟩
  · exact Nat.lt_trans hdraw (by decide)
  · intro position label hmore hentry draw hselected
    obtain ⟨hreached, hbelow⟩ :=
      (Generator.selected_eq_iff (Nat.lt_of_succ_lt hmore)).mp hselected
    have hsum := Generator.weightSum_succ hentry
    have hbelow := hbelow hmore
    simp only [UInt32.toNat_zero, Nat.add_zero] at hsum
    omega

/-- Labels with brackets, blanks and nothing in them, an entry without weight, and weights whose sum
exceeds a word. -/
theorem compile_choice_follows_weights_beyond_word :
    compile "oneof[a b(1)%30,%0,c[x]%4294967295,a b(1)%4294967295]" =
      .ok (.choice [("a b(1)", 30), ("", 0), ("c[x]", 4294967295), ("a b(1)", 4294967295)]) ∧
    (List.range 100).countP (Generator.selected
      [("a b(1)", 30), ("", 0), ("c[x]", 4294967295), ("a b(1)", 4294967295)] · = 2) = 70 := by
  have hlabels : ∀ entry ∈ [("a b(1)", (30 : UInt32)), ("", 0), ("c[x]", 4294967295),
      ("a b(1)", 4294967295)], PlainLabel entry.1 := by
    decide
  obtain ⟨hcompile, _, _, hcount, _⟩ :=
    compile_choice_follows_weights _ (List.cons_ne_nil _ _) hlabels
  exact ⟨hcompile, hcount 2 (by decide)⟩

end Rule

end SyntheticRows
