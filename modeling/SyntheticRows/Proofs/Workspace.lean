import SyntheticRows.Proofs.Text.Cut
import SyntheticRows.Workspace
/-!
# Ways to files

A path is followed part by part. A file can be made at its end exactly if all parts are short enough,
every step but the last one leads to a directory and the last one does not. Only the place at the end
changes then.
-/

namespace SyntheticRows.Workspace

open Text

variable {workspace workspace' : Workspace} {directory place parts : List String}
  {path text : String}

/-- The parts fit, and every step along them leads to a directory but the last one. -/
structure LeadsToFile (workspace : Workspace) (place parts : List String) : Prop where
  fits : ∀ part ∈ parts, FileFault.isTooLong part.toList = false
  steps : ∀ front, front <+: parts → front ≠ [] →
    (workspace.isDirectory (front.foldl Place.step place) = true ↔ front ≠ parts)

theorem leadsToFile_singleton_iff {part : String} :
    workspace.LeadsToFile place [part] ↔ FileFault.isTooLong part.toList = false ∧
      workspace.isDirectory (Place.step place part) = false := by
  constructor
  · rintro ⟨fits, steps⟩
    have hlast := steps [part] (List.prefix_refl _) (List.cons_ne_nil _ _)
    exact ⟨fits part List.mem_cons_self, by simpa using hlast⟩
  · rintro ⟨hfits, hlast⟩
    refine ⟨by simpa using hfits, fun front hfront hne => ?_⟩
    obtain ⟨next, front, rfl⟩ := List.exists_cons_of_ne_nil hne
    obtain ⟨rfl, hnil⟩ := List.cons_prefix_cons.mp hfront
    obtain rfl := List.prefix_nil.mp hnil
    simpa using hlast

theorem leadsToFile_cons_iff {part : String} (hparts : parts ≠ []) :
    workspace.LeadsToFile place (part :: parts) ↔ FileFault.isTooLong part.toList = false ∧
      workspace.isDirectory (Place.step place part) = true ∧
        workspace.LeadsToFile (Place.step place part) parts := by
  constructor
  · rintro ⟨fits, steps⟩
    obtain ⟨hpart, hothers⟩ := List.forall_mem_cons.mp fits
    refine ⟨hpart, ?_, hothers, fun front hfront hne => ?_⟩
    · refine (steps [part] ?_ (List.cons_ne_nil _ _)).mpr ?_
      · exact (List.prefix_cons_inj part).mpr List.nil_prefix
      · exact fun heq => hparts (List.cons.inj heq).2.symm
    · have hstep := steps (part :: front) ((List.prefix_cons_inj part).mpr hfront)
        (List.cons_ne_nil _ _)
      rwa [ne_eq, List.cons_inj_right] at hstep
  · rintro ⟨hpart, hfirst, hothers, steps⟩
    refine ⟨List.forall_mem_cons.mpr ⟨hpart, hothers⟩, fun front hfront hne => ?_⟩
    obtain ⟨next, front, rfl⟩ := List.exists_cons_of_ne_nil hne
    obtain ⟨rfl, hothers⟩ := List.cons_prefix_cons.mp hfront
    rw [ne_eq, List.cons_inj_right, List.foldl_cons]
    by_cases hnil : front = []
    · subst hnil
      exact iff_of_true hfirst hparts.symm
    · exact steps front hothers hnil

theorem faultOnWay?_eq_none_iff (hparts : parts ≠ []) :
    workspace.faultOnWay? place parts = none ↔ workspace.LeadsToFile place parts := by
  induction parts generalizing place with
  | nil => exact absurd rfl hparts
  | cons part parts ih =>
      unfold faultOnWay?
      dsimp only
      by_cases hnil : parts = []
      · subst hnil
        rw [leadsToFile_singleton_iff]
        cases FileFault.isTooLong part.toList <;>
          cases workspace.isDirectory (Place.step place part) <;> simp [faultOnWay?]
      · rw [leadsToFile_cons_iff hnil, ← ih hnil]
        cases FileFault.isTooLong part.toList <;>
          cases workspace.isDirectory (Place.step place part) <;>
            simp [hnil, apply_ite (· = none)]

theorem parts_ne_nil (path : String) : Place.parts path ≠ [] := by
  rw [Place.parts, ne_eq, List.map_eq_nil_iff]
  exact (splitAtEach_eq_iff.mp rfl).1

/-- **Files are made where paths lead to files.** A zero in the path, a part that is too long, a
directory at the end and anything else on the way stop it. -/
theorem create_eq_ok_iff :
    workspace.create directory path text = .ok workspace' ↔
      '\x00' ∉ path.toList ∧
        workspace.LeadsToFile (Place.start directory path) (Place.parts path) ∧
          workspace.put (Place.text (Place.follow directory path)) text = workspace' := by
  rw [← faultOnWay?_eq_none_iff (parts_ne_nil path), create]
  by_cases hzero : '\x00' ∈ path.toList
  · simp [hzero]
  · cases workspace.faultOnWay? (Place.start directory path) (Place.parts path) <;> simp [hzero]

end SyntheticRows.Workspace
