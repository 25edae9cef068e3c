import SyntheticRows.Csv.Export
import SyntheticRows.Proofs.NameMap
import SyntheticRows.Proofs.Workspace
/-!
# Exports

An export writes the files of a store in turn and ends at the first one that cannot be made. Each
file that is written tells a table. The names of tables may lead to one place, where the last file
stays, and what stands at all other places is left as it is.
-/

namespace SyntheticRows

namespace Csv

/-- Where a file is written that belongs into a directory. -/
def TableFile.place (directory : List String) (file : TableFile) : String :=
  Place.text (Place.follow directory file.name)

variable {directory : List String} {workspace workspace' : Workspace} {file : TableFile}
  {files : List TableFile}

theorem exported_cons_of_error {fault : FileFault}
    (h : workspace.create directory file.name file.content = .error fault)
    (files : List TableFile) :
    exported directory workspace (file :: files) = ⟨[], workspace, .error fault⟩ := by
  rw [exported, h]

theorem exported_cons_of_ok
    (h : workspace.create directory file.name file.content = .ok workspace')
    (files : List TableFile) :
    exported directory workspace (file :: files) =
      { exported directory workspace' files with
        files := file :: (exported directory workspace' files).files } := by
  rw [exported, h]

/-- Files are written from the first one on, and all of them if none fails. -/
theorem exported_up_to_fault (directory : List String) (workspace : Workspace)
    (files : List TableFile) :
    (exported directory workspace files).files <+: files ∧
      ((exported directory workspace files).outcome = .ok () ↔
        (exported directory workspace files).files = files) := by
  induction files generalizing workspace with
  | nil => exact ⟨List.prefix_refl _, iff_of_true rfl rfl⟩
  | cons file files ih =>
      cases hmade : workspace.create directory file.name file.content with
      | error fault =>
          rw [exported_cons_of_error hmade]
          exact ⟨List.nil_prefix, iff_of_false nofun nofun⟩
      | ok workspace' =>
          obtain ⟨hfront, hall⟩ := ih workspace'
          rw [exported_cons_of_ok hmade]
          exact ⟨(List.prefix_cons_inj file).mpr hfront, hall.trans (List.cons_inj_right file).symm⟩

/-- After an export a place holds the last file that was written there, and what it held before if
there is none. -/
theorem get?_exported (directory : List String) (workspace : Workspace) (files : List TableFile)
    (place : String) :
    (exported directory workspace files).workspace.files.get? place =
      (((exported directory workspace files).files.reverse.find?
          (·.place directory == place)).map (·.content)).or (workspace.files.get? place) := by
  induction files generalizing workspace with
  | nil => rfl
  | cons file files ih =>
      cases hmade : workspace.create directory file.name file.content with
      | error fault =>
          rw [exported_cons_of_error hmade]
          rfl
      | ok workspace' =>
          have hput : workspace'.files.get? place =
              if place = file.place directory then some file.content
              else workspace.files.get? place := by
            obtain ⟨-, -, rfl⟩ := Workspace.create_eq_ok_iff.mp hmade
            exact NameMap.get?_insert workspace.files _ place file.content
          rw [exported_cons_of_ok hmade]
          dsimp only
          rw [ih, hput, List.reverse_cons, List.find?_append, Option.map_or, Option.or_assoc]
          by_cases hplace : place = file.place directory
          · simp [hplace]
          · simp [hplace, Ne.symm hplace]

/-- Dots lead out of the directory and back into it, but not through a file. -/
example :
    let files : List TableFile :=
      [⟨"../users", 0, "id\n"⟩, ⟨"./notes", 0, "note\n"⟩, ⟨"notes", 0, "text\n"⟩,
        ⟨"notes.csv/../codes", 0, "code\n"⟩]
    let result := exported ["data"] ((Workspace.ofFiles []).makeDirectory "data") files
    result.workspace.files.entries = [("data/notes.csv", "text\n"), ("users.csv", "id\n")] ∧
      result.outcome = .error .notDirectory := by
  decide +kernel

/-- A file that is written is the file of a table of the store. -/
theorem exists_table_of_mem_exported {store : MemoryStore}
    (h : file ∈ (exported directory workspace (tableFiles store)).files) :
    ∃ table, store.tables.get? file.table = some table ∧ file = .ofTable file.table table := by
  obtain ⟨⟨name, table⟩, hentry, rfl⟩ :=
    List.mem_map.mp ((exported_up_to_fault directory workspace (tableFiles store)).1.subset h)
  exact ⟨table, NameMap.get?_eq_some_iff_mem.mpr hentry, rfl⟩

end Csv

end SyntheticRows
