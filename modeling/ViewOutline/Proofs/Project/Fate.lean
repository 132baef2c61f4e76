import ViewOutline.Project.Analysis
import ViewOutline.Proofs.File.Remark
import ViewOutline.Proofs.File.Session
import ViewOutline.Proofs.Project.Listing
import ViewOutline.Proofs.Report.Merge

/-!
# What becomes of the files of a project

Each source file is merged, or cannot be parsed, or cannot be outlined, and which
of these it is depends on the file alone.  The report lists every file under its
fate.  So a file that fails, changes or goes away leaves all others as they are.
-/

namespace ViewOutline

namespace Report

/-! ## Entering failures -/

variable (report : Report) (failures : List (String × String))

end Report

namespace Project

/-! ## Fates -/

/-- What becomes of a source file. -/
inductive Fate where
  /-- It is merged into the report. -/
  | merged (outline : FileOutline)
  /-- It cannot be parsed. -/
  | unparsed (failure : ParseFailure)
  /-- It is parsed and cannot be outlined. -/
  | unoutlined (failure : Failure)

namespace Fate

/-- The outline of a file that is merged. -/
def outline? : Fate → Option FileOutline
  | .merged outline => some outline
  | _ => none

/-- Why a file cannot be parsed, as reports give it. -/
def parseReason? : Fate → Option String
  | .unparsed failure => some failure.reason
  | _ => none

/-- Why a parsed file cannot be outlined, as reports give it. -/
def outlineReason? : Fate → Option String
  | .unoutlined failure => some failure.message
  | _ => none

/-- The fate of a file that was parsed, or not. -/
def ofParse (vocabulary : Vocabulary) (stack : Stack) (path : String) :
    Except ParseFailure Node → Fate
  | .error failure => .unparsed failure
  | .ok tree =>
      match (FileOutline.ofTree vocabulary stack tree (some path)).outcome with
      | .ok outline => .merged outline
      | .error failure => .unoutlined failure

end Fate

/-- The fate of a file, if some front-end takes it. -/
def fate? (vocabulary : Vocabulary) (stack : Stack) (frontEnds : List FrontEnd)
    (file : Path × List UInt8) : Option Fate :=
  (frontEnds.find? fun frontEnd => frontEnd.handles file.1.text).map fun frontEnd =>
    .ofParse vocabulary stack file.1.text (frontEnd.parse file.2 file.1.text).value

/-- The fates of files, each with the path of its file. -/
def fates (vocabulary : Vocabulary) (stack : Stack) (frontEnds : List FrontEnd)
    (files : List (Path × List UInt8)) : List (String × Fate) :=
  files.filterMap fun file =>
    (fate? vocabulary stack frontEnds file).map fun fate => (file.1.text, fate)

/-- The files that share a kind of fate, in order. -/
def sharing {α : Type} (pick : Fate → Option α) (fates : List (String × Fate)) :
    List (String × α) :=
  fates.filterMap fun entry => (pick entry.2).map fun value => (entry.1, value)

section Sharing

variable {α : Type} {pick : Fate → Option α} {fates : List (String × Fate)}

theorem sharing_cons_some (pick : Fate → Option α) {path : String} {fate : Fate} {value : α}
    (picked : pick fate = some value) :
    sharing pick ((path, fate) :: fates) = (path, value) :: sharing pick fates := by
  rw [sharing, List.filterMap_cons_some (b := (path, value)) (by rw [picked]; rfl)]
  rfl

theorem sharing_cons_none (pick : Fate → Option α) {path : String} {fate : Fate}
    (picked : pick fate = none) :
    sharing pick ((path, fate) :: fates) = sharing pick fates := by
  rw [sharing, List.filterMap_cons_none (by rw [picked]; rfl)]
  rfl

theorem mem_sharing_iff (path : String) (value : α) :
    (path, value) ∈ sharing pick fates ↔
      ∃ fate, (path, fate) ∈ fates ∧ pick fate = some value := by
  simp only [sharing, List.mem_filterMap, Option.map_eq_some_iff, Prod.mk.injEq, Prod.exists]
  constructor
  · rintro ⟨_, fate, member, _, picked, rfl, rfl⟩
    exact ⟨fate, member, picked⟩
  · rintro ⟨fate, member, picked⟩
    exact ⟨path, fate, member, value, picked, rfl, rfl⟩

/-- Each file has one of the three kinds of fate. -/
theorem sharing_perm (fates : List (String × Fate)) :
    ((sharing Fate.outline? fates).map Prod.fst ++
        (sharing Fate.parseReason? fates ++ sharing Fate.outlineReason? fates).map Prod.fst).Perm
      (fates.map Prod.fst) := by
  induction fates with
  | nil => exact List.Perm.nil
  | cons entry rest ih =>
      obtain ⟨path, fate⟩ := entry
      rw [List.map_append] at ih ⊢
      cases fate with
      | merged outline =>
          rw [sharing_cons_some Fate.outline? rfl, sharing_cons_none Fate.parseReason? rfl,
            sharing_cons_none Fate.outlineReason? rfl]
          exact ih.cons path
      | unparsed failure =>
          rw [sharing_cons_none Fate.outline? rfl, sharing_cons_some Fate.parseReason? rfl,
            sharing_cons_none Fate.outlineReason? rfl]
          exact List.perm_middle.trans (ih.cons path)
      | unoutlined failure =>
          rw [sharing_cons_none Fate.outline? rfl, sharing_cons_none Fate.parseReason? rfl,
            sharing_cons_some Fate.outlineReason? rfl, List.map_cons, ← List.append_assoc]
          rw [← List.append_assoc] at ih
          exact List.perm_middle.trans (ih.cons path)

end Sharing

/-! ## The three passes -/

variable (vocabulary : Vocabulary) (stack : Stack) (frontEnds : List FrontEnd)

end Project

end ViewOutline
