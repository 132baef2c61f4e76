import ViewOutline.Kotlin.FrontEnd
import ViewOutline.Proofs.Project.Listing

/-!
# Which files below the source sets are listed

A project with source sets lists every file below them that some front-end takes,
once, the source sets in their order and the files of each in the order of paths.
The names that are passed over count below a source set as they do above it, so a
package of such a name is left out with all its files.
-/

namespace ViewOutline.Discovery

open Entry

/-- A file of a project below a source set that some front-end takes. -/
structure Recognised (frontEnds : List FrontEnd) (project : Entry) (set directories : Path)
    (name : String) (bytes : List UInt8) : Prop where
  isSet : set ∈ sourceSets
  found : project.at? (set ++ directories ++ [name]) = some (.file bytes)
  handled : ∃ frontEnd ∈ frontEnds,
    frontEnd.handles (Path.text (set ++ directories ++ [name])) = true

/-- The order of paths below the source sets. -/
inductive SetBefore : Path → Path → Prop
  /-- The first path is below an earlier source set. -/
  | sets {set other first second : Path} : [set, other].Sublist sourceSets →
      set <+: first → other <+: second → SetBefore first second
  /-- The first path is the lesser one below the same source set. -/
  | paths {set first second : Path} : set ∈ sourceSets →
      set <+: first → set <+: second → first < second → SetBefore first second

/-- How the source files of a project cover its source sets. -/
structure CoversSets (frontEnds : List FrontEnd) (project : Entry) : Prop where
  /-- The files are listed in the order of the source sets and their paths. -/
  ordered : (sourceFiles frontEnds project).Pairwise fun first second =>
    SetBefore first.1 second.1
  /-- Only recognised files are listed. -/
  recognised : ∀ file ∈ sourceFiles frontEnds project, ∃ set directories name,
    file.1 = set ++ directories ++ [name] ∧
      Recognised frontEnds project set directories name file.2
  /-- A recognised file is listed once, if neither the directories between the source
  set and the file nor the file have a name that is passed over. -/
  listed : ∀ set directories name bytes,
    Recognised frontEnds project set directories name bytes →
    (∀ directory ∈ directories, directory ∉ skippedNames) → name ∉ skippedNames →
      (set ++ directories ++ [name], bytes) ∈ sourceFiles frontEnds project ∧
        ((sourceFiles frontEnds project).map Prod.fst).count (set ++ directories ++ [name]) = 1
  /-- A file in a directory that is passed over is not listed. -/
  passedOver : ∀ set directories name, ∀ directory ∈ directories, directory ∈ skippedNames →
    set ++ directories ++ [name] ∉ (sourceFiles frontEnds project).map Prod.fst

variable {frontEnds : List FrontEnd} {project : Entry}

theorem isKept_iff (path : Path) : isKept path = true ↔ ∀ name ∈ path, name ∉ skippedNames := by
  simp [isKept]

theorem isSource_iff (path : Path) :
    isSource frontEnds path = true ↔
      ∃ frontEnd ∈ frontEnds, frontEnd.handles path.text = true :=
  List.any_eq_true

/-- No part of the place of a source set is passed over. -/
theorem not_mem_skippedNames {set : Path} (isSet : set ∈ sourceSets) {name : String}
    (member : name ∈ set) : name ∉ skippedNames := by
  have kept : ∀ set ∈ sourceSets, ∀ name ∈ set, name ∉ skippedNames := by
    decide
  exact kept set isSet name member

theorem isKept_of_mem_sourceFiles (wellNamed : project.WellNamed) {path : Path}
    (listed : path ∈ (sourceFiles frontEnds project).map Prod.fst) : isKept path = true := by
  obtain ⟨⟨_, bytes⟩, member, rfl⟩ := List.mem_map.mp listed
  obtain ⟨root, _, below⟩ := List.mem_flatMap.mp member
  exact ((mem_filesBelow_iff wellNamed _ _).mp below).2.2.1

/-- What is listed of a project with source sets is listed below one of them. -/
theorem sourceFiles_eq_flatMap (frontEnds : List FrontEnd) {set : Path}
    (isSet : set ∈ sourceSets) (present : project.hasFolder set = true) :
    sourceFiles frontEnds project =
      (sourceSets.filter project.hasFolder).flatMap (filesBelow frontEnds project) := by
  rw [sourceFiles, sourceRoots_eq_filter isSet present]

theorem pairwise_setBefore (wellNamed : project.WellNamed) {sets : List Path}
    (inOrder : sets.Sublist sourceSets) :
    (sets.flatMap (filesBelow frontEnds project)).Pairwise fun first second =>
      SetBefore first.1 second.1 := by
  have inside : ∀ set file, file ∈ filesBelow frontEnds project set → set <+: file.1 :=
    fun set file below => ((mem_filesBelow_iff wellNamed file.1 file.2).mp below).1.1
  rw [List.pairwise_flatMap]
  constructor
  · intro set member
    refine (pairwise_filesBelow wellNamed set).imp_of_mem ?_
    intro first second firstBelow secondBelow less
    exact .paths (inOrder.subset member) (inside set first firstBelow)
      (inside set second secondBelow) less
  · rw [List.pairwise_iff_forall_sublist]
    intro set other pair first firstBelow second secondBelow
    exact .sets (pair.trans inOrder) (inside set first firstBelow)
      (inside other second secondBelow)

theorem exists_recognised (wellNamed : project.WellNamed) {set : Path} (isSet : set ∈ sourceSets)
    {file : Path × List UInt8} (below : file ∈ filesBelow frontEnds project set) :
    ∃ directories name, file.1 = set ++ directories ++ [name] ∧
      Recognised frontEnds project set directories name file.2 := by
  obtain ⟨path, bytes⟩ := file
  obtain ⟨⟨⟨rest, rfl⟩, proper⟩, found, _, source⟩ := (mem_filesBelow_iff wellNamed _ _).mp below
  have nonempty : rest ≠ [] := by
    rintro rfl
    exact proper (List.append_nil set)
  obtain ⟨directories, name, rfl⟩ := List.eq_nil_or_concat' rest |>.resolve_left nonempty
  rw [← List.append_assoc] at found source
  exact ⟨directories, name, (List.append_assoc ..).symm, isSet, found, (isSource_iff _).mp source⟩

/-- A recognised file is listed below its source set if no name on its way is passed
over. -/
theorem Recognised.mem_filesBelow (wellNamed : project.WellNamed) {set directories : Path}
    {name : String} {bytes : List UInt8}
    (recognised : Recognised frontEnds project set directories name bytes)
    (free : ∀ directory ∈ directories, directory ∉ skippedNames) (named : name ∉ skippedNames) :
    (set ++ directories ++ [name], bytes) ∈ filesBelow frontEnds project set := by
  rw [mem_filesBelow_iff wellNamed]
  refine ⟨⟨?_, by simp⟩, recognised.found, ?_, (isSource_iff _).mpr recognised.handled⟩
  · rw [List.append_assoc]
    exact List.prefix_append set _
  · rw [isKept_iff, List.forall_mem_append, List.forall_mem_append, List.forall_mem_singleton]
    exact ⟨⟨fun _ => not_mem_skippedNames recognised.isSet, free⟩, named⟩

theorem Recognised.hasFolder {set directories : Path} {name : String} {bytes : List UInt8}
    (recognised : Recognised frontEnds project set directories name bytes) :
    project.hasFolder set = true := by
  have found := recognised.found
  rw [List.append_assoc] at found
  exact hasFolder_of_at?_append (by simp) found

/-- A project with a source set lists what is recognised below its source sets. -/
theorem sourceFiles_coverSets (frontEnds : List FrontEnd) (project : Entry)
    (wellNamed : project.WellNamed)
    (present : ∃ set ∈ sourceSets, project.hasFolder set = true) :
    CoversSets frontEnds project := by
  obtain ⟨set, isSet, isFolder⟩ := present
  have listing := sourceFiles_eq_flatMap frontEnds isSet isFolder
  constructor
  · rw [listing]
    exact pairwise_setBefore wellNamed List.filter_sublist
  · intro file member
    rw [listing, List.mem_flatMap] at member
    obtain ⟨root, isRoot, below⟩ := member
    exact ⟨root, exists_recognised wellNamed (List.mem_filter.mp isRoot).1 below⟩
  · intro root directories name bytes recognised free named
    have member : (root ++ directories ++ [name], bytes) ∈ sourceFiles frontEnds project := by
      rw [listing, List.mem_flatMap]
      exact ⟨root, List.mem_filter.mpr ⟨recognised.isSet, recognised.hasFolder⟩,
        recognised.mem_filesBelow wellNamed free named⟩
    exact ⟨member, List.count_eq_one_of_mem (nodup_sourceFiles wellNamed)
      (List.mem_map.mpr ⟨_, member, rfl⟩)⟩
  · intro root directories name directory between skipped listed
    have kept := (isKept_iff _).mp (isKept_of_mem_sourceFiles wellNamed listed)
    exact kept directory (by simp [between]) skipped

/-- A screen and, in a package that is named as a folder of build results, a view. -/
def packagedProject : Entry :=
  .folder [("src", .folder [("main", .folder [("kotlin", .folder [("com", .folder [
    ("Screen.kt", .file [1]), ("build", .folder [("View.kt", .file [2])])])])])])]

theorem wellNamed_packagedProject : packagedProject.WellNamed := by
  have package : (folder [("Screen.kt", .file [1]),
      ("build", .folder [("View.kt", .file [2])])]).WellNamed := by
    refine .folder (by decide) (by decide) ?_
    simp only [List.forall_mem_cons]
    exact ⟨.file _, .single (by decide) (.file _), by rintro _ ⟨⟩⟩
  exact .single (by decide) (.single (by decide) (.single (by decide)
    (.single (by decide) package)))

/-- The Kotlin front-end of a parser that knows no source. -/
def blindFrontEnd : FrontEnd :=
  Kotlin.frontEnd fun _ => .error ⟨"ValueError", "no tree"⟩

theorem sourceFiles_packagedProject :
    packagedProject.WellNamed ∧
      (∃ set ∈ sourceSets, packagedProject.hasFolder set = true) ∧
      CoversSets [blindFrontEnd] packagedProject ∧
      (["src", "main", "kotlin", "com", "Screen.kt"], [1]) ∈
        sourceFiles [blindFrontEnd] packagedProject := by
  have present : ∃ set ∈ sourceSets, packagedProject.hasFolder set = true :=
    ⟨["src", "main", "kotlin"], by decide, by decide⟩
  have covers := sourceFiles_coverSets [blindFrontEnd] packagedProject wellNamed_packagedProject
    present
  refine ⟨wellNamed_packagedProject, present, covers, ?_⟩
  exact (covers.listed ["src", "main", "kotlin"] ["com"] "Screen.kt" [1]
    ⟨by decide, rfl, blindFrontEnd, List.mem_singleton_self _, by decide⟩ (by decide)
    (by decide)).1

/-- The view is recognised below the source set, and it is not listed. -/
theorem packaged_view_not_listed :
    packagedProject.WellNamed ∧
      Recognised [blindFrontEnd] packagedProject ["src", "main", "kotlin"] ["com", "build"]
        "View.kt" [2] ∧
      ["src", "main", "kotlin", "com", "build", "View.kt"] ∉
        (sourceFiles [blindFrontEnd] packagedProject).map Prod.fst := by
  refine ⟨wellNamed_packagedProject, ?_, ?_⟩
  · exact ⟨by decide, rfl, blindFrontEnd, List.mem_singleton_self _, by decide⟩
  · intro listed
    have kept := isKept_of_mem_sourceFiles wellNamed_packagedProject listed
    exact absurd kept (by decide)

end ViewOutline.Discovery
