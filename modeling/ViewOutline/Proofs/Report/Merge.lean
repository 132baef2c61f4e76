import ViewOutline.Report
import ViewOutline.Proofs.File.Independence
import Mathlib.Data.List.Induction

/-!
# Merging the files of a project

Files are merged one after the other.  The first file that declares a class gives
everything that is reported about it, and what later files say about that class is
left out, with a warning each time.  So files that declare no class in common can
be merged in either order.
-/

namespace ViewOutline

/-- An outline that some tree has. -/
def FileOutline.Outlined (outline : FileOutline) : Prop :=
  ∃ vocabulary stack tree path,
    (FileOutline.ofTree vocabulary stack tree path).outcome = .ok outline

/-- An outline lists classes, and their graphs are forests. -/
theorem FileOutline.Outlined.exists_lists {outline : FileOutline} (outlined : outline.Outlined) :
    ∃ entries, outline.Lists entries ∧
      ∀ entry ∈ entries, entry.harvest.graph.violations = [] := by
  obtain ⟨vocabulary, stack, tree, path, returns⟩ := outlined
  cases tree with
  | file root =>
      obtain ⟨entries, brings⟩ := SourceFile.exists_brings returns
      refine ⟨entries, brings.lists, ?_⟩
      intro entry member
      obtain ⟨decl, _, entryReturns⟩ := brings.exists_decl member
      obtain ⟨_, _, found, _⟩ := StructuredDecl.entry_eq_ok_iff.mp entryReturns
      exact (Node.values_and_violations found).2
  | _ => cases returns

/-- Nothing is found for a class that is not listed. -/
theorem FileOutline.Lists.agree_empty {outline : FileOutline} {entries : List ClassEntry}
    {name : String} (lists : outline.Lists entries)
    (absent : name ∉ entries.map ClassEntry.name) : outline.Agree .empty name := by
  have absentAmong : ∀ test, name ∉ (entries.filter test).map ClassEntry.name :=
    fun _ member => absent ((List.filter_sublist.map ClassEntry.name).subset member)
  constructor
  · exact (Table.find?_eq_none_iff _ _).mpr (lists.keys_classes ▸ absent)
  · exact (Table.find?_eq_none_iff _ _).mpr (lists.keys_controls ▸ absentAmong _)
  · exact (Table.find?_eq_none_iff _ _).mpr (lists.keys_graphs ▸ absentAmong _)
  · exact (Table.find?_eq_none_iff _ _).mpr (lists.keys_imports ▸ absentAmong _)

theorem FileOutline.Agree.symm {outline other : FileOutline} {name : String}
    (agree : outline.Agree other name) : other.Agree outline name :=
  ⟨agree.classes.symm, agree.controls.symm, agree.graphs.symm, agree.imports.symm⟩

theorem FileOutline.Agree.trans {outline other third : FileOutline} {name : String}
    (agree : outline.Agree other name) (next : other.Agree third name) :
    outline.Agree third name :=
  ⟨agree.classes.trans next.classes, agree.controls.trans next.controls,
    agree.graphs.trans next.graphs, agree.imports.trans next.imports⟩

namespace Report

/-- Merge files one after the other, each with its path. -/
def mergeAll (report : Report) (files : List (String × FileOutline)) : Logged Report :=
  files.foldlM (fun report file => report.merge file.1 file.2) report

/-- Whether one of some files declares a class. -/
def declares (files : List (String × FileOutline)) (name : String) : Bool :=
  files.any fun file => file.2.classes.contains name

/-- The warnings about a file: one for each of its classes that an earlier file
declares. -/
def warningsOn (earlier : List (String × FileOutline)) (file : String × FileOutline) :
    List Event :=
  (file.2.classes.keys.filter (declares earlier)).map fun name => .shadowedClass name file.1

/-- The warnings about files that come after others. -/
def redefinitions (earlier : List (String × FileOutline)) :
    List (String × FileOutline) → List Event
  | [] => []
  | file :: rest => warningsOn earlier file ++ redefinitions (earlier ++ [file]) rest

/-- What a report takes from files that are merged in order. -/
structure Collects (files : List (String × FileOutline)) (done : Logged Report) : Prop where
  /-- The classes are listed in the order in which they are first declared. -/
  classes : done.value.merged.classes.keys =
    (files.flatMap fun file => file.2.classes.keys).eraseDups
  /-- Everything about a class comes from the first file that declares it, or is
  missing because that file does not have it. -/
  agree : ∀ name file, files.find? (fun file => file.2.classes.contains name) = some file →
    done.value.merged.Agree file.2 name
  /-- The functions of all files are listed. -/
  functions : done.value.merged.functions = files.flatMap fun file => file.2.functions
  /-- The notes of all files are listed, each with the path of its file. -/
  notes : done.value.merged.notes =
    files.flatMap fun file => file.2.notes.map fun note => file.1 ++ ": " ++ note
  paths : done.value.files = files.map Prod.fst
  /-- There is one warning for each later declaration of a class, and no other
  event. -/
  warnings : done.events = redefinitions [] files

/-! ## One class -/

variable {outline merged : FileOutline} {entries known : List ClassEntry} {entry : ClassEntry}

/-- A class is taken over as if its file were still being outlined. -/
theorem takeClass_eq_enter (lists : outline.Lists entries) (member : entry ∈ entries)
    (merged : FileOutline) : takeClass merged outline entry.name = merged.enter entry := by
  have classEq := lists.find?_classes member
  have controlsEq := lists.find?_controls member
  have graphEq := lists.find?_graphs member
  have importEq := lists.find?_imports member
  have containsEq : outline.controls.contains entry.name = entry.hasControls := by
    rw [Bool.eq_iff_iff, Table.contains_iff, Table.mem_keys_iff, controlsEq, ClassEntry.controls?]
    simp
  have emptyEq : entry.harvest.controls.isEmpty = !entry.hasControls := by
    rw [ClassEntry.hasControls, Bool.not_not]
  rw [ClassEntry.controls?] at controlsEq
  rw [ClassEntry.graph?] at graphEq
  cases builds : entry.hasControls <;> cases imported : entry.importPath <;>
    simp [takeClass, copyEntry, FileOutline.enter, FileOutline.addClass, classEq, controlsEq,
      graphEq, importEq, containsEq, emptyEq, builds, imported]

/-- Some classes of a file are merged into an outline that lists others. -/
structure TakesOver (path : String) (known entries : List ClassEntry) (merged : FileOutline)
    (done : Logged FileOutline) : Prop where
  lists : done.value.Lists
    (known ++ entries.filter fun entry => entry.name ∉ known.map ClassEntry.name)
  functions : done.value.functions = merged.functions
  notes : done.value.notes = merged.notes
  events : done.events =
    ((entries.map ClassEntry.name).filter (· ∈ known.map ClassEntry.name)).map
      fun name => .shadowedClass name path

theorem mergeClass_of_known {name : String} (taken : name ∈ merged.classes.keys) (path : String)
    (outline : FileOutline) :
    mergeClass path outline merged name = ⟨[.shadowedClass name path], merged⟩ := by
  rw [mergeClass, if_pos ((merged.classes.contains_iff name).mpr taken)]
  rfl

theorem mergeClass_of_new {name : String} (new : name ∉ merged.classes.keys) (path : String)
    (outline : FileOutline) :
    mergeClass path outline merged name = pure (takeClass merged outline name) := by
  rw [mergeClass, if_neg (fun present => new ((merged.classes.contains_iff name).mp present))]

/-- The classes that are not known are listed last, and for each of the others
there is a warning. -/
theorem mergeClasses_takesOver (path : String) (lists : outline.Lists entries)
    {rest : List ClassEntry} (among : ∀ entry ∈ rest, entry ∈ entries)
    (nodup : (rest.map ClassEntry.name).Nodup) (mergedLists : merged.Lists known) :
    TakesOver path known rest merged
      (mergeClasses path outline merged (rest.map ClassEntry.name)) := by
  induction rest generalizing merged known with
  | nil =>
      refine ⟨?_, rfl, rfl, rfl⟩
      rw [List.filter_nil, List.append_nil]
      exact mergedLists
  | cons entry rest ih =>
      rw [List.map_cons, List.nodup_cons] at nodup
      obtain ⟨entryNew, restNodup⟩ := nodup
      have restAmong : ∀ other ∈ rest, other ∈ entries := fun other member =>
        among other (List.mem_cons_of_mem _ member)
      rw [List.map_cons, mergeClasses]
      by_cases taken : entry.name ∈ known.map ClassEntry.name
      · have done := ih restAmong restNodup mergedLists
        rw [mergeClass_of_known (mergedLists.keys_classes ▸ taken)]
        constructor
        · rw [List.filter_cons_of_neg (by simpa using taken)]
          exact done.lists
        · exact done.functions
        · exact done.notes
        · rw [Logged.events_bind, List.map_cons, List.filter_cons_of_pos (by simpa using taken),
            List.map_cons, done.events, List.singleton_append]
      · have done := ih restAmong restNodup (mergedLists.enter taken)
        have sameNames : ∀ name ∈ rest.map ClassEntry.name,
            decide (name ∈ (known ++ [entry]).map ClassEntry.name) =
              decide (name ∈ known.map ClassEntry.name) := by
          intro name member
          have different : name ≠ entry.name := fun same => entryNew (same ▸ member)
          simp [different]
        have sameNew : rest.filter (fun other =>
              other.name ∉ (known ++ [entry]).map ClassEntry.name) =
            rest.filter fun other => other.name ∉ known.map ClassEntry.name := by
          apply List.filter_congr
          intro other member
          rw [decide_not, decide_not, sameNames _ (List.mem_map_of_mem member)]
        rw [mergeClass_of_new (mergedLists.keys_classes ▸ taken), pure_bind,
          takeClass_eq_enter lists (among entry List.mem_cons_self)]
        constructor
        · rw [List.filter_cons_of_pos (by simpa using taken), ← sameNew, List.append_cons]
          exact done.lists
        · exact done.functions
        · exact done.notes
        · rw [List.map_cons, List.filter_cons_of_neg (by simpa using taken), done.events,
            List.filter_congr sameNames]

/-! ## One file -/

variable {files : List (String × FileOutline)} {done : Logged Report}

/-- A class is declared if there is a first file that declares it. -/
theorem declares_eq_isSome (files : List (String × FileOutline)) (name : String) :
    declares files name = (files.find? fun file => file.2.classes.contains name).isSome :=
  List.isSome_find?.symm

/-- Names that occur once stay as they are. -/
theorem eraseDups_of_nodup {names : List String} (nodup : names.Nodup) :
    names.eraseDups = names := by
  induction names with
  | nil => rfl
  | cons name rest ih =>
      obtain ⟨nameNew, restNodup⟩ := List.nodup_cons.mp nodup
      have kept : rest.filter (fun other => !other == name) = rest := by
        rw [List.filter_eq_self]
        intro other member
        have different : other ≠ name := fun same => nameNew (same ▸ member)
        simpa using different
      rw [List.eraseDups_cons, kept, ih restNodup]

theorem redefinitions_append (earlier first second : List (String × FileOutline)) :
    redefinitions earlier (first ++ second) =
      redefinitions earlier first ++ redefinitions (earlier ++ first) second := by
  induction first generalizing earlier with
  | nil => rw [List.nil_append, List.append_nil, redefinitions, List.nil_append]
  | cons file rest ih =>
      rw [List.cons_append, redefinitions, redefinitions, ih, List.append_assoc, List.append_assoc,
        List.singleton_append]

theorem level_redefinitions (earlier files : List (String × FileOutline)) :
    ∀ event ∈ redefinitions earlier files, event.level = .warning := by
  induction files generalizing earlier with
  | nil => rintro _ ⟨⟩
  | cons file rest ih =>
      intro event member
      rw [redefinitions, List.mem_append] at member
      rcases member with own | later
      · obtain ⟨name, _, rfl⟩ := List.mem_map.mp own
        rfl
      · exact ih (earlier ++ [file]) event later

theorem mergeAll_concat (report : Report) (files : List (String × FileOutline)) (path : String)
    (outline : FileOutline) :
    report.mergeAll (files ++ [(path, outline)]) =
      report.mergeAll files >>= fun merged => merged.merge path outline := by
  rw [mergeAll, List.foldlM_append]
  simp only [List.foldlM_cons, List.foldlM_nil, bind_pure]
  rfl

theorem merge_takesOver (path : String) (lists : outline.Lists entries)
    (mergedLists : done.value.merged.Lists known) :
    TakesOver path known entries done.value.merged
      (mergeClasses path outline done.value.merged outline.classes.keys) := by
  rw [lists.keys_classes]
  exact mergeClasses_takesOver path lists (fun _ member => member) lists.nodup_names mergedLists

/-- The classes of a file that are not known are listed last. -/
theorem merge_lists (path : String) (lists : outline.Lists entries)
    (mergedLists : done.value.merged.Lists known) :
    (done.value.merge path outline).value.merged.Lists
      (known ++ entries.filter fun entry => entry.name ∉ known.map ClassEntry.name) := by
  have took := merge_takesOver path lists mergedLists
  exact ⟨took.lists.classes, took.lists.controls, took.lists.graphs, took.lists.imports⟩

namespace Collects

theorem mem_classes_iff (collects : Collects files done) (name : String) :
    name ∈ done.value.merged.classes.keys ↔ declares files name = true := by
  rw [collects.classes, List.mem_eraseDups, List.mem_flatMap, declares, List.any_eq_true]
  simp only [Table.contains_iff]

/-- The known classes are those of the files so far. -/
theorem known_iff (collects : Collects files done)
    (mergedLists : done.value.merged.Lists known) (name : String) :
    name ∈ known.map ClassEntry.name ↔ declares files name = true := by
  rw [← mergedLists.keys_classes, collects.mem_classes_iff]

theorem classes_concat (collects : Collects files done) (path : String)
    (lists : outline.Lists entries) (mergedLists : done.value.merged.Lists known) :
    (done.value.merge path outline).value.merged.classes.keys =
      ((files ++ [(path, outline)]).flatMap fun file => file.2.classes.keys).eraseDups := by
  let unknown := entries.filter fun entry => entry.name ∉ known.map ClassEntry.name
  have unknownEq : outline.classes.keys.removeAll
      (files.flatMap fun file => file.2.classes.keys) = unknown.map ClassEntry.name := by
    rw [lists.keys_classes, List.removeAll, List.filter_map]
    congr 2
    funext entry
    rw [← mergedLists.keys_classes, collects.classes, decide_not]
    simp only [Function.comp_apply, List.elem_eq_mem, List.mem_eraseDups]
  have unknownNodup : (unknown.map ClassEntry.name).Nodup :=
    lists.nodup_names.sublist (List.filter_sublist.map ClassEntry.name)
  rw [(merge_lists path lists mergedLists).keys_classes, List.map_append, List.flatMap_append,
    List.flatMap_singleton, List.eraseDups_append, unknownEq, eraseDups_of_nodup unknownNodup,
    ← collects.classes, mergedLists.keys_classes]

theorem agree_concat (collects : Collects files done) {path : String}
    (lists : outline.Lists entries) (mergedLists : done.value.merged.Lists known)
    {name : String} {file : String × FileOutline}
    (found : (files ++ [(path, outline)]).find? (fun file => file.2.classes.contains name) =
      some file) :
    (done.value.merge path outline).value.merged.Agree file.2 name := by
  have nextLists := merge_lists path lists mergedLists
  rw [List.find?_append] at found
  cases firstFound : files.find? fun file => file.2.classes.contains name with
  | some first =>
      -- The class is known, and nothing about it changes.
      rw [firstFound, Option.some_or] at found
      obtain rfl : first = file := Option.some.inj found
      have declared : name ∈ known.map ClassEntry.name := by
        rw [collects.known_iff mergedLists, declares_eq_isSome, firstFound, Option.isSome_some]
      obtain ⟨entry, member, rfl⟩ := List.mem_map.mp declared
      have kept := nextLists.agree mergedLists (List.mem_append_left _ member) member
      exact kept.trans (collects.agree _ _ firstFound)
  | none =>
      rw [firstFound, Option.none_or] at found
      cases List.mem_singleton.mp (List.mem_of_find?_eq_some found)
      have declared := List.find?_some found
      rw [Table.contains_iff, lists.keys_classes] at declared
      obtain ⟨entry, member, rfl⟩ := List.mem_map.mp declared
      have new : entry.name ∉ known.map ClassEntry.name := by
        rw [collects.known_iff mergedLists, declares_eq_isSome, firstFound, Option.isSome_none]
        exact Bool.false_ne_true
      have listed : entry ∈ entries.filter fun entry => entry.name ∉ known.map ClassEntry.name :=
        List.mem_filter.mpr ⟨member, decide_eq_true new⟩
      exact nextLists.agree lists (List.mem_append_right _ listed) member

theorem events_merge (collects : Collects files done) (path : String)
    (lists : outline.Lists entries) (mergedLists : done.value.merged.Lists known) :
    (done.value.merge path outline).events = warningsOn files (path, outline) := by
  have sameNames : ∀ name ∈ outline.classes.keys,
      decide (name ∈ known.map ClassEntry.name) = declares files name := by
    intro name _
    rw [Bool.eq_iff_iff, decide_eq_true_iff, collects.known_iff mergedLists]
  rw [merge, Logged.events_bind, (merge_takesOver path lists mergedLists).events,
    ← lists.keys_classes, List.filter_congr sameNames, Logged.events_pure, List.append_nil]
  rfl

/-- One more file adds the classes that it is the first to declare, and all else
that it has. -/
theorem concat (collects : Collects files done) (path : String)
    (lists : outline.Lists entries) (mergedLists : done.value.merged.Lists known) :
    Collects (files ++ [(path, outline)])
      (done >>= fun report => report.merge path outline) := by
  have took := merge_takesOver path lists mergedLists
  constructor
  · exact collects.classes_concat path lists mergedLists
  · intro name file found
    exact collects.agree_concat lists mergedLists found
  · rw [List.flatMap_append, List.flatMap_singleton, ← collects.functions, ← took.functions]
    rfl
  · rw [List.flatMap_append, List.flatMap_singleton, ← collects.notes, ← took.notes]
    rfl
  · rw [List.map_append, List.map_singleton, ← collects.paths]
    rfl
  · rw [Logged.events_bind, collects.events_merge path lists mergedLists, collects.warnings,
      redefinitions_append, List.nil_append, redefinitions, redefinitions, List.append_nil]

end Collects

/-! ## All files -/

/-- Merging files collects what they have, and lists classes whose graphs are
forests. -/
theorem mergeAll_collects (projectName : String) (files : List (String × FileOutline))
    (outlined : ∀ file ∈ files, file.2.Outlined) :
    Collects files ((Report.new projectName).mergeAll files) ∧
      ∃ known, ((Report.new projectName).mergeAll files).value.merged.Lists known ∧
        ∀ entry ∈ known, entry.harvest.graph.violations = [] := by
  induction files using List.reverseRecOn with
  | nil =>
      refine ⟨⟨rfl, ?_, rfl, rfl, rfl, rfl⟩, [], .empty, ?_⟩
      · rintro _ _ ⟨⟩
      · rintro _ ⟨⟩
  | append_singleton files file ih =>
      rcases file with ⟨path, outline⟩
      obtain ⟨collects, known, mergedLists, knownForests⟩ := ih fun file member =>
        outlined file (List.mem_append_left _ member)
      obtain ⟨entries, lists, forests⟩ :=
        (outlined (path, outline) (List.mem_append_right _ List.mem_cons_self)).exists_lists
      rw [mergeAll_concat]
      refine ⟨collects.concat path lists mergedLists, _, merge_lists path lists mergedLists, ?_⟩
      intro entry member
      rcases List.mem_append.mp member with old | new
      · exact knownForests entry old
      · exact forests entry (List.mem_of_mem_filter new)

/-- In a report of files the first declaration of a class wins, and the tables fit
together. -/
structure FirstWins (files : List (String × FileOutline)) (done : Logged Report) : Prop
    extends Collects files done where
  /-- Graphs are listed for the classes that have controls. -/
  graphs : done.value.merged.graphs.keys = done.value.merged.controls.keys
  controls : ∀ name ∈ done.value.merged.controls.keys, name ∈ done.value.merged.classes.keys
  imports : ∀ name ∈ done.value.merged.imports.keys, name ∈ done.value.merged.classes.keys
  /-- Every graph is a forest. -/
  forests : ∀ name graph, done.value.merged.graphs.find? name = some graph →
    graph.violations = []
  level : ∀ event ∈ done.events, event.level = .warning

theorem Collects.firstWins (collects : Collects files done)
    (mergedLists : done.value.merged.Lists known)
    (knownForests : ∀ entry ∈ known, entry.harvest.graph.violations = []) :
    FirstWins files done := by
  refine ⟨collects, ?_, ?_, ?_, ?_, ?_⟩
  · rw [mergedLists.keys_graphs, mergedLists.keys_controls]
  · rw [mergedLists.keys_controls, mergedLists.keys_classes]
    exact (List.filter_sublist.map ClassEntry.name).subset
  · rw [mergedLists.keys_imports, mergedLists.keys_classes]
    exact (List.filter_sublist.map ClassEntry.name).subset
  · intro name graph found
    rw [Table.find?_eq_some_iff, mergedLists.graphs] at found
    obtain ⟨entry, member, pairEq⟩ := List.mem_map.mp found
    cases pairEq
    exact knownForests entry (List.mem_of_mem_filter member)
  · rw [collects.warnings]
    exact level_redefinitions [] files

/-! ## Files in another order -/

/-- Two reports differ at most in the order of what they list. -/
structure Reorders (done other : Logged Report) : Prop where
  merged : done.value.merged.Rearranges other.value.merged
  files : done.value.files.Perm other.value.files
  events : done.events.Perm other.events
  projectName : done.value.projectName = other.value.projectName
  failedFiles : done.value.failedFiles = other.value.failedFiles

theorem redefinitions_congr {earlier other : List (String × FileOutline)}
    (same : ∀ name, declares earlier name = declares other name)
    (files : List (String × FileOutline)) :
    redefinitions earlier files = redefinitions other files := by
  induction files generalizing earlier other with
  | nil => rfl
  | cons file rest ih =>
      have sameNext : ∀ name,
          declares (earlier ++ [file]) name = declares (other ++ [file]) name := by
        intro name
        have sameName := same name
        rw [declares, declares] at sameName ⊢
        rw [List.any_append, List.any_append, sameName]
      have sameDeclares : declares earlier = declares other := funext same
      rw [redefinitions, redefinitions, warningsOn, warningsOn, sameDeclares, ih sameNext]

/-- A file that declares none of the classes of another causes no warning about it. -/
theorem warningsOn_concat {first second : String × FileOutline}
    (apart : ∀ name ∈ second.2.classes.keys, name ∉ first.2.classes.keys)
    (earlier : List (String × FileOutline)) :
    warningsOn (earlier ++ [first]) second = warningsOn earlier second := by
  rw [warningsOn, warningsOn]
  congr 1
  apply List.filter_congr
  intro name member
  have absent : first.2.classes.contains name = false := by
    rw [Bool.eq_false_iff, Ne, Table.contains_iff]
    exact apart name member
  simp [declares, List.any_append, absent]

variable {earlier later : List (String × FileOutline)} {first second : String × FileOutline}

theorem redefinitions_swap
    (apart : ∀ name ∈ first.2.classes.keys, name ∉ second.2.classes.keys) :
    (redefinitions [] (earlier ++ first :: second :: later)).Perm
      (redefinitions [] (earlier ++ second :: first :: later)) := by
  have apartSymm : ∀ name ∈ second.2.classes.keys, name ∉ first.2.classes.keys :=
    fun name member other => apart name other member
  have laterEq : redefinitions (earlier ++ [first] ++ [second]) later =
      redefinitions (earlier ++ [second] ++ [first]) later := by
    apply redefinitions_congr
    intro name
    simp only [declares, List.any_append, Bool.or_assoc]
    rw [Bool.or_comm ([first].any _)]
  simp only [redefinitions_append, redefinitions, List.nil_append, warningsOn_concat apart,
    warningsOn_concat apartSymm, laterEq]
  exact List.Perm.append_left _ (List.perm_append_comm_assoc _ _ _)

/-- Whichever of two files without a common class comes first, the first file that
declares a class is the same. -/
theorem find?_declaring_swap
    (apart : ∀ name ∈ first.2.classes.keys, name ∉ second.2.classes.keys) (name : String) :
    (earlier ++ first :: second :: later).find? (fun file => file.2.classes.contains name) =
      (earlier ++ second :: first :: later).find? fun file => file.2.classes.contains name := by
  have notBoth : ¬ (first.2.classes.contains name = true ∧
      second.2.classes.contains name = true) := by
    rw [Table.contains_iff, Table.contains_iff]
    exact fun both => apart name both.1 both.2
  rw [List.find?_append, List.find?_append, List.find?_cons, List.find?_cons, List.find?_cons,
    List.find?_cons]
  cases inFirst : first.2.classes.contains name <;>
    cases inSecond : second.2.classes.contains name <;> simp_all

/-- Reports that take each class from the same file agree on all classes. -/
theorem Collects.agree_of_find?_eq {others : List (String × FileOutline)} {other : Logged Report}
    {otherKnown : List ClassEntry} (collects : Collects files done)
    (otherCollects : Collects others other) (lists : done.value.merged.Lists known)
    (otherLists : other.value.merged.Lists otherKnown) {name : String}
    (same : files.find? (fun file => file.2.classes.contains name) =
      others.find? fun file => file.2.classes.contains name) :
    done.value.merged.Agree other.value.merged name := by
  cases found : files.find? fun file => file.2.classes.contains name with
  | some file =>
      have first := collects.agree name file found
      have second := otherCollects.agree name file (same.symm.trans found)
      exact first.trans second.symm
  | none =>
      have absent : name ∉ known.map ClassEntry.name := by
        rw [collects.known_iff lists, declares_eq_isSome, found, Option.isSome_none]
        exact Bool.false_ne_true
      have otherAbsent : name ∉ otherKnown.map ClassEntry.name := by
        rw [otherCollects.known_iff otherLists, declares_eq_isSome, ← same, found,
          Option.isSome_none]
        exact Bool.false_ne_true
      exact (lists.agree_empty absent).trans (otherLists.agree_empty otherAbsent).symm

theorem mergeAll_keeps (report : Report) (files : List (String × FileOutline)) :
    (report.mergeAll files).value.projectName = report.projectName ∧
      (report.mergeAll files).value.failedFiles = report.failedFiles := by
  induction files generalizing report with
  | nil => exact ⟨rfl, rfl⟩
  | cons file rest ih => exact ih (report.merge file.1 file.2).value

/-- Two files without a common class can be merged in either order. -/
theorem mergeAll_swap (projectName : String)
    (outlined : ∀ file ∈ earlier ++ first :: second :: later, file.2.Outlined)
    (apart : ∀ name ∈ first.2.classes.keys, name ∉ second.2.classes.keys) :
    Reorders ((Report.new projectName).mergeAll (earlier ++ first :: second :: later))
      ((Report.new projectName).mergeAll (earlier ++ second :: first :: later)) := by
  have perm : (earlier ++ first :: second :: later).Perm (earlier ++ second :: first :: later) :=
    List.Perm.append_left _ (List.Perm.swap _ _ _)
  obtain ⟨collects, known, lists, _⟩ := mergeAll_collects projectName _ outlined
  obtain ⟨otherCollects, others, otherLists, _⟩ := mergeAll_collects projectName
    (earlier ++ second :: first :: later) fun file member => outlined file (perm.symm.subset member)
  have agree := fun name => collects.agree_of_find?_eq otherCollects lists otherLists
    (find?_declaring_swap apart name)
  have kept := mergeAll_keeps (.new projectName) (earlier ++ first :: second :: later)
  have otherKept := mergeAll_keeps (.new projectName) (earlier ++ second :: first :: later)
  constructor
  · constructor
    · exact Table.perm_of_find?_eq fun name => (agree name).classes
    · exact Table.perm_of_find?_eq fun name => (agree name).controls
    · exact Table.perm_of_find?_eq fun name => (agree name).graphs
    · exact Table.perm_of_find?_eq fun name => (agree name).imports
    · rw [collects.functions, otherCollects.functions]
      exact perm.flatMap_right _
    · rw [collects.notes, otherCollects.notes]
      exact perm.flatMap_right _
  · rw [collects.paths, otherCollects.paths]
    exact perm.map _
  · rw [collects.warnings, otherCollects.warnings]
    exact redefinitions_swap apart
  · exact kept.1.trans otherKept.1.symm
  · exact kept.2.trans otherKept.2.symm

/-- The first file that declares a class gives all that is reported about it, and
the order of two files matters only where they declare the same class. -/
theorem mergeAll_firstWins (projectName : String) (files : List (String × FileOutline))
    (outlined : ∀ file ∈ files, file.2.Outlined) :
    FirstWins files ((Report.new projectName).mergeAll files) ∧
      ∀ earlier first second later, files = earlier ++ first :: second :: later →
        (∀ name ∈ first.2.classes.keys, name ∉ second.2.classes.keys) →
          Reorders ((Report.new projectName).mergeAll files)
            ((Report.new projectName).mergeAll (earlier ++ second :: first :: later)) := by
  constructor
  · obtain ⟨collects, known, lists, forests⟩ := mergeAll_collects projectName files outlined
    exact collects.firstWins lists forests
  · rintro earlier first second later rfl apart
    exact mergeAll_swap projectName outlined apart

/-- A screen that builds nothing. -/
def plainFile : SourceFile :=
  ⟨[.structured ⟨"Screen", "class", ["View"], [], none⟩], some "plain", [], none⟩

/-- A dialog. -/
def dialogFile : SourceFile :=
  ⟨[.structured ⟨"Dialog", "class", ["View"], [], none⟩], some "app", [],
    some "src/app/Dialog.kt"⟩

/-- The controls and the import path of a screen are left out with the screen. -/
theorem mergeAll_plainFile : ∃ plain screen dialog,
    (FileOutline.ofTree .default .ample (.file plainFile) none).outcome = .ok plain ∧
      (FileOutline.ofTree .default .ample (.file screenFile) none).outcome = .ok screen ∧
      (FileOutline.ofTree .default .ample (.file dialogFile) none).outcome = .ok dialog ∧
      screen.controls.keys = ["Screen"] ∧ screen.imports.keys = ["Screen", "Model"] ∧
      let files := [("Plain.kt", plain), ("Screen.kt", screen), ("Dialog.kt", dialog)]
      let swapped := [("Plain.kt", plain), ("Dialog.kt", dialog), ("Screen.kt", screen)]
      let done := (Report.new "app").mergeAll files
      done.value.merged.classes.keys = ["Screen", "Model", "Dialog"] ∧
        done.value.merged.controls.keys = [] ∧
        done.value.merged.imports.keys = ["Model", "Dialog"] ∧
        done.events = [.shadowedClass "Screen" "Screen.kt"] ∧
        FirstWins files done ∧ Reorders done ((Report.new "app").mergeAll swapped) := by
  refine ⟨_, _, _, rfl, rfl, rfl, rfl, rfl, rfl, rfl, rfl, rfl, ?_⟩
  have ofFile : ∀ (file : SourceFile) {outline : FileOutline},
      (FileOutline.ofTree .default .ample (.file file) none).outcome = .ok outline →
        outline.Outlined :=
    fun _ _ returns => ⟨_, _, _, _, returns⟩
  have apart : ∀ name ∈ ["Screen", "Model"], name ∉ ["Dialog"] := by decide
  obtain ⟨firstWins, swap⟩ := mergeAll_firstWins "app"
    [("Plain.kt", _), ("Screen.kt", _), ("Dialog.kt", _)]
    (List.forall_mem_cons.mpr ⟨ofFile plainFile rfl, List.forall_mem_cons.mpr
      ⟨ofFile screenFile rfl, List.forall_mem_singleton.mpr (ofFile dialogFile rfl)⟩⟩)
  exact ⟨firstWins, swap [_] _ _ [] rfl apart⟩

end Report

end ViewOutline
