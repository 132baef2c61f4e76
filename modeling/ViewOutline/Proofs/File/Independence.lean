import ViewOutline.Proofs.File.Inventory

/-!
# Declarations by themselves

The declarations of a file do not get in each other's way.  A file can be outlined
if its classes have different names and each declaration can be outlined as the
only one of the file.  Its outline then puts the outlines of the single
declarations one after the other, so their order matters for nothing but the order
of what is listed.
-/

namespace ViewOutline

/-- A file with only one declaration. -/
def SourceFile.only (file : SourceFile) (decl : Node) : SourceFile :=
  { file with decls := [decl] }

/-- An outline with other notes. -/
def FileOutline.withNotes (outline : FileOutline) (notes : List String) : FileOutline :=
  { outline with notes }

/-- Notes are in no table. -/
theorem FileOutline.Lists.withNotes {outline : FileOutline} {entries : List ClassEntry}
    (lists : outline.Lists entries) (notes : List String) :
    (outline.withNotes notes).Lists entries :=
  ⟨lists.classes, lists.controls, lists.graphs, lists.imports⟩

/-- An outline holds what some outlines hold, one after the other. -/
structure FileOutline.Joins (outline : FileOutline) (singles : List FileOutline) : Prop where
  classes : outline.classes.entries = singles.flatMap fun single => single.classes.entries
  controls : outline.controls.entries = singles.flatMap fun single => single.controls.entries
  graphs : outline.graphs.entries = singles.flatMap fun single => single.graphs.entries
  imports : outline.imports.entries = singles.flatMap fun single => single.imports.entries
  functions : outline.functions = singles.flatMap FileOutline.functions
  notes : outline.notes = singles.flatMap FileOutline.notes

/-- Two outlines differ at most in the order of what they list. -/
structure FileOutline.Rearranges (outline other : FileOutline) : Prop where
  classes : outline.classes.entries.Perm other.classes.entries
  controls : outline.controls.entries.Perm other.controls.entries
  graphs : outline.graphs.entries.Perm other.graphs.entries
  imports : outline.imports.entries.Perm other.imports.entries
  functions : outline.functions.Perm other.functions
  notes : outline.notes.Perm other.notes

namespace FileOutline.Joins

variable {outline single next : FileOutline} {singles : List FileOutline}
  {entries more : List ClassEntry}

theorem nil : FileOutline.empty.Joins [] :=
  ⟨rfl, rfl, rfl, rfl, rfl, rfl⟩

/-- What is listed last comes from one more outline. -/
theorem concat (joins : outline.Joins singles) (lists : outline.Lists entries)
    (singleLists : single.Lists more) (nextLists : next.Lists (entries ++ more))
    (functionsEq : next.functions = outline.functions ++ single.functions)
    (notesEq : next.notes = outline.notes ++ single.notes) :
    next.Joins (singles ++ [single]) where
  classes := by
    rw [nextLists.classes, List.map_append, ← lists.classes, ← singleLists.classes, joins.classes,
      List.flatMap_append, List.flatMap_singleton]
  controls := by
    rw [nextLists.controls, List.filter_append, List.map_append, ← lists.controls,
      ← singleLists.controls, joins.controls, List.flatMap_append, List.flatMap_singleton]
  graphs := by
    rw [nextLists.graphs, List.filter_append, List.map_append, ← lists.graphs,
      ← singleLists.graphs, joins.graphs, List.flatMap_append, List.flatMap_singleton]
  imports := by
    rw [nextLists.imports, List.filterMap_append, ← lists.imports, ← singleLists.imports,
      joins.imports, List.flatMap_append, List.flatMap_singleton]
  functions := by
    rw [functionsEq, joins.functions, List.flatMap_append, List.flatMap_singleton]
  notes := by
    rw [notesEq, joins.notes, List.flatMap_append, List.flatMap_singleton]

/-- Outlines in another order are joined to the same in another order. -/
theorem rearranges {other : FileOutline} {others : List FileOutline}
    (joins : outline.Joins singles) (otherJoins : other.Joins others)
    (perm : singles.Perm others) : outline.Rearranges other where
  classes := by
    rw [joins.classes, otherJoins.classes]
    exact perm.flatMap_right _
  controls := by
    rw [joins.controls, otherJoins.controls]
    exact perm.flatMap_right _
  graphs := by
    rw [joins.graphs, otherJoins.graphs]
    exact perm.flatMap_right _
  imports := by
    rw [joins.imports, otherJoins.imports]
    exact perm.flatMap_right _
  functions := by
    rw [joins.functions, otherJoins.functions]
    exact perm.flatMap_right _
  notes := by
    rw [joins.notes, otherJoins.notes]
    exact perm.flatMap_right _

end FileOutline.Joins

/-! ## One declaration -/

/-- A declaration that is at fault by itself is at fault after others. -/
theorem Node.FaultAfter.after {ceiling : Ceiling} {decl : Node} {failure : Failure}
    (fault : decl.FaultAfter ceiling [] failure) (earlier : List String) :
    ∃ other, decl.FaultAfter ceiling earlier other := by
  cases fault with
  | nameless nameless => exact ⟨_, .nameless nameless⟩
  | repeated _ taken => cases taken
  | @deep decl _ named _ memberMem deep =>
      by_cases taken : decl.name ∈ earlier
      · exact ⟨_, .repeated named taken⟩
      · exact ⟨_, .deep named taken memberMem deep⟩

/-- A declaration that stops the outline by itself stops it after others. -/
theorem Node.StopsAfter.after {stack : Stack} {ceiling : Ceiling} {decl : Node}
    {failure : Failure} (stop : decl.StopsAfter stack ceiling [] failure)
    (earlier : List String) : ∃ other, decl.StopsAfter stack ceiling earlier other := by
  cases stop with
  | exhausted runsOut => exact ⟨_, .exhausted runsOut⟩
  | fault bears fault =>
      obtain ⟨other, otherFault⟩ := fault.after earlier
      exact ⟨other, .fault bears otherFault⟩

/-- A declaration with a new name that is at fault is so by itself. -/
theorem Node.FaultAfter.alone {ceiling : Ceiling} {earlier : List String} {decl : Node}
    {failure : Failure} (fault : decl.FaultAfter ceiling earlier failure)
    (new : ∀ own ∈ Node.classes [decl], own.name ∉ earlier) :
    ∃ other, decl.FaultAfter ceiling [] other := by
  cases fault with
  | nameless nameless => exact ⟨_, .nameless nameless⟩
  | repeated _ taken => exact absurd taken (new _ List.mem_cons_self)
  | deep named _ memberMem deep => exact ⟨_, .deep named List.not_mem_nil memberMem deep⟩

/-- Where names occur once, a declaration that stops the outline does so by itself. -/
theorem FirstStop.exists_alone {stack : Stack} {ceiling : Ceiling} {earlier : List String}
    {decls : List Node} {failure : Failure}
    (first : FirstStop (Node.StopsAfter stack ceiling) earlier decls failure)
    (nodup : (earlier ++ (Node.classes decls).map StructuredDecl.name).Nodup) :
    ∃ decl ∈ decls, ∃ other, decl.StopsAfter stack ceiling [] other := by
  induction first with
  | @here earlier decl rest _ stop =>
      refine ⟨decl, List.mem_cons_self, ?_⟩
      cases stop with
      | exhausted runsOut => exact ⟨_, .exhausted runsOut⟩
      | fault bears fault =>
          obtain ⟨other, alone⟩ := fault.alone (Node.new_of_nodup nodup).1
          exact ⟨other, .fault bears alone⟩
  | later _ _ ih =>
      obtain ⟨decl, member, alone⟩ := ih (Node.new_of_nodup nodup).2
      exact ⟨decl, List.mem_cons_of_mem _ member, alone⟩

/-- What declarations bring does not depend on what was listed before. -/
theorem Brings.unique {vocabulary : Vocabulary} {package path : Option String}
    {decls : List Node} {outline other next last : FileOutline}
    {entries others more rest : List ClassEntry}
    (first : Brings vocabulary package path decls outline entries next more)
    (second : Brings vocabulary package path decls other others last rest) : more = rest := by
  refine List.right_unique_forall₂' ?_ first.each second.each
  intro decl entry same returns returnsSame
  exact Except.ok.inj (returns.symm.trans returnsSame)

theorem StructuredDecl.new_of_outlineInto {scope : Scope} {package path : Option String}
    {outline next : FileOutline} {decl : StructuredDecl}
    (returns : (decl.outlineInto scope package path outline).outcome = .ok next) :
    decl.name ≠ "" ∧ decl.name ∉ outline.classes.keys := by
  rw [← outline.classes.contains_iff]
  rw [outlineInto] at returns
  split at returns
  · cases returns
  · split at returns
    · cases returns
    · exact ⟨‹_›, ‹_›⟩

/-- A declaration leaves the notes that it leaves by itself. -/
theorem Node.notes_outlineTopLevel {scope : Scope} {package path : Option String}
    {outline next : FileOutline} {decl : Node}
    (returns : (decl.outlineTopLevel scope package path outline).outcome = .ok next) :
    (decl.outlineTopLevel scope package path outline).notes =
      (decl.outlineTopLevel scope package path .empty).notes := by
  cases decl with
  | structured decl =>
      obtain ⟨named, new⟩ := decl.new_of_outlineInto returns
      have newAlone : decl.name ∉ FileOutline.empty.classes.keys := List.not_mem_nil
      rw [outlineTopLevel, outlineTopLevel, decl.outlineInto_of_new scope package path named new,
        decl.outlineInto_of_new scope package path named newAlone, Analysis.notes_bind,
        Analysis.notes_bind]
      rfl
  | _ => rfl

/-- A declaration brings what it brings by itself. -/
theorem Node.outlineTopLevel_alone {vocabulary : Vocabulary} {package path : Option String}
    {outline next : FileOutline} {entries : List ClassEntry} {decl : Node}
    (lists : outline.Lists entries)
    (returns : (decl.outlineTopLevel (.outermost vocabulary) package path outline).outcome =
      .ok next) :
    ∃ single more,
      (decl.outlineTopLevel (.outermost vocabulary) package path .empty).outcome = .ok single ∧
        single.Lists more ∧ next.Lists (entries ++ more) ∧
        next.functions = outline.functions ++ single.functions := by
  rcases decl.outlineTopLevel_cases vocabulary package path lists with
    ⟨failure, _, stops⟩ | ⟨faultless, found, more, foundReturns, brings⟩
  · cases stops.symm.trans returns
  cases foundReturns.symm.trans returns
  rcases decl.outlineTopLevel_cases vocabulary package path .empty with
    ⟨failure, fault, _⟩ | ⟨_, single, part, singleReturns, singleBrings⟩
  · obtain ⟨other, otherFault⟩ := fault.after (entries.map ClassEntry.name)
    exact absurd otherFault (faultless other)
  · cases brings.unique singleBrings
    refine ⟨single, more, singleReturns, singleBrings.lists, brings.lists, ?_⟩
    rw [brings.functions, singleBrings.functions]
    rfl

/-! ## All declarations -/

/-- The outline of a declaration that is the only one of its file. -/
def Node.OutlinedAlone (vocabulary : Vocabulary) (stack : Stack) (package path : Option String)
    (decl : Node) (single : FileOutline) : Prop :=
  stack.Bears decl ∧ ∃ inner,
    (decl.outlineTopLevel (.outermost vocabulary) package path .empty).outcome = .ok inner ∧
    single = inner.withNotes
      (decl.outlineTopLevel (.outermost vocabulary) package path .empty).notes

theorem SourceFile.only_eq_ok_iff {vocabulary : Vocabulary} {stack : Stack} {file : SourceFile}
    {decl : Node} {path : Option String} {single : FileOutline} :
    (FileOutline.ofTree vocabulary stack (.file (file.only decl)) path).outcome = .ok single ↔
      decl.OutlinedAlone vocabulary stack file.package ((Text.given path).or file.path)
        single := by
  rw [FileOutline.ofTree, Node.outlineFile, SourceFile.outline_eq_ok_iff]
  simp only [only, Node.outlineTopLevels, bind_pure, Node.OutlinedAlone]
  constructor
  · rintro ⟨inner, returns, rfl⟩
    obtain ⟨bears, innerReturns⟩ := Stack.carry_eq_ok returns
    rw [Stack.carry_of_bears bears]
    exact ⟨bears, inner, innerReturns, rfl⟩
  · rintro ⟨bears, inner, returns, rfl⟩
    rw [Stack.carry_of_bears bears]
    exact ⟨inner, returns, rfl⟩

/-- Going through declarations adds their outlines one after the other. -/
theorem Node.outlineTopLevels_joins {vocabulary : Vocabulary} {stack : Stack}
    {package path : Option String} {outline result : FileOutline} {entries : List ClassEntry}
    {singles : List FileOutline} {notes : List String} {decls : List Node}
    (lists : outline.Lists entries) (joins : (outline.withNotes notes).Joins singles)
    (returns : (Node.outlineTopLevels (.outermost vocabulary) stack package path outline
      decls).outcome = .ok result) :
    ∃ more,
      List.Forall₂ (fun decl single =>
        decl.OutlinedAlone vocabulary stack package path single) decls more ∧
      (result.withNotes (notes ++ (Node.outlineTopLevels (.outermost vocabulary) stack package
        path outline decls).notes)).Joins (singles ++ more) := by
  induction decls generalizing outline entries singles notes with
  | nil =>
      obtain rfl : outline = result := Except.ok.inj returns
      have noNotes : (Node.outlineTopLevels (.outermost vocabulary) stack package path outline
        []).notes = [] := rfl
      refine ⟨[], .nil, ?_⟩
      rw [noNotes, List.append_nil, List.append_nil]
      exact joins
  | cons decl rest ih =>
      rw [Node.outlineTopLevels, Analysis.outcome_bind, bind_eq_ok_iff] at returns
      obtain ⟨next, carried, restReturns⟩ := returns
      obtain ⟨bears, nextReturns⟩ := Stack.carry_eq_ok carried
      obtain ⟨single, part, singleReturns, singleLists, nextLists, functionsEq⟩ :=
        Node.outlineTopLevel_alone lists nextReturns
      have notesEq := Node.notes_outlineTopLevel nextReturns
      let own := (decl.outlineTopLevel (.outermost vocabulary) package path .empty).notes
      have nextJoins : (next.withNotes (notes ++ own)).Joins
          (singles ++ [single.withNotes own]) :=
        joins.concat (lists.withNotes notes) (singleLists.withNotes own)
          (nextLists.withNotes _) functionsEq rfl
      obtain ⟨more, each, resultJoins⟩ := ih nextLists nextJoins restReturns
      refine ⟨single.withNotes own :: more, .cons ⟨bears, single, singleReturns, rfl⟩ each, ?_⟩
      rw [Node.outlineTopLevels, Stack.carry_of_bears bears, Analysis.notes_bind, nextReturns,
        notesEq, ← List.append_assoc, ← List.singleton_append, ← List.append_assoc]
      exact resultJoins

namespace SourceFile

variable {vocabulary : Vocabulary} {stack : Stack} {file : SourceFile} {path : Option String}
  {outline : FileOutline}

/-- The outline of a file joins those of its declarations. -/
theorem exists_joins (returns : (FileOutline.ofTree vocabulary stack (.file file) path).outcome =
      .ok outline) :
    ∃ singles,
      List.Forall₂ (fun decl single =>
          (FileOutline.ofTree vocabulary stack (.file (file.only decl)) path).outcome = .ok single)
        file.decls singles ∧
      outline.Joins singles := by
  rw [FileOutline.ofTree, Node.outlineFile, SourceFile.outline_eq_ok_iff] at returns
  obtain ⟨inner, innerReturns, rfl⟩ := returns
  have start : (FileOutline.empty.withNotes []).Joins [] := .nil
  obtain ⟨singles, each, joins⟩ := Node.outlineTopLevels_joins .empty start innerReturns
  simp only [SourceFile.only_eq_ok_iff]
  exact ⟨singles, each, joins⟩

theorem exists_brings (returns : (FileOutline.ofTree vocabulary stack (.file file) path).outcome =
      .ok outline) :
    ∃ more, Brings vocabulary file.package ((Text.given path).or file.path) file.decls .empty []
      outline more :=
  exists_brings_of_run ((Session.value_run_new_eq_ok_iff _ _ _ _ _).mpr returns)

theorem faultless_of_returns {tree : Node}
    (returns : (FileOutline.ofTree vocabulary stack tree path).outcome = .ok outline)
    (failure : Failure) : ¬ tree.Fault (Node.StopsAfter stack vocabulary.ceiling) failure := by
  rcases tree.outlineFile_cases vocabulary stack path with ⟨other, _, stops⟩ | ⟨faultless, _⟩
  · cases stops.symm.trans returns
  · exact faultless failure

theorem nodup_classNames
    (returns : (FileOutline.ofTree vocabulary stack (.file file) path).outcome = .ok outline) :
    file.classNames.Nodup := by
  obtain ⟨more, brings⟩ := exists_brings returns
  have namesEq : file.classNames = more.map ClassEntry.name := brings.names_eq.symm
  rw [namesEq]
  exact brings.lists.nodup_names

/-- A file is outlined if its classes have different names and each declaration
is outlined by itself. -/
theorem returns_of_alone (nodup : file.classNames.Nodup)
    (each : ∀ decl ∈ file.decls, ∃ single,
      (FileOutline.ofTree vocabulary stack (.file (file.only decl)) path).outcome = .ok single) :
    ∃ outline, (FileOutline.ofTree vocabulary stack (.file file) path).outcome = .ok outline := by
  rcases Node.outlineFile_cases vocabulary stack (.file file) path with
    ⟨failure, fault, _⟩ | ⟨_, returns⟩
  · rcases fault with noFile | first
    · exact absurd rfl (noFile file)
    obtain ⟨decl, member, other, alone⟩ := first.exists_alone nodup
    obtain ⟨single, returns⟩ := each decl member
    exact absurd (.declaration (.here alone)) (faultless_of_returns returns other)
  · exact returns

theorem returns_iff_alone :
    (∃ outline, (FileOutline.ofTree vocabulary stack (.file file) path).outcome = .ok outline) ↔
      file.classNames.Nodup ∧ ∀ decl ∈ file.decls, ∃ single,
        (FileOutline.ofTree vocabulary stack (.file (file.only decl)) path).outcome =
          .ok single := by
  constructor
  · rintro ⟨outline, returns⟩
    obtain ⟨singles, each, _⟩ := exists_joins returns
    refine ⟨nodup_classNames returns, ?_⟩
    intro decl member
    obtain ⟨single, _, alone⟩ := exists_partner each.flip member
    exact ⟨single, alone⟩
  · rintro ⟨nodup, each⟩
    exact returns_of_alone nodup each

/-- The outline of a file says about a class what that of the class by itself says. -/
theorem agree_alone {decl : StructuredDecl} {single : FileOutline}
    (returns : (FileOutline.ofTree vocabulary stack (.file file) path).outcome = .ok outline)
    (member : .structured decl ∈ file.decls)
    (alone : (FileOutline.ofTree vocabulary stack (.file (file.only (.structured decl)))
      path).outcome = .ok single) :
    single.classes.keys = [decl.name] ∧ outline.Agree single decl.name := by
  obtain ⟨more, brings⟩ := exists_brings returns
  obtain ⟨part, singleBrings⟩ := exists_brings alone
  have declMem : decl ∈ Node.classes file.decls := List.mem_filterMap.mpr ⟨_, member, rfl⟩
  obtain ⟨entry, entryMem, entryReturns⟩ := brings.exists_entry declMem
  have aloneMem : decl ∈ Node.classes [.structured decl] := List.mem_singleton_self decl
  obtain ⟨same, sameMem, sameReturns⟩ := singleBrings.exists_entry aloneMem
  cases entryReturns.symm.trans sameReturns
  constructor
  · rw [singleBrings.lists.keys_classes]
    exact singleBrings.names_eq
  · rw [← (StructuredDecl.entry_eq_ok_iff.mp entryReturns).1]
    exact brings.lists.agree singleBrings.lists entryMem sameMem

/-- Declarations in another order are outlined to the same in another order. -/
theorem exists_rearranges {decls : List Node} (perm : decls.Perm file.decls)
    (returns : (FileOutline.ofTree vocabulary stack (.file file) path).outcome = .ok outline) :
    ∃ other, (FileOutline.ofTree vocabulary stack (.file { file with decls }) path).outcome =
        .ok other ∧ outline.Rearranges other := by
  obtain ⟨nodup, each⟩ := returns_iff_alone.mp ⟨outline, returns⟩
  have namesPerm : (SourceFile.classNames { file with decls }).Perm file.classNames :=
    (perm.filterMap Node.class?).map StructuredDecl.name
  obtain ⟨other, otherReturns⟩ : ∃ other,
      (FileOutline.ofTree vocabulary stack (.file { file with decls }) path).outcome = .ok other :=
    returns_of_alone (namesPerm.nodup_iff.mpr nodup) fun decl member =>
      each decl (perm.subset member)
  obtain ⟨singles, alone, joins⟩ := exists_joins returns
  obtain ⟨others, otherAlone, otherJoins⟩ := exists_joins otherReturns
  obtain ⟨moved, movedAlone, movedPerm⟩ := List.perm_comp_forall₂ perm alone
  have same : moved = others := by
    refine List.right_unique_forall₂' ?_ movedAlone otherAlone
    intro decl first second firstReturns secondReturns
    exact Except.ok.inj (firstReturns.symm.trans secondReturns)
  exact ⟨other, otherReturns, joins.rearranges otherJoins (same ▸ movedPerm.symm)⟩

/-- The declarations of a file are outlined as if each were the only one. -/
structure Separable (vocabulary : Vocabulary) (stack : Stack) (file : SourceFile)
    (path : Option String) : Prop where
  /-- The file is outlined exactly if its classes have different names and each
  declaration is outlined by itself. -/
  returns_iff :
    (∃ outline, (FileOutline.ofTree vocabulary stack (.file file) path).outcome = .ok outline) ↔
      file.classNames.Nodup ∧ ∀ decl ∈ file.decls, ∃ single,
        (FileOutline.ofTree vocabulary stack (.file (file.only decl)) path).outcome = .ok single
  /-- The outlines of the declarations come one after the other, with their
  functions and notes. -/
  joins : ∀ outline, (FileOutline.ofTree vocabulary stack (.file file) path).outcome = .ok outline →
    ∃ singles,
      List.Forall₂ (fun decl single =>
          (FileOutline.ofTree vocabulary stack (.file (file.only decl)) path).outcome = .ok single)
        file.decls singles ∧
      outline.Joins singles
  /-- What is listed for a class is listed for it by itself, and nothing else. -/
  agree : ∀ outline decl single,
    (FileOutline.ofTree vocabulary stack (.file file) path).outcome = .ok outline →
    .structured decl ∈ file.decls →
    (FileOutline.ofTree vocabulary stack (.file (file.only (.structured decl))) path).outcome =
      .ok single →
      single.classes.keys = [decl.name] ∧ outline.Agree single decl.name
  /-- The order of the declarations decides the order of what is listed. -/
  rearranges : ∀ outline decls,
    (FileOutline.ofTree vocabulary stack (.file file) path).outcome = .ok outline →
    decls.Perm file.decls →
      ∃ other, (FileOutline.ofTree vocabulary stack (.file { file with decls }) path).outcome =
          .ok other ∧ outline.Rearranges other

/-- The declarations of a file do not interfere. -/
theorem ofTree_separable (vocabulary : Vocabulary) (stack : Stack) (file : SourceFile)
    (path : Option String) : file.Separable vocabulary stack path := by
  constructor
  · exact returns_iff_alone
  · intro outline returns
    exact exists_joins returns
  · intro outline decl single returns member alone
    exact agree_alone returns member alone
  · intro outline decls returns perm
    exact exists_rearranges perm returns

/-- The declarations of the screen file, the last one first. -/
theorem ofTree_screenFile_reversed : ∃ outline other,
    (FileOutline.ofTree .default .ample (.file screenFile) none).outcome = .ok outline ∧
      (FileOutline.ofTree .default .ample
        (.file { screenFile with decls := screenFile.decls.reverse }) none).outcome = .ok other ∧
      outline.classes.keys = ["Screen", "Model"] ∧ other.classes.keys = ["Model", "Screen"] ∧
      outline.Rearranges other := by
  obtain ⟨other, returns, rearranges⟩ :=
    (ofTree_separable .default .ample screenFile none).rearranges _ screenFile.decls.reverse rfl
      (List.reverse_perm _)
  cases returns
  exact ⟨_, _, rfl, rfl, rfl, rfl, rearranges⟩

end SourceFile

end ViewOutline
