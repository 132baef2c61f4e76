import ViewOutline.Proofs.Containment.Discovery
import ViewOutline.Proofs.File.Session
import ViewOutline.Proofs.Text.Split

/-!
# What the outline of a file holds

The tables of a file outline are filled class by class, and each class goes into
all of them or into those that it has something for.  So the tables agree with
each other and with the file: the classes are those that are declared, the
controls and graphs belong to the classes that build any, and the import paths
to all classes or to none.
-/

namespace ViewOutline

/-- The names of the classes that a file declares, in order. -/
def SourceFile.classNames (file : SourceFile) : List String :=
  (Node.classes file.decls).map StructuredDecl.name

/-- The dialect of a file by the path given for it, or else by its own. -/
def SourceFile.dialect? (file : SourceFile) (path : Option String) : Option Dialect :=
  ((Text.given path).or file.path).bind Dialect.ofPath?

/-- A class builds a control somewhere. -/
def StructuredDecl.BuildsControls (vocabulary : Vocabulary) (decl : StructuredDecl) : Prop :=
  ∃ site call, WidgetAt vocabulary decl.members site call

/-- Whether a top-level declaration is a class or a function. -/
def Node.isClassOrFunction (decl : Node) : Bool :=
  decl.class?.isSome || decl.function?.isSome

/-- A file without its declarations other than classes and functions. -/
def SourceFile.classesAndFunctions (file : SourceFile) : SourceFile :=
  { file with decls := file.decls.filter Node.isClassOrFunction }

/-- What an outline of a file holds, table by table. -/
structure FileOutline.Covers (vocabulary : Vocabulary) (stack : Stack) (file : SourceFile)
    (path : Option String) (outline : FileOutline) : Prop where
  /-- The classes are those that the file declares, in order. -/
  classes : outline.classes.keys = file.classNames
  nodup : file.classNames.Nodup
  named : ∀ name ∈ file.classNames, name ≠ ""
  /-- Each class is listed under its own name. -/
  ownName : ∀ name classOutline, outline.classes.find? name = some classOutline →
    classOutline.name = name
  /-- Controls are listed for the classes that build any. -/
  controls : ∀ name, name ∈ outline.controls.keys ↔
    ∃ decl ∈ Node.classes file.decls, decl.name = name ∧ decl.BuildsControls vocabulary
  controls_order : outline.controls.keys.Sublist outline.classes.keys
  /-- Graphs are listed for the same classes. -/
  graphs : outline.graphs.keys = outline.controls.keys
  /-- The controls of a class are those of its graph, which is a forest. -/
  graph : ∀ name controls graph, outline.controls.find? name = some controls →
    outline.graphs.find? name = some graph →
      controls = graph.nodes.values ∧ graph.violations = []
  /-- Import paths are listed for all classes, or for none. -/
  imports : outline.imports.keys =
    if (file.dialect? path).isSome then file.classNames else []
  /-- Where classes are imported by their own names, they are told apart. -/
  imports_inj : file.dialect? path = some .kotlin → ∀ first second importPath,
    outline.imports.find? first = some importPath →
      outline.imports.find? second = some importPath → first = second
  /-- The functions are those that the file declares, in order. -/
  functions : outline.functions = (Node.functions file.decls).map FunctionDecl.signature
  /-- The other declarations of the file bring nothing. -/
  others : ((Session.new vocabulary).run stack (.file file.classesAndFunctions) path).2.value =
    .ok outline

/-! ## Controls and graphs -/

theorem StructuredDecl.controls_ne_nil_iff {scope : Scope} {decl : StructuredDecl}
    {harvest : Harvest} (returns : (Node.findControls scope decl.members).outcome = .ok harvest) :
    harvest.controls ≠ [] ↔ decl.BuildsControls scope.vocabulary := by
  obtain ⟨finds, tracks, findSites⟩ := exists_tracks_of_findControls returns
  rw [tracks.controls, Ne, List.map_eq_nil_iff, ← List.map_eq_nil_iff (f := Find.site),
    findSites, List.eq_nil_iff_forall_not_mem]
  simp only [mem_widgetWays_iff, mem_sites_iff, BuildsControls, WidgetAt, not_forall, not_not]

theorem Node.values_and_violations {scope : Scope} {members : List Node} {harvest : Harvest}
    (returns : (Node.findControls scope members).outcome = .ok harvest) :
    harvest.controls = harvest.graph.nodes.values ∧ harvest.graph.violations = [] := by
  obtain ⟨finds, tracks, _⟩ := exists_tracks_of_findControls returns
  refine ⟨?_, tracks.grown.violations_eq_nil⟩
  rw [Table.values, tracks.grown.nodes, tracks.controls, List.map_map, List.map_map]
  rfl

/-! ## Import paths -/

theorem ImportPath.resolve?_isSome (path className : String) (package : Option String) :
    (ImportPath.resolve? path className package).isSome = (Dialect.ofPath? path).isSome := by
  simp [resolve?]

/-- In Kotlin the classes of a file have different import paths. -/
theorem ImportPath.resolve?_inj {path first second importPath : String}
    {package : Option String} (kotlin : Dialect.ofPath? path = some .kotlin)
    (firstImport : resolve? path first package = some importPath)
    (secondImport : resolve? path second package = some importPath) : first = second := by
  have same := firstImport.trans secondImport.symm
  simp only [resolve?, kotlin, Option.map_some, Option.some.injEq, String.ofList_inj] at same
  exact String.toList_inj.mp (Text.intercalate_concat_inj same)

/-! ## Declarations that bring nothing -/

/-- A declaration that is neither class nor function is passed over. -/
theorem Node.outlineTopLevel_alike_of_other (scope : Scope) (package path : Option String)
    (outline : FileOutline) {decl : Node} (other : decl.isClassOrFunction = false) :
    (decl.outlineTopLevel scope package path outline).Alike (pure outline) := by
  cases decl with
  | structured decl => cases other
  | function decl => cases other
  | _ => exact ⟨rfl, rfl⟩

/-- Where declarations are outlined, they are outlined alike without those that are
neither classes nor functions. -/
theorem Node.outlineTopLevels_filter_alike {scope : Scope} {stack : Stack}
    {package path : Option String} {outline result : FileOutline} {decls : List Node}
    (returns : (Node.outlineTopLevels scope stack package path outline decls).outcome =
      .ok result) :
    (Node.outlineTopLevels scope stack package path outline
        (decls.filter Node.isClassOrFunction)).Alike
      (Node.outlineTopLevels scope stack package path outline decls) := by
  induction decls generalizing outline with
  | nil => exact .refl _
  | cons decl rest ih =>
      rw [outlineTopLevels, Analysis.outcome_bind, bind_eq_ok_iff] at returns
      obtain ⟨next, carried, restReturns⟩ := returns
      cases kind : decl.isClassOrFunction with
      | true =>
          rw [List.filter_cons_of_pos kind, outlineTopLevels, outlineTopLevels]
          exact .after carried (ih restReturns)
      | false =>
          obtain ⟨bears, nextReturns⟩ := Stack.carry_eq_ok carried
          have passes := outlineTopLevel_alike_of_other scope package path outline kind
          cases passes.outcome.symm.trans nextReturns
          rw [List.filter_cons_of_neg (by simp [kind]), outlineTopLevels,
            Stack.carry_of_bears bears]
          have passed := passes.bind fun after => Analysis.Alike.refl
            (Node.outlineTopLevels scope stack package path after rest)
          rw [pure_bind] at passed
          exact (ih restReturns).trans passed.symm

/-- Only its classes and functions matter for the outline of a file. -/
theorem SourceFile.outline_classesAndFunctions {scope : Scope} {stack : Stack}
    {file : SourceFile} {path : Option String} {outline : FileOutline}
    (returns : (file.outline scope stack path).outcome = .ok outline) :
    (file.classesAndFunctions.outline scope stack path).outcome = .ok outline := by
  rcases outline_eq_ok_iff.mp returns with ⟨inner, innerReturns, rfl⟩
  have alike := Node.outlineTopLevels_filter_alike innerReturns
  refine outline_eq_ok_iff.mpr ⟨inner, alike.outcome.trans innerReturns, ?_⟩
  exact congrArg (fun notes => { inner with notes }) alike.notes.symm

/-! ## The tables of an outline -/

/-- The outline of a file lists what its declarations bring. -/
theorem exists_brings_of_run {vocabulary : Vocabulary} {stack : Stack} {file : SourceFile}
    {path : Option String} {outline : FileOutline}
    (returns : ((Session.new vocabulary).run stack (.file file) path).2.value = .ok outline) :
    ∃ more, Brings vocabulary file.package ((Text.given path).or file.path) file.decls .empty []
      outline more := by
  rw [Session.value_run_new_eq_ok_iff, Node.outlineFile, SourceFile.outline_eq_ok_iff] at returns
  obtain ⟨inner, innerReturns, rfl⟩ := returns
  rcases Node.outlineTopLevels_cases vocabulary stack file.package
      ((Text.given path).or file.path) FileOutline.Lists.empty file.decls with
    ⟨failure, _, stops⟩ | ⟨_, result, more, resultReturns, brings⟩
  · cases stops.symm.trans innerReturns
  · cases resultReturns.symm.trans innerReturns
    refine ⟨more, ⟨?_, ?_, ?_, ?_⟩, brings.named, brings.each, brings.functions⟩
    · exact brings.lists.classes
    · exact brings.lists.controls
    · exact brings.lists.graphs
    · exact brings.lists.imports

theorem StructuredDecl.name_of_outline {scope : Scope} {decl : StructuredDecl}
    {classOutline : ClassOutline}
    (returns : (decl.outline scope (some decl.name)).outcome = .ok classOutline) :
    classOutline.name = decl.name := by
  have ownName : (Text.given (some decl.name)).getD decl.name = decl.name := by
    by_cases nameless : decl.name = "" <;> simp [Text.given, Option.filter, nameless]
  rw [StructuredDecl.outline, ownName] at returns
  split at returns
  · cases returns
  · simp only [Analysis.outcome_bind, bind_eq_ok_iff, Analysis.outcome_pure,
      Except.ok.injEq] at returns
    obtain ⟨_, _, _, _, rfl⟩ := returns
    rfl

namespace Brings

variable {vocabulary : Vocabulary} {package path : Option String} {decls : List Node}
  {outline : FileOutline} {more : List ClassEntry}

theorem ownName (brings : Brings vocabulary package path decls .empty [] outline more)
    {name : String} {classOutline : ClassOutline}
    (found : outline.classes.find? name = some classOutline) : classOutline.name = name := by
  rw [Table.find?_eq_some_iff, brings.lists.classes] at found
  obtain ⟨entry, member, pairEq⟩ := List.mem_map.mp found
  cases pairEq
  obtain ⟨decl, _, returns⟩ := brings.exists_decl member
  obtain ⟨nameEq, outlined, _, _⟩ := StructuredDecl.entry_eq_ok_iff.mp returns
  rw [nameEq]
  exact StructuredDecl.name_of_outline outlined

/-- Controls are listed for the classes that build any. -/
theorem mem_keys_controls_iff
    (brings : Brings vocabulary package path decls .empty [] outline more) (name : String) :
    name ∈ outline.controls.keys ↔
      ∃ decl ∈ Node.classes decls, decl.name = name ∧ decl.BuildsControls vocabulary := by
  rw [brings.lists.keys_controls]
  simp only [List.nil_append, List.mem_map, List.mem_filter, ClassEntry.hasControls,
    Bool.not_eq_true', List.isEmpty_eq_false_iff]
  constructor
  · rintro ⟨entry, ⟨member, builds⟩, rfl⟩
    obtain ⟨decl, declMem, returns⟩ := brings.exists_decl member
    obtain ⟨nameEq, _, found, _⟩ := StructuredDecl.entry_eq_ok_iff.mp returns
    exact ⟨decl, declMem, nameEq.symm, (decl.controls_ne_nil_iff found).mp builds⟩
  · rintro ⟨decl, declMem, rfl, builds⟩
    obtain ⟨entry, member, returns⟩ := brings.exists_entry declMem
    obtain ⟨nameEq, _, found, _⟩ := StructuredDecl.entry_eq_ok_iff.mp returns
    exact ⟨entry, ⟨member, (decl.controls_ne_nil_iff found).mpr builds⟩, nameEq⟩

/-- The controls and the graph of a class come from one search. -/
theorem exists_entry_of_find? (brings : Brings vocabulary package path decls .empty [] outline more)
    {name : String} {controls : List Control} {graph : Containment}
    (controlsFound : outline.controls.find? name = some controls)
    (graphFound : outline.graphs.find? name = some graph) :
    ∃ entry ∈ more, entry.harvest.controls = controls ∧ entry.harvest.graph = graph := by
  rw [Table.find?_eq_some_iff, brings.lists.controls] at controlsFound
  rw [Table.find?_eq_some_iff, brings.lists.graphs] at graphFound
  obtain ⟨entry, member, controlsEq⟩ := List.mem_map.mp controlsFound
  obtain ⟨other, otherMem, graphEq⟩ := List.mem_map.mp graphFound
  rw [Prod.mk.injEq] at controlsEq graphEq
  have nodup : (more.map ClassEntry.name).Nodup := by
    have keysNodup := outline.classes.nodup_keys
    rwa [brings.lists.keys_classes, List.nil_append] at keysNodup
  have same : entry = other := by
    apply List.inj_on_of_nodup_map nodup (List.mem_of_mem_filter member)
      (List.mem_of_mem_filter otherMem)
    rw [controlsEq.1, graphEq.1]
  subst same
  exact ⟨entry, List.mem_of_mem_filter member, controlsEq.2, graphEq.2⟩

theorem graph_of_find? (brings : Brings vocabulary package path decls .empty [] outline more)
    {name : String} {controls : List Control} {graph : Containment}
    (controlsFound : outline.controls.find? name = some controls)
    (graphFound : outline.graphs.find? name = some graph) :
    controls = graph.nodes.values ∧ graph.violations = [] := by
  obtain ⟨entry, member, rfl, rfl⟩ := brings.exists_entry_of_find? controlsFound graphFound
  obtain ⟨decl, _, returns⟩ := brings.exists_decl member
  obtain ⟨_, _, found, _⟩ := StructuredDecl.entry_eq_ok_iff.mp returns
  exact Node.values_and_violations found

/-- Import paths are listed for all classes of a file with a known dialect, and
for none of another. -/
theorem keys_imports (brings : Brings vocabulary package path decls .empty [] outline more) :
    outline.imports.keys =
      if (path.bind Dialect.ofPath?).isSome then
        (Node.classes decls).map StructuredDecl.name
      else [] := by
  have importedIff : ∀ entry ∈ more,
      entry.importPath.isSome = (path.bind Dialect.ofPath?).isSome := by
    intro entry member
    obtain ⟨decl, _, returns⟩ := brings.exists_decl member
    obtain ⟨_, _, _, importEq⟩ := StructuredDecl.entry_eq_ok_iff.mp returns
    rw [importEq]
    cases path with
    | none => rfl
    | some path => exact ImportPath.resolve?_isSome path decl.name package
  rw [brings.lists.keys_imports, List.nil_append, ← brings.names_eq]
  split
  · rename_i known
    rw [List.filter_eq_self.mpr]
    intro entry member
    rw [importedIff entry member, known]
  · rename_i unknown
    rw [List.filter_eq_nil_iff.mpr, List.map_nil]
    intro entry member
    rw [importedIff entry member]
    exact unknown

theorem imports_inj (brings : Brings vocabulary package path decls .empty [] outline more)
    (kotlin : path.bind Dialect.ofPath? = some .kotlin) {first second importPath : String}
    (firstFound : outline.imports.find? first = some importPath)
    (secondFound : outline.imports.find? second = some importPath) : first = second := by
  have resolved : ∀ name, outline.imports.find? name = some importPath →
      ∃ place, path = some place ∧
        ImportPath.resolve? place name package = some importPath := by
    intro name found
    rw [Table.find?_eq_some_iff, brings.lists.imports] at found
    obtain ⟨entry, member, imported⟩ := List.mem_filterMap.mp found
    obtain ⟨_, importEq, pairEq⟩ := Option.map_eq_some_iff.mp imported
    cases pairEq
    obtain ⟨decl, _, returns⟩ := brings.exists_decl member
    obtain ⟨nameEq, _, _, pathEq⟩ := StructuredDecl.entry_eq_ok_iff.mp returns
    rw [nameEq]
    exact Option.bind_eq_some_iff.mp (pathEq.symm.trans importEq)
  obtain ⟨place, rfl, firstResolved⟩ := resolved first firstFound
  obtain ⟨_, placeEq, secondResolved⟩ := resolved second secondFound
  cases placeEq
  exact ImportPath.resolve?_inj kotlin firstResolved secondResolved

end Brings

/-- The tables of the outline of a file agree with each other and with the file. -/
theorem outline_covers (vocabulary : Vocabulary) (stack : Stack) (file : SourceFile)
    (path : Option String) (outline : FileOutline)
    (returns : ((Session.new vocabulary).run stack (.file file) path).2.value = .ok outline) :
    outline.Covers vocabulary stack file path := by
  obtain ⟨more, brings⟩ := exists_brings_of_run returns
  have classesEq : outline.classes.keys = file.classNames := by
    rw [brings.lists.keys_classes, List.nil_append, brings.names_eq]
    rfl
  refine ⟨classesEq, classesEq ▸ outline.classes.nodup_keys, ?_, ?_, ?_, ?_, ?_, ?_, ?_, ?_, ?_, ?_⟩
  · intro name member
    obtain ⟨decl, declMem, rfl⟩ := List.mem_map.mp member
    exact brings.named decl declMem
  · intro name classOutline found
    exact brings.ownName found
  · exact brings.mem_keys_controls_iff
  · rw [brings.lists.keys_controls, brings.lists.keys_classes]
    exact List.filter_sublist.map _
  · rw [brings.lists.keys_graphs, brings.lists.keys_controls]
  · intro name controls graph controlsFound graphFound
    exact brings.graph_of_find? controlsFound graphFound
  · exact brings.keys_imports
  · intro kotlin first second importPath firstFound secondFound
    exact brings.imports_inj kotlin firstFound secondFound
  · exact brings.functions
  · rw [Session.value_run_new_eq_ok_iff] at returns ⊢
    exact SourceFile.outline_classesAndFunctions returns

/-- A screen with a button in a box, a call outside any class, a function and a model. -/
def screenFile : SourceFile :=
  ⟨[.structured ⟨"Screen", "class", ["View"], [.property ⟨"root", none,
      some (.call ⟨"vbox", [], some ⟨[], [.call ⟨"button", [], none, none⟩]⟩, none⟩),
      none, false, none⟩], none⟩,
    .call ⟨"button", [], none, none⟩,
    .function ⟨"main", [], none, none, none⟩,
    .structured ⟨"Model", "class", [], [], none⟩],
    some "app", [], some "src/app/Screen.kt"⟩

/-- Only the screen has controls, and both classes can be imported. -/
theorem outline_screenFile : ∃ outline,
    ((Session.new .default).run .ample (.file screenFile) none).2.value = .ok outline ∧
      outline.classes.keys = ["Screen", "Model"] ∧
      outline.controls.keys = ["Screen"] ∧
      outline.imports.entries = [("Screen", "app.Screen"), ("Model", "app.Model")] ∧
      outline.Covers .default .ample screenFile none :=
  ⟨_, rfl, rfl, rfl, rfl, outline_covers .default .ample screenFile none _ rfl⟩

end ViewOutline
