import ViewOutline.FileOutline
import ViewOutline.Proofs.Nesting.Member
import ViewOutline.Proofs.Table

/-!
# The declarations of a file

What a top-level class brings to the outline of its file is found from the class
alone; the classes before it matter only for whether its name is taken.  So a
file is outlined by going through its declarations in order: the first one that
is at fault, or in which the call stack runs out, decides the failure.  If there is
none, the outline lists what the classes and functions bring, in the order in which
they are declared.
-/

namespace ViewOutline

/-! ## Stacks -/

namespace Stack

variable {α : Type} {stack : Stack} {decl : Node} {analysis : Analysis α}

/-- A stack lasts for a declaration. -/
def Bears (stack : Stack) (decl : Node) : Prop :=
  stack.exhaustedAfter decl = none

theorem carry_of_bears (bears : stack.Bears decl) (analysis : Analysis α) :
    stack.carry decl analysis = analysis := by
  have lasts : stack.exhaustedAfter decl = none := bears
  rw [carry, lasts]

theorem outcome_carry_of_not_bears (runsOut : ¬ stack.Bears decl) (analysis : Analysis α) :
    (stack.carry decl analysis).outcome = .error .stackExhausted := by
  rw [carry]
  split
  · rename_i lasts
    exact absurd lasts runsOut
  · rfl

/-- What returns on a stack returns without it. -/
theorem carry_eq_ok {value : α} (returns : (stack.carry decl analysis).outcome = .ok value) :
    stack.Bears decl ∧ analysis.outcome = .ok value := by
  by_cases bears : stack.Bears decl
  · rw [carry_of_bears bears] at returns
    exact ⟨bears, returns⟩
  · rw [outcome_carry_of_not_bears bears] at returns
    cases returns

end Stack

/-! ## Declarations at fault -/

/-- The class a declaration is. -/
def Node.class? : Node → Option StructuredDecl
  | .structured decl => some decl
  | _ => none

/-- The function a declaration is. -/
def Node.function? : Node → Option FunctionDecl
  | .function decl => some decl
  | _ => none

/-- The classes among declarations, in order. -/
def Node.classes (decls : List Node) : List StructuredDecl :=
  decls.filterMap Node.class?

/-- The functions among declarations, in order. -/
def Node.functions (decls : List Node) : List FunctionDecl :=
  decls.filterMap Node.function?

/-- Why a declaration stops the outline of a file that declares classes of some
names before it. -/
inductive Node.FaultAfter (ceiling : Ceiling) (earlier : List String) : Node → Failure → Prop
  | nameless {decl : StructuredDecl} :
      decl.name = "" → FaultAfter ceiling earlier (.structured decl) .namelessTopLevel
  | repeated {decl : StructuredDecl} :
      decl.name ≠ "" → decl.name ∈ earlier →
      FaultAfter ceiling earlier (.structured decl) (.repeatedClass decl.name)
  | deep {decl : StructuredDecl} {member : Node} :
      decl.name ≠ "" → decl.name ∉ earlier →
      member ∈ decl.members → ceiling.height < member.searchHeight →
      FaultAfter ceiling earlier (.structured decl) (.tooDeep ceiling)

/-- Why a declaration stops the outline of its file on a stack: the stack runs out in
it, which is reported as nesting too deep, or the declaration is at fault. -/
inductive Node.StopsAfter (stack : Stack) (ceiling : Ceiling) (earlier : List String) :
    Node → Failure → Prop
  | exhausted {decl : Node} :
      ¬ stack.Bears decl → StopsAfter stack ceiling earlier decl (.tooDeep ceiling)
  | fault {decl : Node} {failure : Failure} :
      stack.Bears decl → decl.FaultAfter ceiling earlier failure →
      StopsAfter stack ceiling earlier decl failure

/-- Of the declarations of a file, the first that stops its outline, where it may
matter for a declaration which classes are declared before it. -/
inductive FirstStop (stops : List String → Node → Failure → Prop) :
    List String → List Node → Failure → Prop
  | here {earlier : List String} {decl : Node} {rest : List Node} {failure : Failure} :
      stops earlier decl failure → FirstStop stops earlier (decl :: rest) failure
  | later {earlier : List String} {decl : Node} {rest : List Node} {failure : Failure} :
      (∀ other, ¬ stops earlier decl other) →
      FirstStop stops (earlier ++ (Node.classes [decl]).map StructuredDecl.name) rest failure →
      FirstStop stops earlier (decl :: rest) failure

/-- What a declaration is at fault for is reported as it is. -/
theorem Node.FaultAfter.reported_eq {ceiling : Ceiling} {earlier : List String} {decl : Node}
    {failure : Failure} (fault : decl.FaultAfter ceiling earlier failure) (scope : Scope) :
    scope.reported failure = failure := by
  cases fault with
  | nameless | repeated | deep => rfl

/-! ## What a class brings -/

/-- What a top-level class brings to the outline of its file. -/
structure ClassEntry where
  name : String
  outline : ClassOutline
  harvest : Harvest
  importPath : Option String

/-- Analyse a top-level class by itself. -/
def StructuredDecl.entry (scope : Scope) (package path : Option String)
    (decl : StructuredDecl) : Analysis ClassEntry := do
  let outline ← decl.outline scope (some decl.name)
  let harvest ← Node.findControls scope decl.members
  let importPath ← importOf path decl.name package
  return ⟨decl.name, outline, harvest, importPath⟩

/-- Enter what a class brings. -/
def FileOutline.enter (outline : FileOutline) (entry : ClassEntry) : FileOutline :=
  outline.addClass entry.name entry.outline entry.harvest entry.importPath

/-- A class with a new name is analysed by itself and entered. -/
theorem StructuredDecl.outlineInto_of_new (scope : Scope) (package path : Option String)
    {outline : FileOutline} {decl : StructuredDecl} (named : decl.name ≠ "")
    (new : decl.name ∉ outline.classes.keys) :
    decl.outlineInto scope package path outline = do
      return outline.enter (← decl.entry scope package path) := by
  have absent : ¬ outline.classes.contains decl.name = true := fun present =>
    new ((outline.classes.contains_iff _).mp present)
  simp only [outlineInto, entry, if_neg named, if_neg absent, bind_assoc, pure_bind]
  rfl

/-- A class has an import path where its file has a path of a known dialect. -/
theorem outcome_importOf (path : Option String) (className : String) (package : Option String) :
    (importOf path className package).outcome =
      .ok (path.bind (ImportPath.resolve? · className package)) := by
  cases path with
  | none => rfl
  | some path =>
      rw [importOf, Option.bind_some]
      cases ImportPath.resolve? path className package with
      | none => rfl
      | some importPath => rfl

/-- The outline of a class goes no further in than the search for its controls. -/
theorem StructuredDecl.entry_takes (scope : Scope) (package path : Option String)
    (decl : StructuredDecl) (named : decl.name ≠ "") :
    scope.Takes (Node.highest .search (decl.members.flatMap Node.entries))
      (decl.entry scope package path).outcome := by
  have ownName : (Text.given (some decl.name)).getD decl.name ≠ "" := by
    simp [Text.given, Option.filter, named]
  have outlineTakes := decl.outline_takes scope (some decl.name) ownName
  have searchTakes := Node.findControls_takes scope decl.members
  rw [← Nat.max_eq_right (Node.highest_outlined_le decl.members)]
  simp only [entry, Analysis.outcome_bind, outcome_importOf]
  exact outlineTakes.bind fun _ _ => searchTakes.map _

theorem StructuredDecl.entry_eq_ok_iff {scope : Scope} {package path : Option String}
    {decl : StructuredDecl} {entry : ClassEntry} :
    (decl.entry scope package path).outcome = .ok entry ↔
      entry.name = decl.name ∧
        (decl.outline scope (some decl.name)).outcome = .ok entry.outline ∧
        (Node.findControls scope decl.members).outcome = .ok entry.harvest ∧
        entry.importPath = path.bind (ImportPath.resolve? · decl.name package) := by
  simp only [StructuredDecl.entry, Analysis.outcome_bind, outcome_importOf, bind_eq_ok_iff,
    Analysis.outcome_pure, Except.ok.injEq]
  constructor
  · rintro ⟨outline, outlined, harvest, found, importPath, rfl, rfl⟩
    exact ⟨rfl, outlined, found, rfl⟩
  · rcases entry with ⟨name, outline, harvest, importPath⟩
    rintro ⟨rfl, outlined, found, rfl⟩
    exact ⟨outline, outlined, harvest, found, _, rfl, rfl⟩

/-! ## What an outline lists -/

/-- Whether a class builds any controls. -/
def ClassEntry.hasControls (entry : ClassEntry) : Bool :=
  !entry.harvest.controls.isEmpty

theorem ClassEntry.map_fst_imports (entries : List ClassEntry) :
    (entries.filterMap fun entry =>
        entry.importPath.map fun path => (entry.name, path)).map Prod.fst =
      (entries.filter fun entry => entry.importPath.isSome).map ClassEntry.name := by
  induction entries with
  | nil => rfl
  | cons entry rest ih => cases imported : entry.importPath <;> simp [imported, ih]

/-- The tables of an outline hold what the classes bring, in order. -/
structure FileOutline.Lists (outline : FileOutline) (entries : List ClassEntry) : Prop where
  classes : outline.classes.entries = entries.map fun entry => (entry.name, entry.outline)
  controls : outline.controls.entries =
    (entries.filter ClassEntry.hasControls).map fun entry => (entry.name, entry.harvest.controls)
  graphs : outline.graphs.entries =
    (entries.filter ClassEntry.hasControls).map fun entry => (entry.name, entry.harvest.graph)
  imports : outline.imports.entries =
    entries.filterMap fun entry => entry.importPath.map fun path => (entry.name, path)

namespace FileOutline.Lists

variable {outline : FileOutline} {entries : List ClassEntry}

theorem empty : FileOutline.empty.Lists [] :=
  ⟨rfl, rfl, rfl, rfl⟩

theorem keys_classes (lists : outline.Lists entries) :
    outline.classes.keys = entries.map ClassEntry.name := by
  rw [Table.keys, lists.classes, List.map_map]
  rfl

theorem keys_controls (lists : outline.Lists entries) :
    outline.controls.keys = (entries.filter ClassEntry.hasControls).map ClassEntry.name := by
  rw [Table.keys, lists.controls, List.map_map]
  rfl

theorem keys_graphs (lists : outline.Lists entries) :
    outline.graphs.keys = (entries.filter ClassEntry.hasControls).map ClassEntry.name := by
  rw [Table.keys, lists.graphs, List.map_map]
  rfl

theorem keys_imports (lists : outline.Lists entries) :
    outline.imports.keys =
      (entries.filter fun entry => entry.importPath.isSome).map ClassEntry.name := by
  rw [Table.keys, lists.imports, ClassEntry.map_fst_imports]

/-- A class with a new name is listed last. -/
theorem enter (lists : outline.Lists entries) {entry : ClassEntry}
    (new : entry.name ∉ entries.map ClassEntry.name) :
    (outline.enter entry).Lists (entries ++ [entry]) := by
  have newAmong : ∀ test, entry.name ∉ (entries.filter test).map ClassEntry.name :=
    fun _ member => new ((List.filter_sublist.map ClassEntry.name).subset member)
  have newClass : entry.name ∉ outline.classes.keys := lists.keys_classes ▸ new
  have newControls : entry.name ∉ outline.controls.keys := lists.keys_controls ▸ newAmong _
  have newGraph : entry.name ∉ outline.graphs.keys := lists.keys_graphs ▸ newAmong _
  have newImport : entry.name ∉ outline.imports.keys := lists.keys_imports ▸ newAmong _
  constructor
  · simp only [FileOutline.enter, addClass]
    rw [Table.entries_insert_of_not_mem _ _ _ newClass, lists.classes, List.map_append,
      List.map_singleton]
  · simp only [FileOutline.enter, addClass, List.filter_append, List.map_append]
    cases empty : entry.harvest.controls.isEmpty with
    | true => simp [ClassEntry.hasControls, empty, lists.controls]
    | false =>
        simp [ClassEntry.hasControls, empty, lists.controls,
          Table.entries_insert_of_not_mem _ _ _ newControls]
  · simp only [FileOutline.enter, addClass, List.filter_append, List.map_append]
    cases empty : entry.harvest.controls.isEmpty with
    | true => simp [ClassEntry.hasControls, empty, lists.graphs]
    | false =>
        simp [ClassEntry.hasControls, empty, lists.graphs,
          Table.entries_insert_of_not_mem _ _ _ newGraph]
  · simp only [FileOutline.enter, addClass, List.filterMap_append]
    cases imported : entry.importPath with
    | none => simp [imported, lists.imports]
    | some path =>
        simp [imported, lists.imports, Table.entries_insert_of_not_mem _ _ _ newImport]

end FileOutline.Lists

/-! ## Looking a class up -/

/-- What the classes have of one kind, under their names. -/
def ClassEntry.column {α : Type} (pick : ClassEntry → Option α) (entries : List ClassEntry) :
    List (String × α) :=
  entries.filterMap fun entry => (pick entry).map fun value => (entry.name, value)

/-- The controls that are listed for a class. -/
def ClassEntry.controls? (entry : ClassEntry) : Option (List Control) :=
  if entry.hasControls then some entry.harvest.controls else none

/-- The graph that is listed for a class. -/
def ClassEntry.graph? (entry : ClassEntry) : Option Containment :=
  if entry.hasControls then some entry.harvest.graph else none

/-- A column of the classes that build controls. -/
theorem ClassEntry.map_filter_eq_column {α : Type} (value : ClassEntry → α)
    (entries : List ClassEntry) :
    ((entries.filter ClassEntry.hasControls).map fun entry => (entry.name, value entry)) =
      ClassEntry.column (fun entry => if entry.hasControls then some (value entry) else none)
        entries := by
  induction entries with
  | nil => rfl
  | cons entry rest ih =>
      rw [column] at ih ⊢
      cases builds : entry.hasControls <;> simp [builds, ih]

/-- Where names occur once, a column has at a name what its class has. -/
theorem ClassEntry.find?_of_column {α : Type} {table : Table α} {entries : List ClassEntry}
    {pick : ClassEntry → Option α} (columnEq : table.entries = ClassEntry.column pick entries)
    (nodup : (entries.map ClassEntry.name).Nodup) {entry : ClassEntry}
    (member : entry ∈ entries) : table.find? entry.name = pick entry := by
  apply Option.ext
  intro value
  rw [Table.find?_eq_some_iff, columnEq, column, List.mem_filterMap]
  constructor
  · rintro ⟨other, otherMem, picked⟩
    obtain ⟨_, found, pairEq⟩ := Option.map_eq_some_iff.mp picked
    obtain ⟨nameEq, rfl⟩ := Prod.mk.inj pairEq
    have same : other = entry := List.inj_on_of_nodup_map nodup otherMem member nameEq
    exact same ▸ found
  · intro found
    exact ⟨entry, member, by rw [found, Option.map_some]⟩

/-- Two outlines say the same about a class. -/
structure FileOutline.Agree (outline other : FileOutline) (name : String) : Prop where
  classes : outline.classes.find? name = other.classes.find? name
  controls : outline.controls.find? name = other.controls.find? name
  graphs : outline.graphs.find? name = other.graphs.find? name
  imports : outline.imports.find? name = other.imports.find? name

namespace FileOutline.Lists

variable {outline other : FileOutline} {entries others : List ClassEntry} {entry : ClassEntry}

theorem nodup_names (lists : outline.Lists entries) : (entries.map ClassEntry.name).Nodup :=
  lists.keys_classes ▸ outline.classes.nodup_keys

theorem find?_classes (lists : outline.Lists entries) (member : entry ∈ entries) :
    outline.classes.find? entry.name = some entry.outline := by
  have columnEq : outline.classes.entries =
      ClassEntry.column (fun entry => some entry.outline) entries := by
    rw [lists.classes, ClassEntry.column]
    exact congrFun List.filterMap_eq_map.symm entries
  exact ClassEntry.find?_of_column columnEq lists.nodup_names member

theorem find?_controls (lists : outline.Lists entries) (member : entry ∈ entries) :
    outline.controls.find? entry.name = entry.controls? :=
  ClassEntry.find?_of_column (lists.controls.trans (ClassEntry.map_filter_eq_column _ _))
    lists.nodup_names member

theorem find?_graphs (lists : outline.Lists entries) (member : entry ∈ entries) :
    outline.graphs.find? entry.name = entry.graph? :=
  ClassEntry.find?_of_column (lists.graphs.trans (ClassEntry.map_filter_eq_column _ _))
    lists.nodup_names member

theorem find?_imports (lists : outline.Lists entries) (member : entry ∈ entries) :
    outline.imports.find? entry.name = entry.importPath :=
  ClassEntry.find?_of_column lists.imports lists.nodup_names member

/-- Outlines that list the same for a class agree on it. -/
theorem agree (lists : outline.Lists entries) (otherLists : other.Lists others)
    (member : entry ∈ entries) (otherMember : entry ∈ others) :
    outline.Agree other entry.name where
  classes := (lists.find?_classes member).trans (otherLists.find?_classes otherMember).symm
  controls := (lists.find?_controls member).trans (otherLists.find?_controls otherMember).symm
  graphs := (lists.find?_graphs member).trans (otherLists.find?_graphs otherMember).symm
  imports := (lists.find?_imports member).trans (otherLists.find?_imports otherMember).symm

end FileOutline.Lists

/-! ## Going through the declarations -/

/-- The search of a class stays within a bound if that of every member does. -/
theorem Node.highest_entries_le_iff (members : List Node) (bound : Nat) :
    Node.highest .search (members.flatMap Node.entries) ≤ bound ↔
      ∀ member ∈ members, member.searchHeight ≤ bound := by
  induction members with
  | nil => simp
  | cons member rest ih =>
      rw [List.flatMap_cons, highest_append, Nat.max_le, ih, List.forall_mem_cons]
      rfl

/-- A class with a new name is entered unless one of its members nests too deep. -/
theorem StructuredDecl.entry_cases (vocabulary : Vocabulary) (package path : Option String)
    (decl : StructuredDecl) (named : decl.name ≠ "") :
    ((∃ member ∈ decl.members, vocabulary.ceiling.height < member.searchHeight) ∧
        (decl.entry (.outermost vocabulary) package path).outcome =
          .error (.tooDeep vocabulary.ceiling)) ∨
      ((¬ ∃ member ∈ decl.members, vocabulary.ceiling.height < member.searchHeight) ∧
        ∃ entry, (decl.entry (.outermost vocabulary) package path).outcome = .ok entry) := by
  have takes := decl.entry_takes (.outermost vocabulary) package path named
  have deepIff : (∃ member ∈ decl.members, vocabulary.ceiling.height < member.searchHeight) ↔
      vocabulary.ceiling.height <
        Node.highest .search (decl.members.flatMap Node.entries) := by
    rw [← Nat.not_le, Node.highest_entries_le_iff]
    simp
  rw [deepIff]
  by_cases deep : vocabulary.ceiling.height <
      Node.highest .search (decl.members.flatMap Node.entries)
  · refine .inl ⟨deep, takes.stops (Nat.ne_zero_of_lt deep) ?_⟩
    simpa [Scope.outermost] using deep
  · refine .inr ⟨deep, takes.returns (.inr ?_)⟩
    simpa [Scope.outermost] using deep

/-- An outline that lists some classes becomes one that also lists what further
declarations bring. -/
structure Brings (vocabulary : Vocabulary) (package path : Option String) (decls : List Node)
    (outline : FileOutline) (entries : List ClassEntry) (next : FileOutline)
    (more : List ClassEntry) : Prop where
  lists : next.Lists (entries ++ more)
  named : ∀ decl ∈ Node.classes decls, decl.name ≠ ""
  each : List.Forall₂ (fun decl entry =>
    (decl.entry (.outermost vocabulary) package path).outcome = .ok entry)
    (Node.classes decls) more
  functions : next.functions =
    outline.functions ++ (Node.functions decls).map FunctionDecl.signature

/-- Declarations that are neither classes nor functions bring nothing. -/
theorem Brings.nothing {vocabulary : Vocabulary} {package path : Option String}
    {decls : List Node} {outline : FileOutline} {entries : List ClassEntry}
    (lists : outline.Lists entries) (noClass : Node.classes decls = [])
    (noFunction : Node.functions decls = []) :
    Brings vocabulary package path decls outline entries outline [] where
  lists := by
    rw [List.append_nil]
    exact lists
  named := by
    rw [noClass]
    rintro _ ⟨⟩
  each := by
    rw [noClass]
    exact .nil
  functions := by
    rw [noFunction, List.map_nil, List.append_nil]

/-- One top-level class stops the outline if it is at fault.  Otherwise what it
brings is listed last. -/
theorem StructuredDecl.outlineInto_cases (vocabulary : Vocabulary)
    (package path : Option String) {outline : FileOutline} {entries : List ClassEntry}
    (lists : outline.Lists entries) (decl : StructuredDecl) :
    (∃ failure,
        (Node.structured decl).FaultAfter vocabulary.ceiling
          (entries.map ClassEntry.name) failure ∧
        (decl.outlineInto (.outermost vocabulary) package path outline).outcome =
          .error failure) ∨
      ((∀ failure, ¬ (Node.structured decl).FaultAfter vocabulary.ceiling
          (entries.map ClassEntry.name) failure) ∧
        ∃ next more,
          (decl.outlineInto (.outermost vocabulary) package path outline).outcome = .ok next ∧
          Brings vocabulary package path [.structured decl] outline entries next more) := by
  rw [← lists.keys_classes]
  by_cases named : decl.name = ""
  · exact .inl ⟨_, .nameless named, by simp [outlineInto, named]⟩
  by_cases taken : decl.name ∈ outline.classes.keys
  · have present := (outline.classes.contains_iff _).mpr taken
    exact .inl ⟨_, .repeated named taken, by simp [outlineInto, named, present]⟩
  rw [outlineInto_of_new _ _ _ named taken, Analysis.outcome_bind]
  rcases decl.entry_cases vocabulary package path named with
    ⟨⟨member, memberMem, deep⟩, stops⟩ | ⟨shallow, entry, returns⟩
  · rw [stops]
    exact .inl ⟨_, .deep named taken memberMem deep, rfl⟩
  · rw [returns]
    refine .inr ⟨?_, outline.enter entry, [entry], rfl, ?_, ?_, ?_, ?_⟩
    · intro failure fault
      cases fault with
      | nameless nameless => exact named nameless
      | repeated _ repeated => exact taken repeated
      | deep _ _ memberMem deep => exact shallow ⟨_, memberMem, deep⟩
    · apply lists.enter
      rw [← lists.keys_classes, (entry_eq_ok_iff.mp returns).1]
      exact taken
    · intro other member
      have same : other = decl := List.mem_singleton.mp member
      rw [same]
      exact named
    · exact .cons returns .nil
    · simp [Node.functions, Node.function?, FileOutline.enter, FileOutline.addClass]

/-- One declaration stops the outline if it is at fault.  Otherwise what it
brings is listed last. -/
theorem Node.outlineTopLevel_cases (vocabulary : Vocabulary) (package path : Option String)
    {outline : FileOutline} {entries : List ClassEntry} (lists : outline.Lists entries)
    (decl : Node) :
    (∃ failure, decl.FaultAfter vocabulary.ceiling (entries.map ClassEntry.name) failure ∧
        (decl.outlineTopLevel (.outermost vocabulary) package path outline).outcome =
          .error failure) ∨
      ((∀ failure,
          ¬ decl.FaultAfter vocabulary.ceiling (entries.map ClassEntry.name) failure) ∧
        ∃ next more,
          (decl.outlineTopLevel (.outermost vocabulary) package path outline).outcome =
            .ok next ∧
          Brings vocabulary package path [decl] outline entries next more) := by
  cases decl with
  | structured decl => exact decl.outlineInto_cases vocabulary package path lists
  | function decl =>
      refine .inr ⟨by rintro failure ⟨⟩, _, [], rfl, ?_, by rintro _ ⟨⟩, .nil, rfl⟩
      rw [List.append_nil]
      exact ⟨lists.classes, lists.controls, lists.graphs, lists.imports⟩
  | _ => exact .inr ⟨by rintro failure ⟨⟩, outline, [], rfl, .nothing lists rfl rfl⟩

theorem Node.classes_cons (decl : Node) (rest : List Node) :
    Node.classes (decl :: rest) = Node.classes [decl] ++ Node.classes rest :=
  List.filterMap_append (l := [decl])

/-- Where the names of classes occur once, a declaration brings a new one. -/
theorem Node.new_of_nodup {earlier : List String} {decl : Node} {rest : List Node}
    (nodup : (earlier ++ (Node.classes (decl :: rest)).map StructuredDecl.name).Nodup) :
    (∀ own ∈ Node.classes [decl], own.name ∉ earlier) ∧
      (earlier ++ (Node.classes [decl]).map StructuredDecl.name ++
        (Node.classes rest).map StructuredDecl.name).Nodup := by
  rw [classes_cons, List.map_append, ← List.append_assoc] at nodup
  have apart := List.disjoint_of_nodup_append (List.Nodup.of_append_left nodup)
  exact ⟨fun own member taken => apart taken (List.mem_map_of_mem member), nodup⟩

theorem Node.functions_cons (decl : Node) (rest : List Node) :
    Node.functions (decl :: rest) = Node.functions [decl] ++ Node.functions rest :=
  List.filterMap_append (l := [decl])

/-- What is related to a list element by element has a partner in it. -/
theorem exists_partner {α β : Type} {related : α → β → Prop} {first : List α}
    {second : List β} (all : List.Forall₂ related first second) {partner : β}
    (member : partner ∈ second) : ∃ element ∈ first, related element partner := by
  induction all with
  | nil => cases member
  | cons head _ ih =>
      rcases List.mem_cons.mp member with rfl | later
      · exact ⟨_, List.mem_cons_self, head⟩
      · obtain ⟨element, elementMem, holds⟩ := ih later
        exact ⟨element, List.mem_cons_of_mem _ elementMem, holds⟩

namespace Brings

variable {vocabulary : Vocabulary} {package path : Option String} {decls : List Node}
  {outline next : FileOutline} {entries more : List ClassEntry}

theorem names_eq (brings : Brings vocabulary package path decls outline entries next more) :
    more.map ClassEntry.name = (Node.classes decls).map StructuredDecl.name := by
  have related : List.Forall₂ (· = ·) (more.map ClassEntry.name)
      ((Node.classes decls).map StructuredDecl.name) := by
    rw [List.forall₂_map_left_iff, List.forall₂_map_right_iff]
    exact brings.each.flip.imp fun _ _ returns => (StructuredDecl.entry_eq_ok_iff.mp returns).1
  rwa [List.forall₂_eq_eq_eq] at related

/-- Every entry that is brought is that of a class. -/
theorem exists_decl (brings : Brings vocabulary package path decls outline entries next more)
    {entry : ClassEntry} (member : entry ∈ more) :
    ∃ decl ∈ Node.classes decls,
      (decl.entry (.outermost vocabulary) package path).outcome = .ok entry :=
  exists_partner brings.each member

/-- Every class brings its entry. -/
theorem exists_entry (brings : Brings vocabulary package path decls outline entries next more)
    {decl : StructuredDecl} (member : decl ∈ Node.classes decls) :
    ∃ entry ∈ more,
      (decl.entry (.outermost vocabulary) package path).outcome = .ok entry :=
  exists_partner brings.each.flip member

theorem cons {decl : Node} {rest : List Node} {last : FileOutline} {others : List ClassEntry}
    (first : Brings vocabulary package path [decl] outline entries next more)
    (second : Brings vocabulary package path rest next (entries ++ more) last others) :
    Brings vocabulary package path (decl :: rest) outline entries last (more ++ others) where
  lists := by
    rw [← List.append_assoc]
    exact second.lists
  named := by
    intro other member
    rw [Node.classes_cons, List.mem_append] at member
    exact member.elim (first.named other) (second.named other)
  each := by
    rw [Node.classes_cons]
    exact List.rel_append first.each second.each
  functions := by
    rw [second.functions, first.functions, Node.functions_cons decl rest, List.map_append,
      List.append_assoc]

end Brings

/-- One declaration stops the outline on a stack if the stack runs out in it or it is
at fault.  Otherwise what it brings is listed last. -/
theorem Node.carry_outlineTopLevel_cases (vocabulary : Vocabulary) (stack : Stack)
    (package path : Option String) {outline : FileOutline} {entries : List ClassEntry}
    (lists : outline.Lists entries) (decl : Node) :
    (∃ failure,
        decl.StopsAfter stack vocabulary.ceiling (entries.map ClassEntry.name)
          ((Scope.outermost vocabulary).reported failure) ∧
        (stack.carry decl
          (decl.outlineTopLevel (.outermost vocabulary) package path outline)).outcome =
          .error failure) ∨
      ((∀ failure, ¬ decl.StopsAfter stack vocabulary.ceiling (entries.map ClassEntry.name)
          failure) ∧
        ∃ next more,
          (stack.carry decl
            (decl.outlineTopLevel (.outermost vocabulary) package path outline)).outcome =
            .ok next ∧
          Brings vocabulary package path [decl] outline entries next more) := by
  by_cases bears : stack.Bears decl
  · rw [Stack.carry_of_bears bears]
    rcases decl.outlineTopLevel_cases vocabulary package path lists with
      ⟨failure, fault, stops⟩ | ⟨faultless, next, more, returns, brings⟩
    · refine .inl ⟨failure, .fault bears ?_, stops⟩
      rw [fault.reported_eq]
      exact fault
    · refine .inr ⟨?_, next, more, returns, brings⟩
      intro failure stops
      cases stops with
      | exhausted runsOut => exact runsOut bears
      | fault _ fault => exact faultless failure fault
  · exact .inl ⟨.stackExhausted, .exhausted bears, Stack.outcome_carry_of_not_bears bears _⟩

/-- The first declaration that stops the outline of a file decides what is reported.
If none does, what all of them bring is listed. -/
theorem Node.outlineTopLevels_cases (vocabulary : Vocabulary) (stack : Stack)
    (package path : Option String) {outline : FileOutline} {entries : List ClassEntry}
    (lists : outline.Lists entries) (decls : List Node) :
    (∃ failure,
        FirstStop (Node.StopsAfter stack vocabulary.ceiling) (entries.map ClassEntry.name) decls
          ((Scope.outermost vocabulary).reported failure) ∧
        (Node.outlineTopLevels (.outermost vocabulary) stack package path outline
          decls).outcome = .error failure) ∨
      ((∀ failure, ¬ FirstStop (Node.StopsAfter stack vocabulary.ceiling)
          (entries.map ClassEntry.name) decls failure) ∧
        ∃ result more,
          (Node.outlineTopLevels (.outermost vocabulary) stack package path outline
            decls).outcome = .ok result ∧
          Brings vocabulary package path decls outline entries result more) := by
  induction decls generalizing outline entries with
  | nil => exact .inr ⟨by rintro failure ⟨⟩, outline, [], rfl, .nothing lists rfl rfl⟩
  | cons decl rest ih =>
      rw [outlineTopLevels, Analysis.outcome_bind]
      rcases decl.carry_outlineTopLevel_cases vocabulary stack package path lists with
        ⟨failure, stop, stops⟩ | ⟨faultless, next, more, returns, brings⟩
      · rw [stops]
        exact .inl ⟨failure, .here stop, rfl⟩
      · rw [returns]
        have namesEq : (entries ++ more).map ClassEntry.name =
            entries.map ClassEntry.name ++ (Node.classes [decl]).map StructuredDecl.name := by
          rw [List.map_append, brings.names_eq]
        rcases ih brings.lists with
          ⟨failure, stop, stops⟩ | ⟨restFaultless, result, others, restReturns, restBrings⟩
        · rw [namesEq] at stop
          exact .inl ⟨failure, .later faultless stop, stops⟩
        · refine .inr ⟨?_, result, more ++ others, restReturns, brings.cons restBrings⟩
          intro failure stop
          cases stop with
          | here stop => exact faultless failure stop
          | later _ stop => exact restFaultless failure (namesEq ▸ stop)

end ViewOutline
