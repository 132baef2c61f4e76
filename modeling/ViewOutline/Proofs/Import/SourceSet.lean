import ViewOutline.Proofs.Import.Layout
import ViewOutline.Proofs.Project.Listing

/-!
# Imports from the source sets of a project

Discovery finds a source file below a source set, whose place in the project is
fixed.  The import reads the path of the file without knowing the project and takes
the last directory that is named as a source root.  The two agree on a file exactly
if no directory between the source set and the file is named as a source root, and
none has a backslash in its name, which the import takes for a separator.
-/

namespace ViewOutline

/-! ## Paths as texts -/

theorem ImportPath.backslash_not_mem_component {path part : List Char}
    (member : part ∈ components path) : '\\' ∉ part := by
  let slashed := path.map fun c => if c = '\\' then '/' else c
  have read : ∀ c ∈ slashed, (c != '\\') = true := by
    intro c isRead
    obtain ⟨source, _, rfl⟩ := List.mem_map.mp isRead
    split
    · rfl
    · rename_i other
      exact bne_iff_ne.mpr other
  have whole : ['/'].intercalate (components path) = slashed := List.intercalate_splitOn '/'
  rw [← whole, Text.forall_mem_intercalate_iff rfl] at read
  intro inside
  cases read part member _ inside

/-- The names of a path where a backslash ends a name as well as a slash. -/
def Path.readNames (path : Path) : List String :=
  path.flatMap fun name => (ImportPath.components name.toList).map String.ofList

theorem Path.readNames_append (first second : Path) :
    readNames (first ++ second) = readNames first ++ readNames second :=
  List.flatMap_append

theorem Path.readNames_eq_self {path : Path} (free : ∀ name ∈ path, Separator.Free name) :
    readNames path = path := by
  induction path with
  | nil => rfl
  | cons name rest ih =>
      obtain ⟨nameFree, restFree⟩ := List.forall_mem_cons.mp free
      rw [readNames, List.flatMap_cons, ImportPath.components_toList nameFree, List.map_singleton,
        String.ofList_toList, ← readNames, ih restFree, List.singleton_append]

theorem Path.backslash_not_mem_readNames {path : Path} {name : String}
    (member : name ∈ readNames path) : '\\' ∉ name.toList := by
  obtain ⟨source, _, read⟩ := List.mem_flatMap.mp member
  obtain ⟨part, isPart, rfl⟩ := List.mem_map.mp read
  rw [String.toList_ofList]
  exact ImportPath.backslash_not_mem_component isPart

theorem ImportPath.components_append_slash (first second : List Char) :
    components (first ++ '/' :: second) = components first ++ components second := by
  rw [components, List.map_append, List.map_cons, if_neg (by decide),
    List.splitOn_append_cons_self]
  rfl

theorem ImportPath.components_text {path : Path} (proper : path ≠ []) :
    components path.text.toList = path.readNames.map String.toList := by
  rw [Path.text, String.toList_intercalate]
  induction path with
  | nil => exact absurd rfl proper
  | cons name rest ih =>
      rw [Path.readNames, List.flatMap_cons, ← Path.readNames, List.map_cons, List.map_append]
      have same : ((components name.toList).map String.ofList).map String.toList =
          components name.toList := by
        simp
      by_cases alone : rest = []
      · rw [same, alone]
        simp [Path.readNames]
      · rw [List.intercalate_cons_of_ne_nil (by simpa using alone), List.append_assoc, same,
          ← ih alone]
        exact components_append_slash _ _

theorem SourcePath.lastName_text {front : Path} {file : String}
    (plain : ∀ name ∈ front ++ [file], '/' ∉ name.toList) (written : file ≠ "" ∧ file ≠ ".") :
    lastName (Path.text (front ++ [file])).toList = file.toList := by
  have counts : ([file.toList].filter fun name => name ≠ [] ∧ name ≠ ['.']) = [file.toList] := by
    have isWritten : file.toList ≠ [] ∧ file.toList ≠ ['.'] :=
      ⟨mt String.toList_eq_nil_iff.mp written.1, mt (@String.toList_inj file ".").mp written.2⟩
    simp [isWritten]
  rw [lastName, names, Path.splitOn_text (by simp) plain, List.map_append, List.filter_append,
    List.map_singleton, counts, List.getLast?_concat, Option.getD_some]

theorem Dialect.ofPath?_text {front : Path} {file : String} {dialect : Dialect}
    (plain : ∀ name ∈ front ++ [file], '/' ∉ name.toList) (known : ofPath? file = some dialect) :
    ofPath? (Path.text (front ++ [file])) = some dialect := by
  have written : file ≠ "" ∧ file ≠ "." := by
    constructor
    · rintro rfl
      cases known
    · rintro rfl
      cases known
  have single : Path.text ([] ++ [file]) = file := by
    rw [Path.text, ← String.toList_inj, String.toList_intercalate]
    simp
  have lone : ∀ name ∈ [] ++ [file], '/' ∉ name.toList := by
    simpa using plain file (by simp)
  have alone := SourcePath.lastName_text lone written
  rw [single] at alone
  rw [ofPath?, SourcePath.suffix, alone] at known
  rw [ofPath?, SourcePath.suffix, SourcePath.lastName_text plain written, known]

/-! ## Names below the last source root -/

theorem BelowRoot.eq_of_belowRoot {names below other : List String} (found : BelowRoot names below)
    (otherFound : BelowRoot names other) : below = other := by
  have same : below.map String.toList = other.map String.toList := by
    rw [← ImportPath.packageDirectories_map_toList found,
      ImportPath.packageDirectories_map_toList otherFound]
  exact List.map_injective_iff.mpr (fun _ _ => String.toList_inj.mp) same

theorem BelowRoot.mem {names below : List String} (found : BelowRoot names below) {name : String}
    (member : name ∈ below) : name ∈ names := by
  cases found with
  | rooted above isRoot last => exact List.mem_append_right _ (List.mem_cons_of_mem _ member)
  | unrooted none => cases member

theorem exists_last_root {names : List String} {name : String} (member : name ∈ names)
    (isRoot : IsSourceRoot name) : ∃ above root below, names = above ++ root :: below ∧
      IsSourceRoot root ∧ ∀ later ∈ below, ¬ IsSourceRoot later := by
  obtain ⟨below, found⟩ := exists_belowRoot names
  cases found with
  | rooted above isLast last => exact ⟨above, _, below, rfl, isLast, last⟩
  | unrooted none => exact absurd isRoot (none name member)

/-- The last part of an import from a file: the class in Kotlin, the file in Java. -/
def Dialect.leafOf (dialect : Dialect) (file className : String) : String :=
  match dialect with
  | .kotlin => className
  | .java => String.ofList (SourcePath.stem file.toList)

theorem ImportPath.resolve?_text {front : Path} {file : String} {dialect : Dialect}
    (plain : ∀ name ∈ front ++ [file], '/' ∉ name.toList)
    (known : Dialect.ofPath? file = some dialect) {above below : List String} {last : String}
    (read : Path.readNames (front ++ [file]) = above ++ [last]) (found : BelowRoot above below)
    (className : String) {package : Option String}
    (undeclared : package = none ∨ package = some "") :
    resolve? (Path.text (front ++ [file])) className package =
      some (".".intercalate (below ++ [dialect.leafOf last className])) := by
  have given : Text.given package = none := by
    rcases undeclared with rfl | rfl <;> rfl
  have names : components (Path.text (front ++ [file])).toList =
      above.map String.toList ++ [last.toList] := by
    rw [components_text (by simp), read, List.map_append, List.map_singleton]
  have parts : packageParts (Path.text (front ++ [file])).toList package =
      below.map String.toList := by
    simp only [packageParts, given, names, List.dropLast_concat,
      packageDirectories_map_toList found]
  have leafEq : leaf dialect (Path.text (front ++ [file])).toList className =
      (dialect.leafOf last className).toList := by
    cases dialect with
    | kotlin => rfl
    | java => simp only [leaf, Dialect.leafOf, names, List.getLast?_concat, Option.getD_some,
        String.toList_ofList]
  rw [resolve?, Dialect.ofPath?_text plain known, Option.map_some, parts, leafEq,
    Option.some.injEq, ← String.toList_inj, String.toList_ofList, String.toList_intercalate,
    List.map_append, List.map_singleton]
  rfl

/-! ## Joined names -/

/-- Names with a dot after each. -/
def ImportPath.dotted (names : List String) : List Char :=
  names.flatMap fun name => name.toList ++ ['.']

theorem ImportPath.dotted_cons (name : String) (rest : List String) :
    dotted (name :: rest) = name.toList ++ '.' :: dotted rest := by
  rw [dotted, List.flatMap_cons, List.append_assoc]
  rfl

theorem ImportPath.toList_intercalate_concat (names : List String) (leaf : String) :
    (".".intercalate (names ++ [leaf])).toList = dotted names ++ leaf.toList := by
  rw [String.toList_intercalate]
  induction names with
  | nil => simp [dotted]
  | cons name rest ih =>
      rw [List.cons_append, List.map_cons, List.intercalate_cons_of_ne_nil (by simp), ih,
        dotted_cons, List.append_assoc, List.append_assoc]
      rfl

/-- Before the same leaf two packages are told apart by their joined names. -/
theorem ImportPath.intercalate_concat_inj_iff (names others : List String) (leaf : String) :
    ".".intercalate (names ++ [leaf]) = ".".intercalate (others ++ [leaf]) ↔
      dotted names = dotted others := by
  rw [← String.toList_inj, toList_intercalate_concat, toList_intercalate_concat,
    List.append_left_inj]

/-! ## Files below source sets -/

/-- A source file of a project below one of the source sets. -/
structure SetFile (project : Entry) where
  root : Path
  /-- The directories between the source set and the file. -/
  directories : Path
  name : String
  bytes : List UInt8
  dialect : Dialect
  wellNamed : project.WellNamed
  isSet : root ∈ Discovery.sourceSets
  found : project.at? (root ++ directories ++ [name]) = some (.file bytes)
  known : Dialect.ofPath? name = some dialect

namespace SetFile

variable {project : Entry} (file : SetFile project)

/-- The path of a file in its project. -/
def place : Path :=
  file.root ++ file.directories ++ [file.name]

/-- No directory between the source set and the file is named as a source root or
has a backslash in its name. -/
def RunsPlain : Prop :=
  ∀ directory ∈ file.directories, ¬ IsSourceRoot directory ∧ '\\' ∉ directory.toList

theorem plain : ∀ name ∈ file.place, '/' ∉ name.toList :=
  (file.wellNamed.at? file.found).1

/-- The source set is among the roots that discovery takes. -/
theorem root_mem_sourceRoots : file.root ∈ Discovery.sourceRoots project := by
  have found := file.found
  rw [List.append_assoc] at found
  have folder : project.hasFolder file.root = true := Entry.hasFolder_of_at?_append (by simp) found
  rw [Discovery.sourceRoots_eq_filter file.isSet folder]
  exact List.mem_filter.mpr ⟨file.isSet, folder⟩

theorem exists_root : ∃ above root, file.root = above ++ [root] ∧ IsSourceRoot root := by
  have ends : ∀ root ∈ Discovery.sourceSets,
      ∃ name ∈ ["kotlin", "java"], root = root.dropLast ++ [name] := by
    decide
  obtain ⟨name, isRoot, split⟩ := ends file.root file.isSet
  exact ⟨file.root.dropLast, name, split, List.mem_pair.mp isRoot⟩

theorem root_free : ∀ name ∈ file.root, '\\' ∉ name.toList := by
  have free : ∀ root ∈ Discovery.sourceSets, ∀ name ∈ root, '\\' ∉ name.toList := by
    decide
  exact free file.root file.isSet

/-- Where no directory is in the way, the import reads the names of the path. -/
theorem readNames_eq (free : ∀ directory ∈ file.directories, '\\' ∉ directory.toList) :
    Path.readNames (file.root ++ file.directories) = file.root ++ file.directories := by
  refine Path.readNames_eq_self fun name member => ?_
  rintro (_ | _)
  · exact file.plain name (List.mem_append_left _ member)
  · rcases List.mem_append.mp member with inRoot | between
    · exact file.root_free name inRoot
    · exact free name between

/-- The names below the last source root are those below the source set if the
directories run plain. -/
theorem dotted_eq_iff {below : List String}
    (found : BelowRoot (Path.readNames (file.root ++ file.directories)) below) :
    ImportPath.dotted below = ImportPath.dotted file.directories ↔ file.RunsPlain := by
  constructor
  · intro same
    have free : ∀ directory ∈ file.directories, '\\' ∉ directory.toList := by
      intro directory member inside
      have joined : '\\' ∈ ImportPath.dotted file.directories :=
        List.mem_flatMap.mpr ⟨directory, member, List.mem_append_left _ inside⟩
      rw [← same] at joined
      obtain ⟨name, isBelow, inName⟩ := List.mem_flatMap.mp joined
      rcases List.mem_append.mp inName with inName | isDot
      · exact Path.backslash_not_mem_readNames (found.mem isBelow) inName
      · cases List.mem_singleton.mp isDot
    rw [file.readNames_eq free] at found
    refine fun directory member => ⟨fun isRoot => ?_, free directory member⟩
    -- Below a later source root the joined names are shorter.
    obtain ⟨above, root, after, split, isLast, last⟩ := exists_last_root member isRoot
    have later : BelowRoot (file.root ++ file.directories) after := by
      rw [split, ← List.append_assoc]
      exact .rooted _ isLast last
    rw [found.eq_of_belowRoot later, split] at same
    have lengths := congrArg List.length same
    simp only [ImportPath.dotted, List.flatMap_append, List.flatMap_cons, List.length_append,
      List.length_singleton] at lengths
    omega
  · intro plain
    obtain ⟨above, root, split, isRoot⟩ := file.exists_root
    have same : below = file.directories := by
      refine found.eq_of_belowRoot ?_
      rw [file.readNames_eq fun directory member => (plain directory member).2, split,
        List.append_assoc]
      exact .rooted above isRoot fun directory member => (plain directory member).1
    rw [same]

/-- What is imported from a file below a source set. -/
structure Imported (file : SetFile project) (className : String) : Prop where
  /-- Discovery takes the source set for a root. -/
  discovered : file.root ∈ Discovery.sourceRoots project
  /-- The import is the one below the last source root among the names of the path. -/
  resolved : ∃ above last below, file.place.readNames = above ++ [last] ∧ BelowRoot above below ∧
    ∀ package, package = none ∨ package = some "" →
      ImportPath.resolve? file.place.text className package =
        some (".".intercalate (below ++ [file.dialect.leafOf last className]))
  /-- It is the one below the source set if the directories run plain. -/
  agrees_iff : '\\' ∉ file.name.toList → ∀ package, package = none ∨ package = some "" →
    (ImportPath.resolve? file.place.text className package =
        some (".".intercalate (file.directories ++ [file.dialect.leafOf file.name className])) ↔
      file.RunsPlain)

/-- Discovery and import agree on where packages start in a project if no directory
on the way to the file is in the way. -/
theorem imported_from_sourceSet (className : String) : file.Imported className where
  discovered := file.root_mem_sourceRoots
  resolved := by
    have proper : file.place.readNames ≠ [] := by
      have component : ImportPath.components file.name.toList ≠ [] := List.splitOn_ne_nil _ _
      simp [place, Path.readNames, component]
    have read := (List.dropLast_append_getLast proper).symm
    obtain ⟨below, found⟩ := exists_belowRoot file.place.readNames.dropLast
    exact ⟨_, _, below, read, found, fun package undeclared =>
      ImportPath.resolve?_text file.plain file.known read found className undeclared⟩
  agrees_iff free package undeclared := by
    obtain ⟨below, found⟩ :=
      exists_belowRoot (Path.readNames (file.root ++ file.directories))
    have nameFree : Separator.Free file.name := by
      rintro (_ | _)
      · exact file.plain file.name (by simp [place])
      · exact free
    have read : file.place.readNames =
        Path.readNames (file.root ++ file.directories) ++ [file.name] := by
      have single : Path.readNames [file.name] = [file.name] :=
        Path.readNames_eq_self (by simpa using nameFree)
      rw [place, Path.readNames_append, single]
    rw [place, ImportPath.resolve?_text file.plain file.known read found className undeclared,
      Option.some.injEq, ImportPath.intercalate_concat_inj_iff, file.dotted_eq_iff found]

/-- A project with one file, in a package that is named as a source root. -/
def shadowing : Entry :=
  .folder [("src", .folder [("main", .folder [("kotlin", .folder [("com", .folder [("java",
    .folder [("View.kt", .file [])])])])])])]

/-- The file of this project. -/
def shadowed : SetFile shadowing where
  root := ["src", "main", "kotlin"]
  directories := ["com", "java"]
  name := "View.kt"
  bytes := []
  dialect := .kotlin
  wellNamed := .single (by decide) (.single (by decide) (.single (by decide) (.single (by decide)
    (.single (by decide) (.single (by decide) (.file []))))))
  isSet := by decide
  found := rfl
  known := by decide

/-- A package that is named as a source root is lost with the packages above it. -/
theorem import_shadowed :
    shadowed.root ∈ Discovery.sourceRoots shadowing ∧
    shadowed.place.text = "src/main/kotlin/com/java/View.kt" ∧
    ".".intercalate (shadowed.directories ++ [shadowed.dialect.leafOf shadowed.name "View"]) =
      "com.java.View" ∧
    ImportPath.resolve? shadowed.place.text "View" none = some "View" := by
  decide

end SetFile

end ViewOutline
