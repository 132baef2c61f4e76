import ViewOutline.ImportPath
import ViewOutline.Proofs.Text.Character
import ViewOutline.Proofs.Text.Split

/-!
# Import paths over source layouts

A source layout is a path taken apart: its directories with the separator
written after each, the stem of its file and the extension, in any letter case,
that gives the dialect.  Two readings of the written path have to agree here.
The dialect is read off the slashes alone, so that directories before a
backslash stay in front of the stem, while the package and the stem are read
off both separators.

The main statement says what import path a layout gives: the directories below
the last source root, or the declared package whatever the directories are, and
then the class or the stem.  The separators have no part in it.
-/

namespace ViewOutline

/-- A mark that ends a directory in a written path. -/
inductive Separator where
  | slash
  | backslash
  deriving DecidableEq

/-- The character of a separator. -/
def Separator.char : Separator → Char
  | .slash => '/'
  | .backslash => '\\'

/-- A name that can stand between two separators. -/
def Separator.Free (name : String) : Prop :=
  ∀ separator : Separator, separator.char ∉ name.toList

/-- The extensions of a dialect, in lower case. -/
def Dialect.extensions : Dialect → List String
  | .kotlin => [".kt", ".kts"]
  | .java => [".java"]

/-- The parts of the path of a source file. -/
structure SourceLayout where
  /-- The directories, each with the separator that follows it. -/
  directories : List (String × Separator)
  stem : String
  extension : String
  dialect : Dialect
  directories_free : ∀ directory ∈ directories, Separator.Free directory.1
  stem_free : Separator.Free stem
  stem_ne : stem ≠ ""
  extension_mem : extension.toLower ∈ dialect.extensions

namespace SourceLayout

/-- The names of the directories. -/
def names (layout : SourceLayout) : List String :=
  layout.directories.map Prod.fst

/-- A file below directories, each ended by its separator. -/
def written (file : String) : List (String × Separator) → String
  | [] => file
  | (name, separator) :: rest => name.push separator.char ++ written file rest

/-- The path that the parts make. -/
def path (layout : SourceLayout) : String :=
  written (layout.stem ++ layout.extension) layout.directories

/-- The last part of an import from the layout. -/
def leaf (layout : SourceLayout) (className : String) : String :=
  match layout.dialect with
  | .kotlin => className
  | .java => layout.stem

end SourceLayout

/-! ## The two readings of a path -/

/-- A name in which the last dot has characters on both sides. -/
structure SourcePath.Dotted (stem letters : List Char) : Prop where
  stem_ne : stem ≠ []
  letters_ne : letters ≠ []
  last : '.' ∉ letters

theorem SourcePath.Dotted.splitSuffix {stem letters : List Char} (dotted : Dotted stem letters) :
    splitSuffix (stem ++ '.' :: letters) = (stem, '.' :: letters) := by
  have length : (stem ++ '.' :: letters).length - letters.length - 1 = stem.length := by
    rw [List.length_append, List.length_cons]
    omega
  rw [SourcePath.splitSuffix]
  simp only [Text.afterLast_append_cons stem dotted.last, length, List.take_left]
  rw [if_pos ⟨by simp, dotted.letters_ne, dotted.stem_ne⟩]

/-- The last name of a path is the name at its end, after what stands between
it and the last slash. -/
theorem SourcePath.Dotted.exists_lastName {stem letters : List Char}
    (dotted : Dotted stem letters) (front : List Char) (free : '/' ∉ stem ++ '.' :: letters) :
    ∃ before, (front = [] → before = []) ∧
      lastName (front ++ (stem ++ '.' :: letters)) = before ++ (stem ++ '.' :: letters) := by
  obtain ⟨parts, before, split, splitAppend⟩ := Text.exists_splitOn_append front free
  refine ⟨before, ?_, ?_⟩
  · rintro rfl
    have alone := congrArg List.getLast? split
    rw [List.splitOn_nil, List.getLast?_concat, List.getLast?_singleton] at alone
    exact (Option.some.inj alone).symm
  · -- A stem stands before the dot, so the name is more than a single dot.
    have counts : ([before ++ (stem ++ '.' :: letters)].filter fun name =>
        name ≠ [] ∧ name ≠ ['.']) = [before ++ (stem ++ '.' :: letters)] := by
      simp [List.append_eq_singleton_iff, dotted.stem_ne]
    rw [lastName, names, splitAppend, List.filter_append, counts, List.getLast?_concat,
      Option.getD_some]

theorem SourcePath.Dotted.suffix {stem letters : List Char} (dotted : Dotted stem letters)
    (front : List Char) (free : '/' ∉ stem ++ '.' :: letters) :
    suffix (front ++ (stem ++ '.' :: letters)) = '.' :: letters := by
  obtain ⟨before, -, lastName⟩ := dotted.exists_lastName front free
  have longer : Dotted (before ++ stem) letters :=
    { dotted with stem_ne := by simp [dotted.stem_ne] }
  rw [SourcePath.suffix, lastName, ← List.append_assoc, longer.splitSuffix]

theorem SourcePath.Dotted.stem {stem letters : List Char} (dotted : Dotted stem letters)
    (free : '/' ∉ stem ++ '.' :: letters) :
    SourcePath.stem (stem ++ '.' :: letters) = stem := by
  obtain ⟨before, alone, lastName⟩ := dotted.exists_lastName [] free
  rw [alone rfl, List.nil_append] at lastName
  rw [SourcePath.stem, lastName, dotted.splitSuffix]

namespace ImportPath

/-- Reading both separators as slashes changes no name that is free of them. -/
theorem map_slash_eq_self {name : String} (free : Separator.Free name) :
    (name.toList.map fun c => if c = '\\' then '/' else c) = name.toList := by
  refine (List.map_congr_left fun c member => if_neg ?_).trans (List.map_id _)
  rintro rfl
  exact free .backslash member

theorem components_toList {name : String} (free : Separator.Free name) :
    components name.toList = [name.toList] := by
  rw [components, map_slash_eq_self free]
  exact List.splitOn_eq_singleton (free .slash)

theorem components_append_cons {name : String} (free : Separator.Free name)
    (separator : Separator) (rest : List Char) :
    components (name.toList ++ separator.char :: rest) = name.toList :: components rest := by
  have slash : (if separator.char = '\\' then '/' else separator.char) = '/' := by
    cases separator <;> rfl
  rw [components, List.map_append, List.map_cons, map_slash_eq_self free, slash]
  exact List.splitOn_append_cons_self_of_not_mem (free .slash) _

end ImportPath

/-! ## Below the last source root -/

/-- The directory names below which packages lie. -/
def IsSourceRoot (name : String) : Prop :=
  name = "kotlin" ∨ name = "java"

instance (name : String) : Decidable (IsSourceRoot name) :=
  inferInstanceAs (Decidable (name = "kotlin" ∨ name = "java"))

/-- The second list holds the names of the first after its last source root. -/
inductive BelowRoot : List String → List String → Prop where
  | rooted (above : List String) {root : String} {below : List String}
      (isRoot : IsSourceRoot root) (last : ∀ name ∈ below, ¬IsSourceRoot name) :
      BelowRoot (above ++ root :: below) below
  | unrooted {names : List String} (none : ∀ name ∈ names, ¬IsSourceRoot name) :
      BelowRoot names []

theorem exists_belowRoot (names : List String) : ∃ below, BelowRoot names below := by
  induction names with
  | nil => exact ⟨[], .unrooted (by simp)⟩
  | cons name rest ih =>
      obtain ⟨below, found⟩ := ih
      cases found with
      | rooted above isRoot last => exact ⟨below, .rooted (name :: above) isRoot last⟩
      | unrooted none =>
          by_cases isRoot : IsSourceRoot name
          · exact ⟨rest, .rooted [] isRoot none⟩
          · exact ⟨[], .unrooted (List.forall_mem_cons.mpr ⟨isRoot, none⟩)⟩

namespace ImportPath

theorem startsPackages_toList (name : String) :
    startsPackages name.toList = decide (IsSourceRoot name) := by
  rw [startsPackages, Bool.eq_iff_iff, Bool.or_eq_true, beq_iff_eq, beq_iff_eq,
    String.toList_inj, String.toList_inj, decide_eq_true_eq, IsSourceRoot]

theorem packageDirectories_map_toList {names below : List String}
    (found : BelowRoot names below) :
    packageDirectories (names.map String.toList) = below.map String.toList := by
  cases found with
  | rooted above isRoot last =>
      rename_i root
      have starts : ((above ++ root :: below).map String.toList).any startsPackages = true := by
        simp [startsPackages_toList, isRoot]
      rw [packageDirectories, if_pos starts, List.map_append, List.map_cons]
      refine Text.reverse_takeWhile_reverse _ (by simp [startsPackages_toList, isRoot]) ?_
      intro later member
      obtain ⟨name, isBelow, rfl⟩ := List.mem_map.mp member
      simp [startsPackages_toList, last name isBelow]
  | unrooted none =>
      have starts : ¬(names.map String.toList).any startsPackages = true := by
        simpa [startsPackages_toList] using none
      rw [packageDirectories, if_neg starts, List.map_nil]

end ImportPath

/-! ## Layouts -/

theorem Dialect.ofSuffix?_toList {dialect : Dialect} {extension : String}
    (member : extension ∈ dialect.extensions) :
    ofSuffix? extension.toList = some dialect := by
  cases dialect <;>
    simp only [extensions, List.mem_cons, List.not_mem_nil, or_false] at member
  case kotlin => rcases member with rfl | rfl <;> rfl
  case java => subst member; rfl

/-- An extension in lower case is a dot and then ASCII letters. -/
theorem Dialect.exists_lower {dialect : Dialect} {extension : String}
    (member : extension ∈ dialect.extensions) :
    ∃ lower, extension.toList = '.' :: lower ∧ lower ≠ [] ∧
      (∀ mark ∈ ['.', '/', '\\'], mark ∉ lower) ∧ ∀ c ∈ lower, c.toNat < 128 := by
  cases dialect <;>
    simp only [extensions, List.mem_cons, List.not_mem_nil, or_false] at member
  case kotlin =>
    rcases member with rfl | rfl
    · exact ⟨['k', 't'], rfl, by simp⟩
    · exact ⟨['k', 't', 's'], rfl, by simp⟩
  case java =>
    subst member
    exact ⟨['j', 'a', 'v', 'a'], rfl, by simp⟩

namespace SourceLayout

variable (layout : SourceLayout)

/-- An extension is a dot and then letters in either case. -/
theorem exists_letters :
    ∃ letters, layout.extension.toList = '.' :: letters ∧ letters ≠ [] ∧
      ∀ mark ∈ ['.', '/', '\\'], mark ∉ letters := by
  obtain ⟨lower, split, lower_ne, unmarked, -⟩ := Dialect.exists_lower layout.extension_mem
  rw [Text.toList_toLower, List.map_eq_cons_iff] at split
  obtain ⟨dot, letters, split, isDot, rfl⟩ := split
  rw [Text.eq_dot_of_toLower isDot] at split
  refine ⟨letters, split, fun none => lower_ne (by rw [none, List.map_nil]), ?_⟩
  intro mark isMark member
  -- The marks are their own lower-case forms.
  have kept : ∀ mark ∈ ['.', '/', '\\'], mark.toLower = mark := by simp
  exact unmarked mark isMark (List.mem_map.mpr ⟨mark, member, kept mark isMark⟩)

theorem file_free : Separator.Free (layout.stem ++ layout.extension) := by
  intro separator member
  obtain ⟨letters, split, -, unmarked⟩ := layout.exists_letters
  rw [String.toList_append, split, List.mem_append, List.mem_cons] at member
  rcases member with inStem | isDot | inLetters
  · exact layout.stem_free separator inStem
  · cases separator <;> exact absurd isDot (by decide)
  · exact unmarked separator.char (by cases separator <;> simp [Separator.char]) inLetters

/-- The file of a layout as a dotted name. -/
theorem exists_dotted :
    ∃ letters, (layout.stem ++ layout.extension).toList = layout.stem.toList ++ '.' :: letters ∧
      layout.extension.toList = '.' :: letters ∧
      SourcePath.Dotted layout.stem.toList letters ∧
      '/' ∉ layout.stem.toList ++ '.' :: letters := by
  obtain ⟨letters, split, letters_ne, unmarked⟩ := layout.exists_letters
  have file : (layout.stem ++ layout.extension).toList = layout.stem.toList ++ '.' :: letters := by
    rw [String.toList_append, split]
  have stem_ne : layout.stem.toList ≠ [] := by
    intro none
    exact layout.stem_ne (String.toList_eq_nil_iff.mp none)
  exact ⟨letters, file, split, ⟨stem_ne, letters_ne, unmarked '.' (by simp)⟩,
    file ▸ layout.file_free .slash⟩

theorem exists_written (file : String) (directories : List (String × Separator)) :
    ∃ front, (written file directories).toList = front ++ file.toList := by
  induction directories with
  | nil => exact ⟨[], rfl⟩
  | cons directory rest ih =>
      obtain ⟨front, split⟩ := ih
      refine ⟨(directory.1.push directory.2.char).toList ++ front, ?_⟩
      rw [written, String.toList_append, split, List.append_assoc]

theorem components_written {file : String} (free : Separator.Free file)
    {directories : List (String × Separator)}
    (directories_free : ∀ directory ∈ directories, Separator.Free directory.1) :
    ImportPath.components (written file directories).toList =
      (directories.map fun directory => directory.1.toList) ++ [file.toList] := by
  induction directories with
  | nil => exact ImportPath.components_toList free
  | cons directory rest ih =>
      obtain ⟨head_free, rest_free⟩ := List.forall_mem_cons.mp directories_free
      rw [written, String.toList_append, String.toList_push, List.append_assoc,
        List.singleton_append, ImportPath.components_append_cons head_free, ih rest_free,
        List.map_cons, List.cons_append]

/-- The dialect of the extension is the one read off the written path. -/
theorem ofPath?_path : Dialect.ofPath? layout.path = some layout.dialect := by
  obtain ⟨letters, file, extension, dotted, free⟩ := layout.exists_dotted
  obtain ⟨front, split⟩ :=
    exists_written (layout.stem ++ layout.extension) layout.directories
  -- The Kelvin sign is lowered to a `k`, but it is not in the extension.
  have ascii : ∀ c ∈ layout.extension.toLower.toList, c.toNat < 128 := by
    obtain ⟨lower, split, -, -, ascii⟩ := Dialect.exists_lower layout.extension_mem
    rw [split]
    exact List.forall_mem_cons.mpr ⟨by decide, ascii⟩
  rw [Dialect.ofPath?, path, split, file, dotted.suffix front free, ← extension,
    Text.lowered_toList ascii]
  exact Dialect.ofSuffix?_toList layout.extension_mem

/-- Both separators give the directories and then the file. -/
theorem components_path :
    ImportPath.components layout.path.toList =
      layout.names.map String.toList ++ [(layout.stem ++ layout.extension).toList] := by
  rw [path, components_written layout.file_free layout.directories_free, names, List.map_map]
  rfl

theorem leaf_path (className : String) :
    ImportPath.leaf layout.dialect layout.path.toList className =
      (layout.leaf className).toList := by
  unfold ImportPath.leaf leaf
  cases layout.dialect with
  | kotlin => rfl
  | java =>
      obtain ⟨letters, file, -, dotted, free⟩ := layout.exists_dotted
      rw [layout.components_path, List.getLast?_concat, Option.getD_some, file]
      exact dotted.stem free

/-- What is imported from a layout, before its parts are joined. -/
theorem resolve?_path (className : String) (package : Option String) :
    ImportPath.resolve? layout.path className package =
      some (String.ofList (['.'].intercalate
        (ImportPath.packageParts layout.path.toList package ++
          [(layout.leaf className).toList]))) := by
  rw [ImportPath.resolve?, layout.ofPath?_path, Option.map_some, layout.leaf_path]

theorem packageParts_path {package : Option String} (undeclared : Text.given package = none) :
    ImportPath.packageParts layout.path.toList package =
      ImportPath.packageDirectories (layout.names.map String.toList) := by
  simp only [ImportPath.packageParts, undeclared, layout.components_path, List.dropLast_concat]

/-- The import path of a class in the file of a layout. -/
structure Imports (layout : SourceLayout) (className : String) : Prop where
  /-- Without a package the directories below the last source root give it. -/
  undeclared : ∃ below, BelowRoot layout.names below ∧
    ∀ package, package = none ∨ package = some "" →
      ImportPath.resolve? layout.path className package =
        some (".".intercalate (below ++ [layout.leaf className]))
  /-- A declared package stands in their place. -/
  declared : ∀ package, package ≠ "" →
    ImportPath.resolve? layout.path className (some package) =
      some (package ++ "." ++ layout.leaf className)
  /-- A path that differs in its separators only gives the same import. -/
  separators : ∀ other : SourceLayout, other.names = layout.names →
    other.stem = layout.stem → other.extension = layout.extension →
      ∀ package, ImportPath.resolve? other.path className package =
        ImportPath.resolve? layout.path className package

theorem resolve?_undeclared {below : List String} (found : BelowRoot layout.names below)
    (className : String) {package : Option String}
    (undeclared : package = none ∨ package = some "") :
    ImportPath.resolve? layout.path className package =
      some (".".intercalate (below ++ [layout.leaf className])) := by
  have given : Text.given package = none := by
    rcases undeclared with rfl | rfl <;> rfl
  rw [layout.resolve?_path, layout.packageParts_path given,
    ImportPath.packageDirectories_map_toList found, Option.some.injEq, ← String.toList_inj,
    String.toList_ofList, String.toList_intercalate, List.map_append]
  rfl

theorem resolve?_declared (className : String) {package : String} (declared : package ≠ "") :
    ImportPath.resolve? layout.path className (some package) =
      some (package ++ "." ++ layout.leaf className) := by
  have given : Text.given (some package) = some package :=
    Text.given_eq_some_iff.mpr ⟨rfl, declared⟩
  have parts : ImportPath.packageParts layout.path.toList (some package) =
      package.toList.splitOn '.' := by
    simp only [ImportPath.packageParts, given]
  rw [layout.resolve?_path, parts, Text.intercalate_concat (List.splitOn_ne_nil _ _),
    List.intercalate_splitOn, String.ofList_append, String.ofList_append,
    String.ofList_toList, String.ofList_toList]

/-- The import reads a path by its names and by its dialect. -/
theorem resolve?_congr {layout other : SourceLayout} (names : other.names = layout.names)
    (stem : other.stem = layout.stem) (extension : other.extension = layout.extension)
    (className : String) (package : Option String) :
    ImportPath.resolve? other.path className package =
      ImportPath.resolve? layout.path className package := by
  have components : ImportPath.components other.path.toList =
      ImportPath.components layout.path.toList := by
    rw [other.components_path, layout.components_path, names, stem, extension]
  have dialect : Dialect.ofPath? other.path = Dialect.ofPath? layout.path := by
    have known := Dialect.ofSuffix?_toList other.extension_mem
    rw [extension, Dialect.ofSuffix?_toList layout.extension_mem] at known
    rw [other.ofPath?_path, layout.ofPath?_path, known]
  simp only [ImportPath.resolve?, ImportPath.packageParts, ImportPath.leaf, components, dialect]

/-- On every layout, with every choice of separators, a class is imported from
the directories below the last source root or from the declared package, by its
own name in Kotlin and by the stem of its file in Java. -/
theorem imports_bySourceRoot (className : String) : layout.Imports className where
  undeclared := by
    obtain ⟨below, found⟩ := exists_belowRoot layout.names
    exact ⟨below, found, fun _ undeclared => layout.resolve?_undeclared found className undeclared⟩
  declared _ declared := layout.resolve?_declared className declared
  separators _ names stem extension := resolve?_congr names stem extension className

/-- A layout with both separators, two source roots, a dot in the stem and
capitals in the extension. -/
def mixed : SourceLayout where
  directories := [("java", .slash), ("app", .backslash), ("kotlin", .slash), ("ui", .backslash)]
  stem := "Main.view"
  extension := ".Java"
  dialect := .java
  directories_free := by
    intro directory member separator
    revert directory
    cases separator <;> decide
  stem_free := by
    intro separator
    cases separator <;> decide
  stem_ne := by decide
  extension_mem := by
    have lower : ".Java".toLower = ".java" := by
      rw [← String.toList_inj, Text.toList_toLower]
      decide
    simp [lower, Dialect.extensions]

theorem imports_mixed :
    mixed.path = "java/app\\kotlin/ui\\Main.view.Java" ∧ mixed.Imports "Home" ∧
      ImportPath.resolve? mixed.path "Home" none = some "ui.Main.view" :=
  ⟨by decide, mixed.imports_bySourceRoot "Home", by decide⟩

end SourceLayout

end ViewOutline
