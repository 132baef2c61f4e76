import ViewOutline.Text.Search

/-!
# Folders

A folder holds files and folders under names.  Files are listed with their
paths, which are ordered name by name, each name by its code points.
-/

namespace ViewOutline

/-- A path inside a folder: the names from the outside in. -/
abbrev Path := List String

namespace Path

/-- The order of paths, name by name. -/
def le : Path → Path → Bool
  | [], _ => true
  | _ :: _, [] => false
  | a :: as, b :: bs => if a = b then le as bs else Text.codePointLE a.toList b.toList

/-- A path with slashes between its names. -/
def text (path : Path) : String :=
  "/".intercalate path

end Path

/-- A file with its bytes, or a folder with what is in it. -/
inductive Entry where
  | file (bytes : List UInt8)
  | folder (entries : List (String × Entry))

namespace Entry

instance : Inhabited Entry :=
  ⟨.folder []⟩

/-- The folder with nothing in it. -/
def empty : Entry :=
  .folder []

/-- What a folder holds under a name. -/
def child? (entry : Entry) (name : String) : Option Entry :=
  match entry with
  | .folder entries => entries.lookup name
  | .file _ => none

/-- What lies at a path. -/
def at? : Entry → Path → Option Entry
  | entry, [] => some entry
  | entry, name :: path =>
      match entry.child? name with
      | some inner => inner.at? path
      | none => none

/-- Whether an entry is a folder. -/
def isFolder : Entry → Bool
  | .folder _ => true
  | .file _ => false

/-- Whether there is a folder at a path. -/
def hasFolder (entry : Entry) (path : Path) : Bool :=
  (entry.at? path).any isFolder

/-- Put an entry under a name, in the place of what was there. -/
def setChild (entry : Entry) (name : String) (inner : Entry) : Entry :=
  match entry with
  | .folder entries =>
      if (entries.lookup name).isSome then
        .folder (entries.map fun old => if old.1 = name then (name, inner) else old)
      else
        .folder (entries ++ [(name, inner)])
  | .file _ => .folder [(name, inner)]

/-- Put an entry at a path, making the folders on the way. -/
def put (entry : Entry) : Path → Entry → Entry
  | [], inner => inner
  | name :: path, inner =>
      entry.setChild name (((entry.child? name).getD empty).put path inner)

mutual

/-- All files of an entry that lies at a path, with their paths. -/
def filesAt (path : Path) : Entry → List (Path × List UInt8)
  | .file bytes => [(path, bytes)]
  | .folder entries => filesAmong path entries

/-- All files of entries that lie in the folder at a path. -/
def filesAmong (path : Path) : List (String × Entry) → List (Path × List UInt8)
  | [] => []
  | (name, entry) :: rest => filesAt (path ++ [name]) entry ++ filesAmong path rest

end

/-- All files below a folder, in the order of their paths. -/
def files (entry : Entry) : List (Path × List UInt8) :=
  match entry with
  | .file _ => []
  | .folder entries =>
      (filesAmong [] entries).mergeSort fun first second => Path.le first.1 second.1

end Entry

end ViewOutline
