import ViewOutline.Project.Folder

/-!
# Locations

A location is written as names with slashes between them, from the root or from
the current folder.  Empty names and single dots do not matter; two dots step
out of a folder and are kept, because what they step out of may not exist.  The
root is written with one slash, or with two if exactly two were given.
-/

namespace ViewOutline.CommandLine

/-- Where a location starts: in the current folder, or at the root, which is
written with one slash or with two. -/
inductive Start where
  | current
  | root
  | doubleRoot

namespace Start

/-- The slashes of a start. -/
def text : Start → String
  | .current => ""
  | .root => "/"
  | .doubleRoot => "//"

/-- Where a text starts. -/
def ofText (text : List Char) : Start :=
  match (text.takeWhile (· = '/')).length with
  | 0 => .current
  | 2 => .doubleRoot
  | _ => .root

/-- The path of a start. -/
def path (start : Start) (current : Path) : Path :=
  match start with
  | .current => current
  | _ => []

end Start

/-- A place in a file system, as it was written. -/
structure Location where
  start : Start
  names : List String

namespace Location

/-- Read a location. -/
def ofText (text : String) : Location :=
  ⟨.ofText text.toList, (text.splitOn "/").filter fun name => name ≠ "" && name ≠ "."⟩

/-- The text of a location. -/
def text (location : Location) : String :=
  let text := location.start.text ++ Path.text location.names
  if text = "" then "." else text

/-- Whether the text of a location can be handed to a file system: it holds no
null character. -/
def isSpeakable (location : Location) : Bool :=
  location.names.all fun name => !name.toList.contains '\x00'

/-- The folder of a location. -/
def parent (location : Location) : Location :=
  { location with names := location.names.dropLast }

/-- A place inside a location. -/
def child (location : Location) (name : String) : Location :=
  { location with names := location.names ++ [name] }

/-- Step from a folder into or out of another. -/
def step (folder : Path) (name : String) : Path :=
  if name = ".." then folder.dropLast else folder ++ [name]

/-- The path of a location from the root, whether it exists or not. -/
def resolve (location : Location) (current : Path) : Path :=
  location.names.foldl step (location.start.path current)

end Location

end ViewOutline.CommandLine
