import ViewOutline.SourcePath
import ViewOutline.Text.Blank

/-!
# Import paths

A class is imported by its package and its name.  The package is the declared
one, or else it is read off the directories below the last directory that
starts a source set.  Kotlin imports the class by its own name, Java by the
name of its file.
-/

namespace ViewOutline

/-- The language of a source file, as far as imports differ. -/
inductive Dialect where
  | kotlin
  | java
  deriving DecidableEq

/-- The name of a dialect. -/
def Dialect.name : Dialect → String
  | .kotlin => "kotlin"
  | .java => "java"

/-- The dialect of a file suffix in lower case. -/
def Dialect.ofSuffix? (suffix : List Char) : Option Dialect :=
  if suffix = ".kt".toList ∨ suffix = ".kts".toList then some .kotlin
  else if suffix = ".java".toList then some .java
  else none

/-- The dialect of a path, by its suffix in any letter case. -/
def Dialect.ofPath? (path : String) : Option Dialect :=
  ofSuffix? (Text.lowered (SourcePath.suffix path.toList))

namespace ImportPath

/-- Whether a directory starts the directories of packages. -/
def startsPackages (directory : List Char) : Bool :=
  directory == "kotlin".toList || directory == "java".toList

/-- The directories after the last one that starts the directories of
packages, none if there is no such directory. -/
def packageDirectories (directories : List (List Char)) : List (List Char) :=
  if directories.any startsPackages then
    (directories.reverse.takeWhile fun directory => !startsPackages directory).reverse
  else []

/-- The names of a path with either separator, empty names included. -/
def components (path : List Char) : List (List Char) :=
  (path.map fun c => if c = '\\' then '/' else c).splitOn '/'

/-- The package of a file: the declared one, or its directories. -/
def packageParts (path : List Char) (package : Option String) : List (List Char) :=
  match Text.given package with
  | some package => package.toList.splitOn '.'
  | none => packageDirectories (components path).dropLast

/-- The last part of an import: the class in Kotlin, the file in Java. -/
def leaf (dialect : Dialect) (path : List Char) (className : String) : List Char :=
  match dialect with
  | .kotlin => className.toList
  | .java => SourcePath.stem ((components path).getLast?.getD [])

/-- The import path of a class, if the file is of a known dialect. -/
def resolve? (path className : String) (package : Option String) : Option String :=
  (Dialect.ofPath? path).map fun dialect =>
    let parts := packageParts path.toList package ++ [leaf dialect path.toList className]
    String.ofList (['.'].intercalate parts)

end ImportPath

end ViewOutline
