import ViewOutline.FrontEnd
import ViewOutline.Project.Folder

/-!
# Discovering source files

The sources of a project lie in its source sets, or anywhere in it if it has
none.  What lies in a folder of tools or of build results does not count, and a
file counts only if some front-end takes it.
-/

namespace ViewOutline.Discovery

/-- The names of folders and files that are passed over. -/
def skippedNames : List String :=
  [".git", ".gradle", ".idea", "build", "out", "target", "node_modules"]

/-- The places of source sets. -/
def sourceSets : List Path :=
  [["src", "main", "kotlin"], ["src", "main", "java"],
   ["src", "test", "kotlin"], ["src", "test", "java"]]

/-- The source sets of a project, or else the project itself. -/
def sourceRoots (project : Entry) : List Path :=
  match sourceSets.filter project.hasFolder with
  | [] => [[]]
  | roots => roots

/-- Whether no name of a path is passed over. -/
def isKept (path : Path) : Bool :=
  path.all fun name => !skippedNames.contains name

/-- Whether some front-end takes a path. -/
def isSource (frontEnds : List FrontEnd) (path : Path) : Bool :=
  frontEnds.any fun frontEnd => frontEnd.handles path.text

/-- The source files below one root, with their paths in the project. -/
def filesBelow (frontEnds : List FrontEnd) (project : Entry) (root : Path) :
    List (Path × List UInt8) :=
  match project.at? root with
  | some entry =>
      (entry.files.map fun file => (root ++ file.1, file.2)).filter fun file =>
        isKept file.1 && isSource frontEnds file.1
  | none => []

/-- The source files of a project, root by root, in the order of their
paths. -/
def sourceFiles (frontEnds : List FrontEnd) (project : Entry) : List (Path × List UInt8) :=
  (sourceRoots project).flatMap (filesBelow frontEnds project)

end ViewOutline.Discovery
