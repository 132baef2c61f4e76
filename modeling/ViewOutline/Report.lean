import ViewOutline.FileOutline

/-!
# Project reports

A report merges the outlines of the files of a project.  The first file that
defines a class gives all that is reported about it; a later definition is
ignored as a whole, with a warning.  Free functions and notes are collected
from every file.
-/

namespace ViewOutline

/-- The merged outlines of a project, the files they come from, and the files
that failed with the reason. -/
structure Report where
  projectName : String
  merged : FileOutline
  files : List String
  failedFiles : Table String

namespace Report

/-- The report of a project of which no file has been merged. -/
def new (projectName : String) : Report :=
  ⟨projectName, .empty, [], .empty⟩

/-- Copy what one table says about a name into another table. -/
def copyEntry {α : Type} (source target : Table α) (name : String) : Table α :=
  match source.find? name with
  | some value => target.insert name value
  | none => target

/-- Take over a class from the outline of a file. -/
def takeClass (merged outline : FileOutline) (name : String) : FileOutline :=
  { merged with
    classes := copyEntry outline.classes merged.classes name
    controls := copyEntry outline.controls merged.controls name
    graphs :=
      if outline.controls.contains name then copyEntry outline.graphs merged.graphs name
      else merged.graphs
    imports := copyEntry outline.imports merged.imports name }

/-- Merge one class of a file, unless it is known. -/
def mergeClass (path : String) (outline : FileOutline) (merged : FileOutline) (name : String) :
    Logged FileOutline :=
  if merged.classes.contains name then do
    Logged.log (.shadowedClass name path)
    return merged
  else
    return takeClass merged outline name

/-- Merge the named classes of a file in order. -/
def mergeClasses (path : String) (outline : FileOutline) :
    FileOutline → List String → Logged FileOutline
  | merged, [] => return merged
  | merged, name :: rest => do
      let merged ← mergeClass path outline merged name
      mergeClasses path outline merged rest

/-- Merge the outline of a file into a report. -/
def merge (report : Report) (path : String) (outline : FileOutline) : Logged Report := do
  let merged ← mergeClasses path outline report.merged outline.classes.keys
  return { report with
    merged := { merged with
      functions := merged.functions ++ outline.functions
      notes := merged.notes ++ outline.notes.map fun note => path ++ ": " ++ note }
    files := report.files ++ [path] }

/-- Enter a file that failed. -/
def addFailure (report : Report) (path reason : String) : Report :=
  { report with failedFiles := report.failedFiles.insert path reason }

end Report

end ViewOutline
