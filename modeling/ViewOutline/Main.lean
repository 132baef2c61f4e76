import ViewOutline.CommandLine.Run

/-!
# The command line

Arguments, folders and files are read here and the report is written.  All
decisions are those of `CommandLine.Request`.  No Kotlin parser is linked, so
Kotlin sources are skipped with a warning.
-/

namespace ViewOutline.CommandLine

/-- Read what lies at a place, leaving out what cannot be read. -/
partial def readEntry (place : String) : IO Entry := do
  let path ← IO.FS.realPath place
  if ← path.isDir then
    let inside ← path.readDir
    let entries ← inside.toList.filterMapM fun item => do
      try
        let entry ← readEntry (place ++ "/" ++ item.fileName)
        return some (item.fileName, entry)
      catch _ => return none
    return .folder entries
  else
    return .file (← IO.FS.readBinFile place).toList

/-- Read the folder of a project, which is empty if it does not exist. -/
def readProject (place : String) : IO Entry := do
  try readEntry place catch _ => return .empty

/-- Write a file and make the folders on the way to it. -/
def writeReport (location : Location) (text : String) : IO Unit := do
  IO.FS.createDirAll location.parent.text
  IO.FS.writeFile location.text text

/-- Analyse a project and write the report; the result is the exit status. -/
def performWith (request : Request) (jobs : Nat) (name : String) : IO UInt32 := do
  let project ← readProject (Location.ofText request.project).text
  let analysis := Request.analyse jobs none .ample name project
  IO.eprint (request.shown analysis.events)
  match analysis.value with
  | .error error =>
      IO.eprint (error.message ++ "\n")
      return 1
  | .ok report =>
      try
        writeReport request.destination report.render
        IO.eprint (request.shown [.wroteReport request.destination.text])
        return 0
      catch error =>
        IO.eprint (toString error ++ "\n")
        return 1

/-- Carry out a request; the result is the exit status. -/
def perform (request : Request) : IO UInt32 := do
  let current := (← IO.currentDir).components.filter fun name => !name.isEmpty
  match request.begin ⟨.empty, current⟩ with
  | .error error =>
      IO.eprint (error.message ++ "\n")
      return 1
  | .ok jobs => performWith request jobs ((request.projectPath current).getLastD "")

end ViewOutline.CommandLine

open ViewOutline.CommandLine in
/-- Run the program on its arguments. -/
def main (arguments : List String) : IO UInt32 := do
  match Invocation.ofArguments arguments with
  | .error error =>
      IO.eprint error.report
      return 2
  | .ok .help =>
      IO.print helpText
      return 0
  | .ok (.analyse request) => perform request
