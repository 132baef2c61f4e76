import ViewOutline.CommandLine.Disk
import ViewOutline.CommandLine.Help
import ViewOutline.CommandLine.Request
import ViewOutline.Project.Analysis
import ViewOutline.Project.Configuration
import ViewOutline.Report.Document

/-!
# Running the command line

A run analyses the project of a request and writes the report.  The vocabulary
of the project is read before the front-ends are looked for.  A configuration
that cannot be used, or a place that cannot be written, ends the run; what was
said until then has been said.
-/

namespace ViewOutline.CommandLine

/-- Why a run failed. -/
inductive RunError where
  /-- The number of jobs is unknown. -/
  | unknownJobs
  | configuration (error : Configuration.ConfigError)
  | disk (error : DiskError)

/-- The wording of a failed run. -/
def RunError.message : RunError → String
  | .unknownJobs => "'<' not supported between instances of 'list' and 'int'"
  | .configuration error => error.message
  | .disk error => error.message

/-- The front-ends there are, where the Kotlin parser may be missing. -/
def availableFrontEnds (kotlin : Option FrontEnd) : Logged (List FrontEnd) :=
  match kotlin with
  | some frontEnd => return [frontEnd]
  | none => do
      Logged.log .kotlinUnavailable
      return []

namespace Request

/-- Where the report goes: the given place, or a file in the project. -/
def destination (request : Request) : Location :=
  match request.output with
  | some output => .ofText output
  | none => (Location.ofText request.project).child "kbreakdown.json"

/-- The path of the project. -/
def projectPath (request : Request) (current : Path) : Path :=
  (Location.ofText request.project).resolve current

/-- Why a request cannot be begun on a disk, if so.  The first place that is
looked for is a configuration in the project. -/
def obstacle? (request : Request) (disk : Disk) : Option DiskError :=
  let project := Location.ofText request.project
  let configuration : Location :=
    ⟨.root, request.projectPath disk.current ++ [Configuration.ownFile]⟩
  if !project.isSpeakable then some ⟨.nullCharacter, project⟩
  else if disk.isTooLong configuration then some ⟨.tooLong, configuration⟩
  else none

/-- The number of jobs for a request that can be begun on a disk. -/
def begin (request : Request) (disk : Disk) : Except RunError Nat :=
  match request.jobs, request.obstacle? disk with
  | none, _ => .error .unknownJobs
  | some _, some error => .error (.disk error)
  | some jobs, none => .ok jobs

/-- Analyse a project of a name with the vocabulary that it sets. -/
def analyse (jobs : Nat) (kotlin : Option FrontEnd) (stack : Stack) (name : String)
    (project : Entry) : Logged (Except RunError Report) := do
  match ← Configuration.vocabulary project with
  | .error error => return .error (.configuration error)
  | .ok vocabulary =>
      let frontEnds ← availableFrontEnds kotlin
      return .ok (← Project.analyse name vocabulary stack frontEnds jobs project)

/-- Write the report. -/
def deliver (request : Request) (disk : Disk) (report : Report) :
    Logged (Except RunError Disk) :=
  match disk.write request.destination report.render.toUTF8.toList with
  | .error error => return .error (.disk error)
  | .ok disk => do
      Logged.log (.wroteReport request.destination.text)
      return .ok disk

/-- Analyse the project and write the report. -/
def run (request : Request) (kotlin : Option FrontEnd) (stack : Stack) (disk : Disk) :
    Logged (Except RunError Disk) := do
  let path := request.projectPath disk.current
  let project := (disk.root.at? path).getD .empty
  match request.begin disk with
  | .error error => return .error error
  | .ok jobs =>
      match ← analyse jobs kotlin stack (path.getLastD "") project with
      | .error error => return .error error
      | .ok report => request.deliver disk report

/-- The lines for the events that the user wants to see. -/
def shown (request : Request) (events : List Event) : String :=
  let wanted := events.filter fun event => request.verbose || event.isWarning
  String.join (wanted.map fun event => event.message ++ "\n")

end Request

end ViewOutline.CommandLine
