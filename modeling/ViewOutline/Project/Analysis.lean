import ViewOutline.Project.Discovery
import ViewOutline.Report

/-!
# Analysing a project

All source files are parsed first, then outlined, then merged in the order of
their discovery.  A file that cannot be parsed or outlined is reported with the
reason and does not affect the others.
-/

namespace ViewOutline.Project

/-- A file that was parsed. -/
structure ParsedFile where
  path : String
  tree : Node

/-- A file that was outlined, or why it was not. -/
structure OutlinedFile where
  path : String
  outcome : Except Failure FileOutline

/-- Parse the files with the first front-end that takes them, entering those
that cannot be parsed into the report. -/
def parseFiles (frontEnds : List FrontEnd) :
    Report → List (Path × List UInt8) → Logged (Report × List ParsedFile)
  | report, [] => return (report, [])
  | report, (path, bytes) :: rest =>
      let name := path.text
      match frontEnds.find? fun frontEnd => frontEnd.handles name with
      | none => parseFiles frontEnds report rest
      | some frontEnd => do
          match ← frontEnd.parse bytes name with
          | .ok tree =>
              let (report, others) ← parseFiles frontEnds report rest
              return (report, ⟨name, tree⟩ :: others)
          | .error failure =>
              Logged.log (.unparsedFile name failure.message)
              parseFiles frontEnds (report.addFailure name failure.reason) rest

/-- Outline the parsed files. -/
def outlineFiles (vocabulary : Vocabulary) (stack : Stack) :
    List ParsedFile → Logged (List OutlinedFile)
  | [] => return []
  | file :: rest => do
      let analysis := FileOutline.ofTree vocabulary stack file.tree (some file.path)
      let outlined : OutlinedFile ← ⟨analysis.events, ⟨file.path, analysis.outcome⟩⟩
      let others ← outlineFiles vocabulary stack rest
      return outlined :: others

/-- Merge the outlined files, entering those that failed. -/
def mergeFiles : Report → List OutlinedFile → Logged Report
  | report, [] => return report
  | report, file :: rest =>
      match file.outcome with
      | .ok outline => do
          let report ← report.merge file.path outline
          mergeFiles report rest
      | .error failure => do
          Logged.log (.failedFile file.path failure)
          mergeFiles (report.addFailure file.path failure.message) rest

/-- Report what is wrong with the containment graphs of some classes. -/
def checkGraphs : List (String × Containment) → Logged Unit
  | [] => return ()
  | (name, graph) :: rest => do
      let (_ : Unit) ← ⟨graph.violations.map (.malformedGraph name), ()⟩
      checkGraphs rest

/-- Analyse a project of a name.  The number of jobs is only reported. -/
def analyse (name : String) (vocabulary : Vocabulary) (stack : Stack)
    (frontEnds : List FrontEnd) (jobs : Nat) (project : Entry) : Logged Report := do
  let files := Discovery.sourceFiles frontEnds project
  let (report, parsed) ← parseFiles frontEnds (.new name) files
  Logged.log (.parsedFiles parsed.length jobs)
  let outlined ← outlineFiles vocabulary stack parsed
  let report ← mergeFiles report outlined
  checkGraphs report.merged.graphs.entries
  Logged.log (.analysedProject name report.files.length report.merged.classes.size
    report.failedFiles.size)
  return report

end ViewOutline.Project
