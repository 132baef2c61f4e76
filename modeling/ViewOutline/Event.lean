import ViewOutline.Text.Blank
import ViewOutline.Failure
import ViewOutline.Containment.Violation

/-!
# Events

Everything an analysis has to say besides its result is an event: notes on what
could not be classified, warnings about files, and progress.  An event has a
level, which decides who sees it, and a wording.
-/

namespace ViewOutline

/-- How much an event matters. -/
inductive Level where
  | debug
  | info
  | warning
  deriving DecidableEq

/-- Something that happened during an analysis. -/
inductive Event where
  /-- A shape was noted as not classified. -/
  | degraded (note : String)
  /-- A class was outlined. -/
  | outlinedClass (name : String) (supertypes properties methods : Nat)
  /-- The controls of a class were found. -/
  | foundControls (controls roots : Nat)
  /-- No import path can be derived for the classes of a file. -/
  | unknownDialect (path : String)
  /-- A top-level declaration is neither class nor function. -/
  | skippedDeclaration (shape : String)
  /-- A file was outlined. -/
  | outlinedFile (path : Option String) (classes functions : Nat)
  /-- The parser met errors in a file. -/
  | parseErrors (path : Option String)
  /-- The callee of a call is neither a name nor a member. -/
  | unsupportedCallee (type text : String)
  /-- No Kotlin parser is available. -/
  | kotlinUnavailable
  /-- A file could not be read. -/
  | unreadableFile (path detail : String)
  /-- A file could not be parsed. -/
  | unparsedFile (path detail : String)
  /-- A file could not be outlined. -/
  | failedFile (path : String) (failure : Failure)
  /-- A class was outlined before, from another file. -/
  | shadowedClass (name path : String)
  /-- A containment graph is malformed. -/
  | malformedGraph (name : String) (violation : Violation)
  /-- All files were parsed. -/
  | parsedFiles (count jobs : Nat)
  /-- The project was analysed. -/
  | analysedProject (name : String) (files classes failures : Nat)
  /-- The report was written. -/
  | wroteReport (path : String)

namespace Event

/-- The level of an event. -/
def level : Event → Level
  | .degraded _ => .debug
  | .outlinedClass .. => .debug
  | .foundControls .. => .debug
  | .unknownDialect _ => .warning
  | .skippedDeclaration _ => .debug
  | .outlinedFile .. => .debug
  | .parseErrors _ => .debug
  | .unsupportedCallee .. => .debug
  | .kotlinUnavailable => .warning
  | .unreadableFile .. => .warning
  | .unparsedFile .. => .warning
  | .failedFile .. => .warning
  | .shadowedClass .. => .warning
  | .malformedGraph .. => .warning
  | .parsedFiles .. => .debug
  | .analysedProject .. => .debug
  | .wroteReport _ => .info

/-- The wording for a path of which no import can be derived. -/
def unknownDialectText (path : String) : String :=
  s!"Cannot derive an import path for {Text.quoted path}: unrecognized file type"

/-- The wording of an event. -/
def message : Event → String
  | .degraded note => s!"Degraded {note}"
  | .outlinedClass name supertypes properties methods =>
      s!"Class {name}: {supertypes} supertypes, {properties} properties, {methods} methods"
  | .foundControls controls roots => s!"UI graph: {controls} controls, {roots} roots"
  | .unknownDialect path => unknownDialectText path
  | .skippedDeclaration shape => s!"Skipping top-level {shape}"
  | .outlinedFile path classes functions =>
      let place := (Text.given path).getD "<memory>"
      s!"Session {place}: {classes} classes, {functions} independent functions"
  | .parseErrors path =>
      let place := (Text.given path).getD "<memory>"
      s!"Syntax errors in {place}; converting what parsed"
  | .unsupportedCallee type text => s!"Unsupported callee {type}: {text}"
  | .kotlinUnavailable =>
      "tree-sitter / tree-sitter-kotlin not installed; skipping Kotlin sources. " ++
        "Install with: pip install kbreakdown[kotlin]"
  | .unreadableFile path detail => s!"Could not read {path}: {detail}"
  | .unparsedFile path detail => s!"Could not parse {path}: {detail}"
  | .failedFile path failure => s!"Skipping {path}: {failure.message}"
  | .shadowedClass name path =>
      s!"Class {name} in {path} shadows an earlier definition; ignored"
  | .malformedGraph name violation => s!"UI graph of {name}: {violation.message}"
  | .parsedFiles count jobs => s!"Parsed {count} files with {jobs} jobs"
  | .analysedProject name files classes failures =>
      s!"Project {name}: {files} files, {classes} classes, {failures} failures"
  | .wroteReport path => s!"Generated {path}"

/-- The note of an event that is one. -/
def note? : Event → Option String
  | .degraded note => some note
  | _ => none

/-- Whether an event concerns everyone, not only those who asked for details. -/
def isWarning (event : Event) : Bool :=
  event.level == .warning

end Event

end ViewOutline
