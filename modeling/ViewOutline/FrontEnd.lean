import ViewOutline.Analysis
import ViewOutline.SyntaxTree

/-!
# Front-ends

A front-end reads the source files of one language: it says which paths it
takes, and turns the bytes of a file into a syntax tree or says why it cannot.
-/

namespace ViewOutline

/-- Why a file could not be parsed: a kind of failure and its wording. -/
structure ParseFailure where
  kind : String
  message : String

/-- A failure as reports give it. -/
def ParseFailure.reason (failure : ParseFailure) : String :=
  failure.kind ++ ": " ++ failure.message

/-- A reader of source files. -/
structure FrontEnd where
  /-- Whether the front-end takes the file of a path. -/
  handles : String → Bool
  /-- The syntax tree of the bytes of a file with a path. -/
  parse : List UInt8 → String → Logged (Except ParseFailure Node)

end ViewOutline
