import ViewOutline.Vocabulary
import ViewOutline.Containment.Graph

/-!
# Why an analysis stops

Most shapes that cannot be classified are noted and passed over.  The causes
below stop the analysis of a whole file.
-/

namespace ViewOutline

/-- The cause that stopped an analysis. -/
inductive Failure where
  /-- A property was declared without a name. -/
  | namelessProperty
  /-- A function was declared without a name. -/
  | namelessFunction
  /-- A class was to be outlined without a name. -/
  | namelessClass
  /-- A top-level class has no name. -/
  | namelessTopLevel
  /-- Two top-level classes of a file share a name. -/
  | repeatedClass (name : String)
  /-- The root of the tree is not a file. -/
  | notAFile (shape : String)
  /-- An expression nests deeper than the ceiling. -/
  | tooDeep (ceiling : Ceiling)
  /-- The call stack ran out. -/
  | stackExhausted
  /-- A control could not be added to the containment graph. -/
  | containment (error : Containment.AddError)

/-- Whether the input is at fault, and neither its nesting nor the analysis. -/
def Failure.isInputFault : Failure → Bool
  | .tooDeep _ => false
  | .stackExhausted => false
  | .containment _ => false
  | _ => true

/-- The wording of a refused control. -/
def Containment.AddError.message : Containment.AddError → String
  | .duplicate uid => s!"Duplicate UI node {Text.quoted uid}"
  | .unknownParent uid => Text.quoted uid
  | .noChildList uid => Text.quoted uid

/-- The wording of a failure. -/
def Failure.message : Failure → String
  | .namelessProperty => "Property declaration has no name"
  | .namelessFunction => "Function declaration has no name"
  | .namelessClass => "Structured declaration has no name"
  | .namelessTopLevel => "Top-level structured declaration has no name"
  | .repeatedClass name => s!"Class {Text.quoted name} is declared more than once"
  | .notAFile shape => s!"Expected a SourceFile node, got {shape}"
  | .tooDeep ceiling => s!"Expression nesting exceeds the depth ceiling of {ceiling.shown}"
  | .stackExhausted => "maximum recursion depth exceeded"
  | .containment error => error.message

end ViewOutline
