import ViewOutline.Analysis
import ViewOutline.SyntaxTree

/-!
# The call stack

How much of the call stack an analysis needs, and how much there is of it, is
nothing that the analysis knows.  All that is said about a stack here is for which
top-level declarations it runs out, and how far their analysis has got by then.
Nothing is assumed about it: a stack may run out at any declaration, and also in
the very first step.
-/

namespace ViewOutline

/-- A call stack, seen from the declarations that are analysed on it. -/
structure Stack where
  /-- The number of events after which the analysis of a declaration runs out of
  stack, if it does. -/
  exhaustedAfter : Node → Option Nat

namespace Stack

/-- A stack that never runs out. -/
def ample : Stack :=
  ⟨fun _ => none⟩

/-- Analyse a declaration on a stack.  Where the stack runs out, what was left
behind before remains. -/
def carry {α : Type} (stack : Stack) (decl : Node) (analysis : Analysis α) : Analysis α :=
  match stack.exhaustedAfter decl with
  | none => analysis
  | some count => ⟨analysis.events.take count, .error .stackExhausted⟩

end Stack

end ViewOutline
