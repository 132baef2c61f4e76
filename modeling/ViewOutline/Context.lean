import ViewOutline.Analysis

/-!
# Analysis contexts

A context holds what lasts between the analyses of one file: how many levels
are open, and the notes written so far.  An analysis sees the open levels and
leaves them as they are, whether it succeeds or stops; its notes are added to
those of the context in either case.
-/

namespace ViewOutline

/-- The open levels and the notes of one file's analyses. -/
structure Context where
  scope : Scope
  notes : List String

namespace Context

/-- A fresh context. -/
def new (vocabulary : Vocabulary) : Context :=
  ⟨.outermost vocabulary, []⟩

/-- The number of open levels. -/
def depth (context : Context) : Nat :=
  context.scope.depth

/-- Open a level and leave it open. -/
def enter (context : Context) : Context × Except Failure Unit :=
  match context.scope.descend with
  | .ok scope => ({ context with scope }, .ok ())
  | .error failure => (context, .error failure)

/-- Close the innermost open level, if there is one. -/
def leave (context : Context) : Context :=
  { context with scope := { context.scope with depth := context.scope.depth - 1 } }

/-- Run an analysis at the open levels. -/
def run {α : Type} (context : Context) (analysis : Scope → Analysis α) :
    Context × Except Failure α :=
  let done := analysis context.scope
  ({ context with notes := context.notes ++ done.notes }, done.outcome)

@[simp]
theorem depth_run {α : Type} (context : Context) (analysis : Scope → Analysis α) :
    (context.run analysis).1.depth = context.depth :=
  rfl

end Context

end ViewOutline
