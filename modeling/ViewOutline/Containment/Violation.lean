import ViewOutline.Containment.Walk

/-!
# Checking a containment graph

In a containment graph every edge joins two controls, a root has no container,
every other control has exactly one, and every control is reachable from a
root.  The checker lists everything that speaks against this.
-/

namespace ViewOutline

/-- A breach of the containment shape. -/
inductive Violation where
  /-- An edge starts at something that is no control. -/
  | unknownSource (uid : String)
  /-- An edge leads to something that is no control. -/
  | unknownTarget (uid : String)
  /-- A root lies inside something. -/
  | containedRoot (uid : String) (degree : Nat)
  /-- A control that is no root has no container, or several. -/
  | wrongDegree (uid : String) (degree : Nat)
  /-- No root leads to a control. -/
  | unreachable (uid : String)
  deriving DecidableEq

/-- The wording of a violation. -/
def Violation.message : Violation → String
  | .unknownSource uid => s!"edge from unknown node {uid}"
  | .unknownTarget uid => s!"edge to unknown node {uid}"
  | .containedRoot uid degree => s!"root {uid} has {degree} incoming edges"
  | .wrongDegree uid degree => s!"{uid} has {degree} incoming edges"
  | .unreachable uid => s!"{uid} is unreachable from any root"

namespace Containment

/-- The unknown ends of the edges from one source. -/
def edgeViolations (graph : Containment) (source : String) (targets : List String) :
    List Violation :=
  (if graph.nodes.contains source then [] else [.unknownSource source]) ++
    (targets.filter fun target => !graph.nodes.contains target).map .unknownTarget

/-- The violation, if any, in the number of edges that lead to a control. -/
def degreeViolation? (graph : Containment) (uid : String) : Option Violation :=
  let degree := graph.inDegree uid
  if uid ∈ graph.roots then
    if degree = 0 then none else some (.containedRoot uid degree)
  else
    if degree = 1 then none else some (.wrongDegree uid degree)

/-- Every violation: the edges in order, then the controls with a wrong number
of containers, then the unreachable controls. -/
def violations (graph : Containment) : List Violation :=
  let reachable := graph.walk.map Prod.fst
  graph.edges.entries.flatMap (fun (source, targets) => graph.edgeViolations source targets) ++
    graph.nodes.keys.filterMap graph.degreeViolation? ++
    (graph.nodes.keys.filter (· ∉ reachable)).map .unreachable

end Containment

end ViewOutline
