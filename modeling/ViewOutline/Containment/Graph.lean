import ViewOutline.Table

/-!
# Containment graphs

A containment graph records which control is built inside which.  Its edges
point from a container to the controls inside it, in the order in which the
inner calls are written.  The parts of a graph are plain data and may hold
anything; a graph that is only grown by `add` is a forest.
-/

namespace ViewOutline

/-- A control: one widget-building call of a class.  The identifier is unique
within the class. -/
structure Control where
  uid : String
  kind : String
  label : String
  deriving DecidableEq

/-- Controls, the edges from containers to contained controls, the outermost
controls, and the container of every contained control. -/
structure Containment where
  nodes : Table Control
  edges : Table (List String)
  roots : List String
  parents : Table String

namespace Containment

/-- The graph without controls. -/
def empty : Containment :=
  ⟨.empty, .empty, [], .empty⟩

instance : Inhabited Containment :=
  ⟨empty⟩

/-- Why a control was not added. -/
inductive AddError where
  /-- A control of this identifier is present. -/
  | duplicate (uid : String)
  /-- The container is not a control of the graph. -/
  | unknownParent (uid : String)
  /-- The container is a control for which no list of children is kept. -/
  | noChildList (uid : String)

/-- Enter a control that contains nothing. -/
def place (graph : Containment) (control : Control) : Containment :=
  { graph with
    nodes := graph.nodes.insert control.uid control
    edges := graph.edges.insert control.uid [] }

/-- Add a control, inside a container or as a root.  A refused control leaves
the graph as it was, with one exception: a container without a list of children
is noticed only after the control has been entered. -/
def add (graph : Containment) (control : Control) (parent : Option String) :
    Containment × Except AddError Unit :=
  if graph.nodes.contains control.uid then
    (graph, .error (.duplicate control.uid))
  else
    match parent with
    | none =>
        let placed := graph.place control
        ({ placed with roots := placed.roots ++ [control.uid] }, .ok ())
    | some container =>
        if graph.nodes.contains container then
          let placed := graph.place control
          if placed.edges.contains container then
            ({ placed with
                edges := placed.edges.modify container (· ++ [control.uid])
                parents := placed.parents.insert control.uid container }, .ok ())
          else
            (placed, .error (.noChildList container))
        else
          (graph, .error (.unknownParent container))

/-- The container of a control. -/
def parentOf (graph : Containment) (uid : String) : Option String :=
  graph.parents.find? uid

/-- The controls directly inside a control. -/
def childrenOf (graph : Containment) (uid : String) : List String :=
  (graph.edges.find? uid).getD []

/-- The number of edges that lead to a control. -/
def inDegree (graph : Containment) (uid : String) : Nat :=
  graph.edges.values.flatten.count uid

/-- The number of controls. -/
def size (graph : Containment) : Nat :=
  graph.nodes.size

/-- An identifier without an entry among the edges has no children. -/
theorem childrenOf_eq_nil_of_not_mem (graph : Containment) (uid : String)
    (absent : uid ∉ graph.edges.keys) : graph.childrenOf uid = [] := by
  have missing : graph.edges.entries.lookup uid = none := by
    rw [List.lookup_eq_none_iff]
    intro entry member
    have different : uid ≠ entry.1 := fun equal =>
      absent (List.mem_map.mpr ⟨entry, member, equal.symm⟩)
    simpa using different
  simp [childrenOf, Table.find?, missing]

end Containment

end ViewOutline
