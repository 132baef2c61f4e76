import ViewOutline.Containment.Violation
import ViewOutline.Proofs.Containment.Walk
import ViewOutline.Proofs.Table
import Mathlib.Data.List.Perm.Basic

/-!
# What the checker guarantees

The checker only counts the edges that lead to each control and walks the graph
once.  That is enough to exclude cycles and shared contents, wherever they are:
going back along the edges from a control there is never a choice, and one way
back ends at a root, so every way back is that one.
-/

namespace ViewOutline.Containment

/-- The shape that the checker looks for.  The sources of edges are the
identifiers for which a list of children is kept, even an empty one. -/
structure WellShaped (graph : Containment) : Prop where
  /-- Edges start at controls. -/
  source : ∀ uid ∈ graph.edges.keys, uid ∈ graph.nodes.keys
  /-- Edges lead to controls. -/
  target : ∀ uid ∈ graph.edges.values.flatten, uid ∈ graph.nodes.keys
  /-- No edge leads to a root. -/
  root : ∀ uid ∈ graph.roots, graph.inDegree uid = 0
  /-- One edge leads to every other control. -/
  inner : ∀ uid ∈ graph.nodes.keys, uid ∉ graph.roots → graph.inDegree uid = 1
  /-- Every control is reachable from a root. -/
  reachable : ∀ uid ∈ graph.nodes.keys, graph.Reachable uid

/-- The controls of a graph stand on separate branches that start at its roots,
and the walk shows on which. -/
structure Branches (graph : Containment) : Prop where
  /-- No path leads back to where it starts. -/
  acyclic : ∀ uid entered, graph.Path uid entered uid → entered = []
  /-- One path leads to a control from the roots, and the walk gives its length. -/
  path : ∀ uid ∈ graph.nodes.keys, ∃ root ∈ graph.roots, ∃ entered,
    graph.Path root entered uid ∧ (uid, entered.length) ∈ graph.walk ∧
      ∀ other ∈ graph.roots, ∀ others, graph.Path other others uid →
        other = root ∧ others = entered
  /-- The walk lists every control once, and nothing else. -/
  walk : (graph.walk.map Prod.fst).Perm graph.nodes.keys

variable {graph : Containment}

/-! ## Incoming edges -/

theorem mem_childrenOf_iff (graph : Containment) (source uid : String) :
    uid ∈ graph.childrenOf source ↔
      ∃ targets, (source, targets) ∈ graph.edges.entries ∧ uid ∈ targets := by
  simp only [← Table.find?_eq_some_iff, childrenOf]
  cases graph.edges.find? source with
  | none => simp
  | some targets => simp

theorem mem_flatten_of_mem_childrenOf {source uid : String}
    (edge : uid ∈ graph.childrenOf source) : uid ∈ graph.edges.values.flatten := by
  rcases (graph.mem_childrenOf_iff source uid).mp edge with ⟨targets, listed, member⟩
  exact List.mem_flatten.mpr ⟨targets, List.mem_map.mpr ⟨_, listed, rfl⟩, member⟩

/-- No edge leads to an identifier of degree zero. -/
theorem not_mem_childrenOf_of_inDegree {uid : String} (degree : graph.inDegree uid = 0)
    (source : String) : uid ∉ graph.childrenOf source := by
  intro edge
  exact List.count_eq_zero.mp degree (mem_flatten_of_mem_childrenOf edge)

/-- Where only one edge leads, only one source has it. -/
theorem source_unique {uid first second : String} (degree : graph.inDegree uid = 1)
    (firstEdge : uid ∈ graph.childrenOf first) (secondEdge : uid ∈ graph.childrenOf second) :
    first = second := by
  rcases (graph.mem_childrenOf_iff first uid).mp firstEdge with ⟨targets, listed, member⟩
  rcases (graph.mem_childrenOf_iff second uid).mp secondEdge with ⟨others, alsoListed, alsoMember⟩
  by_contra different
  rcases List.append_of_mem listed with ⟨before, after, entries⟩
  -- The second entry stands before or after the first, and the edge is counted in both.
  have elsewhere : (second, others) ∈ before ++ after := by
    rw [entries, List.mem_append, List.mem_cons] at alsoListed
    rcases alsoListed with earlier | same | later
    · exact List.mem_append_left after earlier
    · exact absurd (congrArg Prod.fst same).symm different
    · exact List.mem_append_right before later
  have here : 0 < targets.count uid := List.count_pos_iff.mpr member
  have there : 0 < ((before ++ after).map Prod.snd).flatten.count uid := by
    rw [List.count_pos_iff, List.mem_flatten]
    exact ⟨others, List.mem_map.mpr ⟨_, elsewhere, rfl⟩, alsoMember⟩
  rw [inDegree, Table.values, entries] at degree
  simp only [List.map_append, List.map_cons, List.flatten_append, List.flatten_cons,
    List.count_append] at degree there
  omega

/-! ## The checks -/

theorem edgeViolations_eq_nil_iff (graph : Containment) (source : String)
    (targets : List String) :
    graph.edgeViolations source targets = [] ↔
      source ∈ graph.nodes.keys ∧ ∀ uid ∈ targets, uid ∈ graph.nodes.keys := by
  rw [edgeViolations, List.append_eq_nil_iff, List.map_eq_nil_iff, List.filter_eq_nil_iff]
  simp [← Table.contains_iff]

theorem degreeViolation?_eq_none_iff (graph : Containment) (uid : String) :
    graph.degreeViolation? uid = none ↔
      (uid ∈ graph.roots → graph.inDegree uid = 0) ∧
        (uid ∉ graph.roots → graph.inDegree uid = 1) := by
  by_cases root : uid ∈ graph.roots
  · simp [degreeViolation?, root]
  · simp [degreeViolation?, root]

/-- The checker has nothing to say exactly of well-shaped graphs. -/
theorem violations_eq_nil_iff (graph : Containment) :
    graph.violations = [] ↔ graph.WellShaped := by
  have checks : graph.violations = [] ↔
      (∀ entry ∈ graph.edges.entries, graph.edgeViolations entry.1 entry.2 = []) ∧
        (∀ uid ∈ graph.nodes.keys, graph.degreeViolation? uid = none) ∧
          ∀ uid ∈ graph.nodes.keys, graph.Reachable uid := by
    simp only [violations, List.append_eq_nil_iff, List.flatMap_eq_nil_iff,
      List.filterMap_eq_nil_iff, List.map_eq_nil_iff, List.filter_eq_nil_iff, and_assoc]
    simp only [decide_eq_true_eq, not_not, mem_walk_iff]
  simp only [checks, edgeViolations_eq_nil_iff, degreeViolation?_eq_none_iff]
  constructor
  · rintro ⟨edges, degrees, reachable⟩
    have target : ∀ uid ∈ graph.edges.values.flatten, uid ∈ graph.nodes.keys := by
      intro uid member
      rcases List.mem_flatten.mp member with ⟨targets, listed, inTargets⟩
      rcases List.mem_map.mp listed with ⟨entry, entryMem, rfl⟩
      exact (edges entry entryMem).2 uid inTargets
    refine ⟨?_, target, ?_, fun uid present => (degrees uid present).2, reachable⟩
    · intro uid member
      rcases List.mem_map.mp member with ⟨entry, entryMem, rfl⟩
      exact (edges entry entryMem).1
    · intro uid root
      by_cases present : uid ∈ graph.nodes.keys
      · exact (degrees uid present).1 root
      · exact List.count_eq_zero.mpr fun member => present (target uid member)
  · intro shaped
    refine ⟨?_, ?_, shaped.reachable⟩
    · intro entry entryMem
      refine ⟨shaped.source _ (List.mem_map.mpr ⟨entry, entryMem, rfl⟩), ?_⟩
      intro uid member
      exact shaped.target uid
        (List.mem_flatten.mpr ⟨entry.2, List.mem_map.mpr ⟨entry, entryMem, rfl⟩, member⟩)
    · intro uid present
      exact ⟨shaped.root uid, shaped.inner uid present⟩

/-! ## Paths in a well-shaped graph -/

namespace WellShaped

/-- Only one path leads to an identifier from the roots.  The induction goes back
along the first path, and the second has no choice but to follow. -/
theorem path_unique (shaped : graph.WellShaped) {root other uid : String}
    {entered others : List String} (rootMem : root ∈ graph.roots)
    (otherMem : other ∈ graph.roots) (path : graph.Path root entered uid)
    (otherPath : graph.Path other others uid) : other = root ∧ others = entered := by
  induction path generalizing others with
  | here =>
      cases otherPath with
      | here => exact ⟨rfl, rfl⟩
      | step _ edge =>
          exact absurd edge (not_mem_childrenOf_of_inDegree (shaped.root root rootMem) _)
  | @step entered outer inner _ edge ih =>
      have notRoot : inner ∉ graph.roots := fun member =>
        not_mem_childrenOf_of_inDegree (shaped.root inner member) outer edge
      cases otherPath with
      | here => exact absurd otherMem notRoot
      | @step _ source _ before otherEdge =>
          have known := shaped.target inner (mem_flatten_of_mem_childrenOf edge)
          obtain rfl := source_unique (shaped.inner inner known notRoot) edge otherEdge
          rcases ih before with ⟨rootEq, rfl⟩
          exact ⟨rootEq, rfl⟩

/-- A path that leads back to its start would lengthen the one path from the
roots. -/
theorem acyclic (shaped : graph.WellShaped) {uid : String} {entered : List String}
    (cycle : graph.Path uid entered uid) : entered = [] := by
  by_contra nonempty
  have known : uid ∈ graph.nodes.keys := by
    cases cycle with
    | here => exact absurd rfl nonempty
    | step _ edge => exact shaped.target uid (mem_flatten_of_mem_childrenOf edge)
  rcases (reachable_iff_exists_path uid).mp (shaped.reachable uid known) with
    ⟨root, rootMem, first, path⟩
  have longer := (shaped.path_unique rootMem rootMem path (path.append cycle)).2
  exact nonempty (List.append_right_eq_self.mp longer)

/-- The walk gives the length of the path to what it lists. -/
theorem depth_eq_length (shaped : graph.WellShaped) {root uid : String} {entered : List String}
    (rootMem : root ∈ graph.roots) (path : graph.Path root entered uid) {depth : Nat}
    (listed : (uid, depth) ∈ graph.walk) : depth = entered.length := by
  have measured : ∃ other ∈ graph.roots, ∃ others,
      graph.Path other others uid ∧ others.length = depth := by
    refine forall_mem_walk (fun uid depth => ∃ other ∈ graph.roots, ∃ others,
      graph.Path other others uid ∧ others.length = depth)
      (fun start startMem => ⟨start, startMem, [], .here, rfl⟩) ?_ listed
    rintro outer depth ⟨other, otherMem, others, otherPath, rfl⟩ inner edge
    exact ⟨other, otherMem, _, otherPath.step edge, by simp⟩
  rcases measured with ⟨other, otherMem, others, otherPath, rfl⟩
  rw [(shaped.path_unique rootMem otherMem path otherPath).2]

theorem branches (shaped : graph.WellShaped)
    (rootsKnown : ∀ uid ∈ graph.roots, uid ∈ graph.nodes.keys) : graph.Branches where
  acyclic _ _ := shaped.acyclic
  path uid present := by
    have reachable := shaped.reachable uid present
    rcases (reachable_iff_exists_path uid).mp reachable with ⟨root, rootMem, entered, path⟩
    refine ⟨root, rootMem, entered, path, ?_, ?_⟩
    · rcases List.mem_map.mp ((graph.mem_walk_iff uid).mpr reachable) with
        ⟨⟨_, depth⟩, listed, rfl⟩
      rw [← shaped.depth_eq_length rootMem path listed]
      exact listed
    · intro other otherMem others otherPath
      exact shaped.path_unique rootMem otherMem path otherPath
  walk := by
    rw [List.perm_ext_iff_of_nodup graph.nodup_walk graph.nodes.nodup_keys]
    intro uid
    rw [mem_walk_iff]
    constructor
    · intro reachable
      cases reachable with
      | root member => exact rootsKnown uid member
      | child _ edge => exact shaped.target uid (mem_flatten_of_mem_childrenOf edge)
    · exact shaped.reachable uid

end WellShaped

/-- Where all roots are controls, the checker has nothing to say exactly of the
well-shaped graphs, and those stand on separate branches. -/
theorem violations_sound_and_complete (graph : Containment)
    (rootsKnown : ∀ uid ∈ graph.roots, uid ∈ graph.nodes.keys) :
    (graph.violations = [] ↔ graph.WellShaped) ∧
      (graph.violations = [] → graph.Branches) := by
  have checked := graph.violations_eq_nil_iff
  refine ⟨checked, ?_⟩
  intro nothing
  exact (checked.mp nothing).branches rootsKnown

/-- A label inside a row inside a column. -/
def nestedGraph : Containment where
  nodes := .ofList [("label", ⟨"label", "label", "name"⟩), ("vbox", ⟨"vbox", "vbox", "vbox"⟩),
    ("hbox", ⟨"hbox", "hbox", "hbox"⟩)]
  edges := .ofList [("hbox", ["label"]), ("vbox", ["hbox"])]
  roots := ["vbox"]
  parents := .empty

/-- The same controls with the row and the label inside each other, away from
the root.  One edge leads to each of them. -/
def tangledGraph : Containment :=
  { nestedGraph with edges := .ofList [("hbox", ["label"]), ("label", ["hbox"])] }

theorem walk_nestedGraph : nestedGraph.walk = [("vbox", 0), ("hbox", 1), ("label", 2)] := by
  have column : nestedGraph.childrenOf "vbox" = ["hbox"] := rfl
  have row : nestedGraph.childrenOf "hbox" = ["label"] := rfl
  have label : nestedGraph.childrenOf "label" = [] := rfl
  have roots : nestedGraph.roots = ["vbox"] := rfl
  simp [walk, visit, column, row, label, roots]

theorem walk_tangledGraph : tangledGraph.walk = [("vbox", 0)] := by
  have column : tangledGraph.childrenOf "vbox" = [] := rfl
  have roots : tangledGraph.roots = ["vbox"] := rfl
  simp [walk, visit, column, roots]

/-- Nesting passes the checker, and a cycle beside the root does not. -/
theorem violations_nestedGraph_and_tangledGraph :
    (∀ uid ∈ nestedGraph.roots, uid ∈ nestedGraph.nodes.keys) ∧ nestedGraph.Branches ∧
      (∀ uid ∈ tangledGraph.roots, uid ∈ tangledGraph.nodes.keys) ∧
      ¬ tangledGraph.WellShaped := by
  have nestedKnown : ∀ uid ∈ nestedGraph.roots, uid ∈ nestedGraph.nodes.keys := by decide
  have tangledKnown : ∀ uid ∈ tangledGraph.roots, uid ∈ tangledGraph.nodes.keys := by decide
  have nothing : nestedGraph.violations = [] := by
    rw [violations, walk_nestedGraph]
    decide
  have something : tangledGraph.violations ≠ [] := by
    rw [violations, walk_tangledGraph]
    decide
  refine ⟨nestedKnown, ?_, tangledKnown, ?_⟩
  · exact (violations_sound_and_complete nestedGraph nestedKnown).2 nothing
  · exact mt (violations_sound_and_complete tangledGraph tangledKnown).1.mpr something

end ViewOutline.Containment
