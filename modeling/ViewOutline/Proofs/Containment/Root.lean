import ViewOutline.Proofs.Containment.Checker

/-!
# What the checker leaves open about roots

The checker looks at the roots of a graph only to ask of a control whether it is one
of them.  A root that is no control, or that is named again, is not noticed: among
the lists of roots that hold the same controls all pass the checker or none.  Where
the checker has nothing to say, the walk lists the controls and the roots that are
none, and the graph is as it should be exactly if there is no such root and none is
named twice.
-/

namespace ViewOutline.Containment

/-- The same controls and edges with other roots. -/
def withRoots (graph : Containment) (roots : List String) : Containment :=
  { graph with roots }

/-- The roots of a graph are controls, each named once, and the walk lists the
controls. -/
structure WellRooted (graph : Containment) : Prop where
  walk : (graph.walk.map Prod.fst).Perm graph.nodes.keys
  known : ∀ uid ∈ graph.roots, uid ∈ graph.nodes.keys
  nodup : graph.roots.Nodup

/-- What is open about the roots of a graph that passes the checker. -/
structure RootsOpen (graph : Containment) : Prop where
  /-- The walk lists the controls, and the roots whether they are controls or not. -/
  walk_iff : ∀ uid, uid ∈ graph.walk.map Prod.fst ↔ uid ∈ graph.nodes.keys ∨ uid ∈ graph.roots
  /-- The graph is well rooted if its roots are controls and none is named twice. -/
  wellRooted_iff : graph.WellRooted ↔
    (∀ uid ∈ graph.roots, uid ∈ graph.nodes.keys) ∧ graph.roots.Nodup
  /-- Other roots pass the checker as well if the same controls are among them, whatever
  else is. -/
  others_iff : ∀ roots, (graph.withRoots roots).violations = [] ↔
    ∀ uid ∈ graph.nodes.keys, uid ∈ roots ↔ uid ∈ graph.roots
  /-- With the roots that are controls, each named once, the graph is well rooted. -/
  mended : (graph.withRoots (graph.nodes.keys.filter (· ∈ graph.roots))).WellRooted

variable {graph : Containment}

theorem mem_keys_of_mem_childrenOf {source uid : String} (edge : uid ∈ graph.childrenOf source) :
    source ∈ graph.edges.keys := by
  by_contra absent
  rw [graph.childrenOf_eq_nil_of_not_mem source absent] at edge
  cases edge

namespace WellShaped

/-- The roots among the controls are those that nothing contains. -/
theorem mem_roots_iff (shaped : graph.WellShaped) {uid : String}
    (present : uid ∈ graph.nodes.keys) : uid ∈ graph.roots ↔ graph.inDegree uid = 0 := by
  constructor
  · exact shaped.root uid
  · intro outermost
    by_contra inner
    have contained := shaped.inner uid present inner
    omega

theorem inDegree_eq_zero (shaped : graph.WellShaped) {uid : String}
    (absent : uid ∉ graph.nodes.keys) : graph.inDegree uid = 0 :=
  List.count_eq_zero.mpr fun member => absent (shaped.target uid member)

theorem mem_walk_iff_known_or_root (shaped : graph.WellShaped) (uid : String) :
    uid ∈ graph.walk.map Prod.fst ↔ uid ∈ graph.nodes.keys ∨ uid ∈ graph.roots := by
  rw [mem_walk_iff]
  constructor
  · intro reachable
    cases reachable with
    | root member => exact .inr member
    | child _ edge => exact .inl (shaped.target uid (mem_flatten_of_mem_childrenOf edge))
  · rintro (present | member)
    · exact shaped.reachable uid present
    · exact .root member

theorem wellRooted (shaped : graph.WellShaped)
    (known : ∀ uid ∈ graph.roots, uid ∈ graph.nodes.keys) (nodup : graph.roots.Nodup) :
    graph.WellRooted :=
  ⟨(shaped.branches known).walk, known, nodup⟩

/-- A control stays reachable from other roots among which the same controls are.
What has contents is a control, so only controls are met on the way to it. -/
theorem reachable_withRoots (shaped : graph.WellShaped) {roots : List String}
    (same : ∀ uid ∈ graph.nodes.keys, uid ∈ roots ↔ uid ∈ graph.roots) {uid : String}
    (reachable : graph.Reachable uid) (present : uid ∈ graph.nodes.keys) :
    (graph.withRoots roots).Reachable uid := by
  induction reachable with
  | @root uid member => exact .root ((same uid present).mpr member)
  | @child outer inner _ edge ih =>
      have container := shaped.source outer (mem_keys_of_mem_childrenOf edge)
      exact (ih container).child edge

theorem withRoots (shaped : graph.WellShaped) {roots : List String}
    (same : ∀ uid ∈ graph.nodes.keys, uid ∈ roots ↔ uid ∈ graph.roots) :
    (graph.withRoots roots).WellShaped where
  source := shaped.source
  target := shaped.target
  root uid member := by
    by_cases present : uid ∈ graph.nodes.keys
    · exact shaped.root uid ((same uid present).mp member)
    · exact shaped.inDegree_eq_zero present
  inner uid present absent := shaped.inner uid present fun member =>
    absent ((same uid present).mpr member)
  reachable uid present := shaped.reachable_withRoots same (shaped.reachable uid present) present

/-- Of two lists of roots for the same controls and edges, both pass the checker only if
the same controls are among them. -/
theorem withRoots_iff (shaped : graph.WellShaped) (roots : List String) :
    (graph.withRoots roots).WellShaped ↔
      ∀ uid ∈ graph.nodes.keys, uid ∈ roots ↔ uid ∈ graph.roots := by
  constructor
  · intro otherShaped uid present
    have here := otherShaped.mem_roots_iff present
    exact here.trans (shaped.mem_roots_iff present).symm
  · exact shaped.withRoots

end WellShaped

/-- Where the checker has nothing to say, its silence is about the controls among the
roots and nothing else in them. -/
theorem rootsOpen_of_no_violations (graph : Containment) (nothing : graph.violations = []) :
    graph.RootsOpen := by
  have shaped := graph.violations_eq_nil_iff.mp nothing
  refine ⟨shaped.mem_walk_iff_known_or_root, ?_, ?_, ?_⟩
  · constructor
    · exact fun rooted => ⟨rooted.known, rooted.nodup⟩
    · exact fun roots => shaped.wellRooted roots.1 roots.2
  · intro roots
    rw [violations_eq_nil_iff]
    exact shaped.withRoots_iff roots
  · have same : ∀ uid ∈ graph.nodes.keys,
        uid ∈ graph.nodes.keys.filter (· ∈ graph.roots) ↔ uid ∈ graph.roots := by
      intro uid present
      simp [present]
    refine (shaped.withRoots same).wellRooted ?_ (graph.nodes.nodup_keys.filter _)
    exact fun uid member => (List.mem_filter.mp member).1

/-- A label inside a row inside a column, with roots that name the column twice and
something that is no control. -/
def strayGraph : Containment :=
  nestedGraph.withRoots ["vbox", "ghost", "vbox"]

theorem walk_strayGraph :
    strayGraph.walk = [("vbox", 0), ("hbox", 1), ("label", 2), ("ghost", 0)] := by
  have column : strayGraph.childrenOf "vbox" = ["hbox"] := rfl
  have row : strayGraph.childrenOf "hbox" = ["label"] := rfl
  have label : strayGraph.childrenOf "label" = [] := rfl
  have ghost : strayGraph.childrenOf "ghost" = [] := rfl
  have roots : strayGraph.roots = ["vbox", "ghost", "vbox"] := rfl
  simp [walk, visit, column, row, label, ghost, roots]

theorem rootsOpen_strayGraph : strayGraph.violations = [] ∧ strayGraph.RootsOpen := by
  have nothing : strayGraph.violations = [] := by
    rw [violations, walk_strayGraph]
    decide
  exact ⟨nothing, rootsOpen_of_no_violations strayGraph nothing⟩

/-- The checker passes a graph whose walk lists something that is no control, and
whose roots name a control twice. -/
theorem violations_strayGraph :
    strayGraph.violations = [] ∧
      ("ghost" ∈ strayGraph.walk.map Prod.fst ∧ "ghost" ∉ strayGraph.nodes.keys) ∧
      ("ghost" ∈ strayGraph.roots ∧ strayGraph.roots.count "vbox" = 2) := by
  rw [violations, walk_strayGraph]
  decide

end ViewOutline.Containment
