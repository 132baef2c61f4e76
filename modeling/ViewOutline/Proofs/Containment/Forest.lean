import ViewOutline.Proofs.Containment.Checker
import ViewOutline.Proofs.Containment.History

/-!
# Grown graphs are forests

Every graph that is reached by adding controls is a forest: each control is a
root or lies in exactly one container, and following containers outwards ends at
a root.  A refused addition changes nothing, so the additions that were refused
on the way leave no trace.
-/

namespace ViewOutline.Containment

open Addition

/-- Carry out additions in order, passing over those that are refused. -/
def addAll (graph : Containment) : List Addition → Containment
  | [] => graph
  | request :: rest => (graph.add request.control request.container).1.addAll rest

/-- The control reached by going outwards a number of times. -/
def ancestor? (graph : Containment) : Nat → String → Option String
  | 0, uid => some uid
  | steps + 1, uid => (graph.parentOf uid).bind (graph.ancestor? steps)

/-- The parts of a graph agree with each other and describe a forest. -/
structure IsForest (graph : Containment) : Prop where
  /-- Every control has a list of children, in the order of the controls. -/
  keys_edges : graph.edges.keys = graph.nodes.keys
  /-- No control is listed twice among the roots and the children. -/
  nodup : (graph.roots ++ graph.edges.values.flatten).Nodup
  /-- Every control is a root or a child, and nothing else is. -/
  perm : (graph.roots ++ graph.edges.values.flatten).Perm graph.nodes.keys
  /-- The container recorded for a control is the one that lists it. -/
  parentOf_iff : ∀ uid container,
    graph.parentOf uid = some container ↔ uid ∈ graph.childrenOf container
  /-- The controls without a container are the roots. -/
  root_iff : ∀ uid ∈ graph.nodes.keys, graph.parentOf uid = none ↔ uid ∈ graph.roots
  /-- No edge leads to a root. -/
  inDegree_root : ∀ uid ∈ graph.roots, graph.inDegree uid = 0
  /-- One edge leads to every other control. -/
  inDegree_inner : ∀ uid ∈ graph.nodes.keys, uid ∉ graph.roots → graph.inDegree uid = 1
  /-- The checker has nothing to say. -/
  violations : graph.violations = []
  /-- The walk lists every control once. -/
  walk_perm : (graph.walk.map Prod.fst).Perm graph.nodes.keys
  /-- The walk gives the number of steps from a control outwards to a root. -/
  walk_depth : ∀ uid depth, (uid, depth) ∈ graph.walk →
    ∃ root ∈ graph.roots, graph.ancestor? depth uid = some root

/-- A graph answers a request to add a control as its controls demand. -/
structure AnswersAdd (graph : Containment) (control : Control) (container : Option String) :
    Prop where
  /-- An identifier that is present is refused. -/
  duplicate_iff :
    (graph.add control container).2 = .error (.duplicate control.uid) ↔
      control.uid ∈ graph.nodes.keys
  /-- Of the others, those are refused whose container is missing. -/
  unknownParent_iff : ∀ outer,
    (graph.add control container).2 = .error (.unknownParent outer) ↔
      control.uid ∉ graph.nodes.keys ∧ container = some outer ∧ outer ∉ graph.nodes.keys
  /-- There is no other reason to refuse. -/
  reason : ∀ error, (graph.add control container).2 = .error error →
    error = .duplicate control.uid ∨ ∃ outer, error = .unknownParent outer
  /-- A refused request leaves the graph as it was. -/
  unchanged : ∀ error, (graph.add control container).2 = .error error →
    (graph.add control container).1 = graph

namespace GrownBy

variable {graph : Containment} {history : List Addition}

/-- The roots and the children, container by container. -/
theorem roots_append_children (grown : graph.GrownBy history) :
    graph.roots ++ graph.edges.values.flatten =
      (none :: (history.map uid).map some).flatMap (contents history) := by
  rw [Table.values, grown.edges, grown.roots, List.flatMap_cons, List.flatMap_def,
    List.map_map, List.map_map, List.map_map]
  rfl

theorem nodup_children (grown : graph.GrownBy history) :
    (graph.roots ++ graph.edges.values.flatten).Nodup := by
  rw [grown.roots_append_children, List.nodup_flatMap]
  constructor
  · intro container _
    exact grown.consistent.nodup.sublist (contents_sublist history container)
  · have containersNodup : (none :: (history.map uid).map some).Nodup := by
      rw [List.nodup_cons]
      exact ⟨by simp, grown.consistent.nodup.map fun _ _ => Option.some.inj⟩
    refine List.Pairwise.imp ?_ containersNodup
    intro first second different inner firstMem secondMem
    exact different (grown.consistent.eq_of_mem_contents firstMem secondMem)

theorem mem_children_iff (grown : graph.GrownBy history) (identifier : String) :
    identifier ∈ graph.roots ++ graph.edges.values.flatten ↔ identifier ∈ history.map uid := by
  rw [grown.roots_append_children, List.mem_flatMap]
  constructor
  · rintro ⟨container, _, member⟩
    exact (contents_sublist history container).subset member
  · intro member
    obtain ⟨addition, additionMem, rfl⟩ := List.mem_map.mp member
    refine ⟨addition.container, ?_, (mem_contents_iff _ _ _).mpr ⟨addition, additionMem, rfl, rfl⟩⟩
    cases inside : addition.container with
    | none => exact List.mem_cons_self
    | some container =>
        apply List.mem_cons_of_mem
        exact List.mem_map.mpr
          ⟨container, grown.consistent.container_mem additionMem inside, rfl⟩

theorem children_perm (grown : graph.GrownBy history) :
    (graph.roots ++ graph.edges.values.flatten).Perm graph.nodes.keys := by
  rw [List.perm_ext_iff_of_nodup grown.nodup_children graph.nodes.nodup_keys]
  intro identifier
  rw [grown.mem_children_iff, grown.keys_nodes]

theorem parentOf_eq_some_iff_mem_childrenOf (grown : graph.GrownBy history)
    (identifier container : String) :
    graph.parentOf identifier = some container ↔ identifier ∈ graph.childrenOf container := by
  rw [grown.parentOf_eq_some_iff, grown.childrenOf_eq, mem_contents_iff]

theorem parentOf_eq_none_iff (grown : graph.GrownBy history) {identifier : String}
    (present : identifier ∈ graph.nodes.keys) :
    graph.parentOf identifier = none ↔ identifier ∈ graph.roots := by
  rw [grown.keys_nodes] at present
  obtain ⟨addition, member, rfl⟩ := List.mem_map.mp present
  rw [grown.parentOf_eq_container member, grown.roots, mem_contents_iff]
  constructor
  · intro outermost
    exact ⟨addition, member, outermost, rfl⟩
  · rintro ⟨other, otherMem, outermost, uidEq⟩
    rw [← grown.consistent.eq_of_uid_eq otherMem member uidEq]
    exact outermost

/-- No edge leads to a root, since no identifier is both a root and a child. -/
theorem inDegree_of_root (grown : graph.GrownBy history) {identifier : String}
    (root : identifier ∈ graph.roots) : graph.inDegree identifier = 0 := by
  rw [inDegree, List.count_eq_zero]
  intro child
  exact (List.nodup_append.mp grown.nodup_children).2.2 _ root _ child rfl

theorem inDegree_of_not_root (grown : graph.GrownBy history) {identifier : String}
    (present : identifier ∈ graph.nodes.keys) (inner : identifier ∉ graph.roots) :
    graph.inDegree identifier = 1 := by
  have child : identifier ∈ graph.edges.values.flatten :=
    (List.mem_append.mp (grown.children_perm.mem_iff.mpr present)).resolve_left inner
  exact List.count_eq_one_of_mem (List.nodup_append.mp grown.nodup_children).2.1 child

/-- The controls are what the edges lead to from the roots. -/
theorem reachable_iff (grown : graph.GrownBy history) (identifier : String) :
    graph.Reachable identifier ↔ identifier ∈ graph.nodes.keys := by
  rw [grown.keys_nodes]
  constructor
  · intro reachable
    cases reachable with
    | root member =>
        rw [grown.roots] at member
        exact (contents_sublist _ _).subset member
    | child _ member =>
        rw [grown.childrenOf_eq] at member
        exact (contents_sublist _ _).subset member
  · refine grown.consistent.forall_uid graph.Reachable ?_ identifier
    intro addition member outer
    cases inside : addition.container with
    | none =>
        apply Reachable.root
        rw [grown.roots]
        exact (mem_contents_iff _ _ _).mpr ⟨addition, member, inside, rfl⟩
    | some container =>
        apply (outer container inside).child
        rw [grown.childrenOf_eq]
        exact (mem_contents_iff _ _ _).mpr ⟨addition, member, inside, rfl⟩

theorem wellShaped (grown : graph.GrownBy history) : graph.WellShaped where
  source uid member := by
    rwa [grown.keys_nodes, ← grown.keys_edges]
  target _ member := grown.children_perm.mem_iff.mp (List.mem_append_right _ member)
  root _ := grown.inDegree_of_root
  inner _ := grown.inDegree_of_not_root
  reachable uid := (grown.reachable_iff uid).mpr

theorem walk_perm (grown : graph.GrownBy history) :
    (graph.walk.map Prod.fst).Perm graph.nodes.keys := by
  have rootsKnown : ∀ uid ∈ graph.roots, uid ∈ graph.nodes.keys := fun _ member =>
    grown.children_perm.mem_iff.mp (List.mem_append_left _ member)
  exact (grown.wellShaped.branches rootsKnown).walk

/-- Each entry of the walk is as many steps from a root as its depth says. -/
theorem ancestor?_of_mem_walk (grown : graph.GrownBy history) {identifier : String} {depth : Nat}
    (member : (identifier, depth) ∈ graph.walk) :
    ∃ root ∈ graph.roots, graph.ancestor? depth identifier = some root := by
  refine forall_mem_walk
    (fun uid depth => ∃ root ∈ graph.roots, graph.ancestor? depth uid = some root)
    (fun root rootMem => ⟨root, rootMem, rfl⟩) ?_ member
  rintro outer depth ⟨root, rootMem, leads⟩ inner innerMem
  have inside := (grown.parentOf_eq_some_iff_mem_childrenOf inner outer).mpr innerMem
  exact ⟨root, rootMem, by rw [ancestor?, inside, Option.bind_some, leads]⟩

/-- The checker finds nothing wrong with a grown graph. -/
theorem violations_eq_nil (grown : graph.GrownBy history) : graph.violations = [] :=
  graph.violations_eq_nil_iff.mpr grown.wellShaped

theorem isForest (grown : graph.GrownBy history) : graph.IsForest where
  keys_edges := grown.keys_edges.trans grown.keys_nodes.symm
  nodup := grown.nodup_children
  perm := grown.children_perm
  parentOf_iff := grown.parentOf_eq_some_iff_mem_childrenOf
  root_iff _ := grown.parentOf_eq_none_iff
  inDegree_root _ := grown.inDegree_of_root
  inDegree_inner _ := grown.inDegree_of_not_root
  violations := grown.violations_eq_nil
  walk_perm := grown.walk_perm
  walk_depth _ _ := grown.ancestor?_of_mem_walk

theorem answersAdd (grown : graph.GrownBy history) (control : Control)
    (container : Option String) : graph.AnswersAdd control container := by
  rcases grown.add_cases control container with
    ⟨present, refused⟩ | ⟨fresh, outer, rfl, unknown, refused⟩ | ⟨fresh, known, next, accepted, _⟩
  · constructor <;> rw [refused] <;> simp [present]
  · constructor <;> rw [refused]
    · simp [fresh]
    · intro other
      simp only [Except.error.injEq, AddError.unknownParent.injEq, Option.some.injEq]
      constructor
      · rintro rfl
        exact ⟨fresh, rfl, unknown⟩
      · exact fun conditions => conditions.2.1
    · rintro _ ⟨⟩
      exact .inr ⟨outer, rfl⟩
    · exact fun _ _ => rfl
  · constructor <;> rw [accepted]
    · simp [fresh]
    · intro other
      constructor
      · rintro ⟨⟩
      · rintro ⟨_, inside, unknown⟩
        exact absurd (known other inside) unknown
    · rintro _ ⟨⟩
    · rintro _ ⟨⟩

end GrownBy

/-- Every graph reached by additions has a history. -/
theorem GrownBy.addAll {graph : Containment} {history : List Addition}
    (grown : graph.GrownBy history) (requests : List Addition) :
    ∃ later, (graph.addAll requests).GrownBy later := by
  induction requests generalizing graph history with
  | nil => exact ⟨history, grown⟩
  | cons request rest ih =>
      rw [Containment.addAll]
      rcases grown.add_cases request.control request.container with
        ⟨_, refused⟩ | ⟨_, _, _, _, refused⟩ | ⟨_, _, next, accepted, nextGrown⟩
      · rw [refused]
        exact ih grown
      · rw [refused]
        exact ih grown
      · rw [accepted]
        exact ih nextGrown

/-- Every graph reached by additions is a forest, and it answers every further
request as its controls demand. -/
theorem addAll_isForest (requests : List Addition) :
    (empty.addAll requests).IsForest ∧
      ∀ control container, (empty.addAll requests).AnswersAdd control container := by
  obtain ⟨history, grown⟩ := grownBy_empty.addAll requests
  exact ⟨grown.isForest, grown.answersAdd⟩

end ViewOutline.Containment
