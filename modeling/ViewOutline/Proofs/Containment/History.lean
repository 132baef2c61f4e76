import ViewOutline.Containment.Graph
import ViewOutline.Proofs.Table
import Mathlib.Data.List.Nodup

/-!
# The history of a containment graph

A graph that is only grown by `add` is determined by the additions it accepted,
in order.  Each of its four parts is read off this history, so that whatever
holds of histories holds of every graph that can be reached.
-/

namespace ViewOutline

/-- A control and the container it is put into. -/
structure Addition where
  control : Control
  container : Option String

namespace Addition

/-- The identifier an addition brings. -/
def uid (addition : Addition) : String :=
  addition.control.uid

@[simp]
theorem uid_mk (control : Control) (container : Option String) :
    uid ⟨control, container⟩ = control.uid :=
  rfl

/-- The identifiers put into a container, or made roots, oldest first. -/
def contents (history : List Addition) (container : Option String) : List String :=
  (history.filter (·.container = container)).map uid

@[simp]
theorem contents_nil (container : Option String) : contents [] container = [] :=
  rfl

theorem contents_snoc (history : List Addition) (addition : Addition)
    (container : Option String) :
    contents (history ++ [addition]) container =
      contents history container ++
        if addition.container = container then [addition.uid] else [] := by
  by_cases equal : addition.container = container <;> simp [contents, equal]

theorem mem_contents_iff (history : List Addition) (container : Option String)
    (identifier : String) :
    identifier ∈ contents history container ↔
      ∃ addition ∈ history, addition.container = container ∧ addition.uid = identifier := by
  simp [contents, and_assoc]

/-- The controls in one container are listed in the order in which they came. -/
theorem contents_sublist (history : List Addition) (container : Option String) :
    (contents history container).Sublist (history.map uid) :=
  List.filter_sublist.map uid

/-- Every addition brings a new identifier, and its container came before it. -/
inductive Consistent : List Addition → Prop
  | nil : Consistent []
  | snoc {history : List Addition} {addition : Addition} :
      Consistent history →
      addition.uid ∉ history.map uid →
      (∀ container, addition.container = some container → container ∈ history.map uid) →
      Consistent (history ++ [addition])

namespace Consistent

variable {history : List Addition}

theorem nodup (consistent : Consistent history) : (history.map uid).Nodup := by
  induction consistent with
  | nil => exact List.nodup_nil
  | snoc _ fresh _ ih =>
      rw [List.map_append, List.map_singleton, List.nodup_append]
      refine ⟨ih, List.nodup_singleton _, ?_⟩
      intro first firstMem second secondMem equal
      rw [List.mem_singleton] at secondMem
      exact fresh (secondMem ▸ equal ▸ firstMem)

/-- Containers are controls of the history. -/
theorem container_mem (consistent : Consistent history) {addition : Addition}
    (member : addition ∈ history) {container : String}
    (inside : addition.container = some container) : container ∈ history.map uid := by
  induction consistent with
  | nil => simp at member
  | snoc _ _ known ih =>
      rw [List.map_append, List.mem_append]
      rcases List.mem_append.mp member with earlier | last
      · exact Or.inl (ih earlier)
      · rw [List.mem_singleton] at last
        subst last
        exact Or.inl (known container inside)

/-- What passes from containers to their contents, and holds of the roots, holds
of every control: containers come before what they contain. -/
theorem forall_uid (consistent : Consistent history) (holds : String → Prop)
    (passes : ∀ addition ∈ history,
      (∀ container, addition.container = some container → holds container) →
        holds addition.uid) :
    ∀ identifier ∈ history.map uid, holds identifier := by
  induction consistent with
  | nil => simp
  | @snoc history addition _ _ known ih =>
      have earlier := ih fun other member =>
        passes other (List.mem_append_left _ member)
      intro identifier member
      rw [List.map_append, List.mem_append] at member
      rcases member with before | last
      · exact earlier identifier before
      · rw [List.map_singleton, List.mem_singleton] at last
        subst last
        apply passes addition (List.mem_append_right _ List.mem_cons_self)
        intro container inside
        exact earlier container (known container inside)

/-- An identifier that is no control contains nothing. -/
theorem contents_eq_nil (consistent : Consistent history) {identifier : String}
    (absent : identifier ∉ history.map uid) : contents history (some identifier) = [] := by
  rw [List.eq_nil_iff_forall_not_mem]
  intro inner member
  obtain ⟨addition, additionMem, inside, _⟩ := (mem_contents_iff _ _ _).mp member
  exact absent (consistent.container_mem additionMem inside)

/-- An identifier belongs to one addition. -/
theorem eq_of_uid_eq (consistent : Consistent history) {first second : Addition}
    (firstMem : first ∈ history) (secondMem : second ∈ history)
    (equal : first.uid = second.uid) : first = second :=
  List.inj_on_of_nodup_map consistent.nodup firstMem secondMem equal

/-- What is in one container is not in another. -/
theorem eq_of_mem_contents (consistent : Consistent history) {first second : Option String}
    {identifier : String} (firstMem : identifier ∈ contents history first)
    (secondMem : identifier ∈ contents history second) : first = second := by
  obtain ⟨addition, member, rfl, rfl⟩ := (mem_contents_iff _ _ _).mp firstMem
  obtain ⟨other, otherMem, rfl, uidEq⟩ := (mem_contents_iff _ _ _).mp secondMem
  rw [consistent.eq_of_uid_eq otherMem member uidEq]

end Consistent

end Addition

namespace Containment

open Addition

/-- The parts of a graph that was grown by the additions of a history. -/
structure GrownBy (graph : Containment) (history : List Addition) : Prop where
  consistent : Consistent history
  nodes : graph.nodes.entries = history.map fun addition => (addition.uid, addition.control)
  edges : graph.edges.entries = history.map fun addition =>
    (addition.uid, contents history (some addition.uid))
  roots : graph.roots = contents history none
  parents : graph.parents.entries = history.filterMap fun addition =>
    addition.container.map fun container => (addition.uid, container)

theorem grownBy_empty : empty.GrownBy [] :=
  ⟨.nil, rfl, rfl, rfl, rfl⟩

namespace GrownBy

variable {graph : Containment} {history : List Addition}

theorem keys_nodes (grown : graph.GrownBy history) : graph.nodes.keys = history.map uid := by
  rw [Table.keys, grown.nodes, List.map_map]
  rfl

theorem keys_edges (grown : graph.GrownBy history) : graph.edges.keys = history.map uid := by
  rw [Table.keys, grown.edges, List.map_map]
  rfl

/-- The children of a control are what was put into it. -/
theorem childrenOf_eq (grown : graph.GrownBy history) (identifier : String) :
    graph.childrenOf identifier = contents history (some identifier) := by
  by_cases present : identifier ∈ history.map uid
  · obtain ⟨addition, member, rfl⟩ := List.mem_map.mp present
    have found : graph.edges.find? addition.uid =
        some (contents history (some addition.uid)) := by
      rw [Table.find?_eq_some_iff, grown.edges]
      exact List.mem_map.mpr ⟨addition, member, rfl⟩
    rw [childrenOf, found, Option.getD_some]
  · rw [grown.consistent.contents_eq_nil present]
    exact childrenOf_eq_nil_of_not_mem graph identifier (grown.keys_edges ▸ present)

/-- The container of a control is the one it was put into. -/
theorem parentOf_eq_some_iff (grown : graph.GrownBy history) (identifier container : String) :
    graph.parentOf identifier = some container ↔
      ∃ addition ∈ history, addition.container = some container ∧ addition.uid = identifier := by
  rw [parentOf, Table.find?_eq_some_iff, grown.parents, List.mem_filterMap]
  constructor
  · rintro ⟨addition, member, entryEq⟩
    obtain ⟨stored, inside, pairEq⟩ := Option.map_eq_some_iff.mp entryEq
    cases pairEq
    exact ⟨addition, member, inside, rfl⟩
  · rintro ⟨addition, member, inside, rfl⟩
    exact ⟨addition, member, by rw [inside, Option.map_some]⟩

/-- The container recorded for a control is that of its addition. -/
theorem parentOf_eq_container (grown : graph.GrownBy history) {addition : Addition}
    (member : addition ∈ history) : graph.parentOf addition.uid = addition.container := by
  apply Option.ext
  intro container
  rw [grown.parentOf_eq_some_iff]
  constructor
  · rintro ⟨other, otherMem, inside, uidEq⟩
    rw [← grown.consistent.eq_of_uid_eq otherMem member uidEq]
    exact inside
  · intro inside
    exact ⟨addition, member, inside, rfl⟩

end GrownBy

/-- A control whose identifier is present is refused. -/
theorem add_of_present (graph : Containment) {control : Control} (container : Option String)
    (present : control.uid ∈ graph.nodes.keys) :
    graph.add control container = (graph, .error (.duplicate control.uid)) := by
  unfold add
  rw [if_pos ((graph.nodes.contains_iff _).mpr present)]

/-- A new control is refused if its container is not present. -/
theorem add_of_unknown (graph : Containment) {control : Control} {container : String}
    (fresh : control.uid ∉ graph.nodes.keys) (unknown : container ∉ graph.nodes.keys) :
    graph.add control (some container) = (graph, .error (.unknownParent container)) := by
  have freshTest : ¬ graph.nodes.contains control.uid := fun holds =>
    fresh ((graph.nodes.contains_iff _).mp holds)
  have unknownTest : ¬ graph.nodes.contains container := fun holds =>
    unknown ((graph.nodes.contains_iff _).mp holds)
  simp only [add, if_neg freshTest, if_neg unknownTest]

namespace GrownBy

variable {graph : Containment} {history : List Addition}

/-- The nodes and edges once a new control has been entered. -/
theorem place (grown : graph.GrownBy history) {control : Control}
    (fresh : control.uid ∉ history.map uid) :
    (graph.place control).nodes.entries = graph.nodes.entries ++ [(control.uid, control)] ∧
      (graph.place control).edges.entries = graph.edges.entries ++ [(control.uid, [])] :=
  ⟨Table.entries_insert_of_not_mem _ _ _ (grown.keys_nodes ▸ fresh),
    Table.entries_insert_of_not_mem _ _ _ (grown.keys_edges ▸ fresh)⟩

/-- A new control may become a root. -/
theorem add_root (grown : graph.GrownBy history) {control : Control}
    (fresh : control.uid ∉ history.map uid) :
    ∃ next, graph.add control none = (next, .ok ()) ∧
      next.GrownBy (history ++ [⟨control, none⟩]) := by
  have freshTest : ¬ graph.nodes.contains control.uid := fun holds =>
    fresh (grown.keys_nodes ▸ (graph.nodes.contains_iff _).mp holds)
  obtain ⟨nodesEq, edgesEq⟩ := grown.place fresh
  have result : graph.add control none =
      ({ graph.place control with roots := graph.roots ++ [control.uid] }, .ok ()) := by
    simp only [Containment.add, if_neg freshTest]
    rfl
  refine ⟨_, result, ?_, ?_, ?_, ?_, ?_⟩
  · exact .snoc grown.consistent fresh (by simp)
  · simp [nodesEq, grown.nodes]
  · have nothingInside : contents history (some control.uid) = [] :=
      grown.consistent.contents_eq_nil fresh
    simp [edgesEq, grown.edges, contents_snoc, nothingInside]
  · simp [grown.roots, contents_snoc]
  · simp [Containment.place, grown.parents]

/-- A new control may be put into a control that is present. -/
theorem add_inside (grown : graph.GrownBy history) {control : Control} {container : String}
    (fresh : control.uid ∉ history.map uid) (known : container ∈ history.map uid) :
    ∃ next, graph.add control (some container) = (next, .ok ()) ∧
      next.GrownBy (history ++ [⟨control, some container⟩]) := by
  have freshTest : ¬ graph.nodes.contains control.uid := fun holds =>
    fresh (grown.keys_nodes ▸ (graph.nodes.contains_iff _).mp holds)
  have knownTest : graph.nodes.contains container := by
    rw [Table.contains_iff, grown.keys_nodes]
    exact known
  obtain ⟨nodesEq, edgesEq⟩ := grown.place fresh
  have listTest : (graph.place control).edges.contains container := by
    rw [Table.contains_iff, Table.keys, edgesEq, List.map_append, List.mem_append]
    rw [← grown.keys_edges] at known
    exact Or.inl known
  have different : control.uid ≠ container := fun equal => fresh (equal ▸ known)
  have result : graph.add control (some container) =
      ({ graph.place control with
          edges := (graph.place control).edges.modify container (· ++ [control.uid])
          parents := graph.parents.insert control.uid container }, .ok ()) := by
    simp only [Containment.add, if_neg freshTest, if_pos knownTest, if_pos listTest]
    rfl
  refine ⟨_, result, ?_, ?_, ?_, ?_, ?_⟩
  · exact .snoc grown.consistent fresh (by rintro _ ⟨⟩; exact known)
  · simp [nodesEq, grown.nodes]
  · have nothingInside : contents history (some control.uid) = [] :=
      grown.consistent.contents_eq_nil fresh
    rw [Table.entries_modify, edgesEq, grown.edges, List.map_append, List.map_append,
      List.map_map]
    congr 1
    · apply List.map_congr_left
      intro addition _
      by_cases equal : addition.uid = container
      · simp [equal, contents_snoc]
      · simp [equal, Ne.symm equal, contents_snoc]
    · simp [contents_snoc, nothingInside, different, Ne.symm different]
  · simp [Containment.place, grown.roots, contents_snoc]
  · have absent : control.uid ∉ graph.parents.keys := by
      rw [Table.keys, grown.parents]
      intro member
      obtain ⟨entry, entryMem, uidEq⟩ := List.mem_map.mp member
      obtain ⟨addition, additionMem, entryEq⟩ := List.mem_filterMap.mp entryMem
      obtain ⟨_, _, rfl⟩ := Option.map_eq_some_iff.mp entryEq
      exact fresh (List.mem_map.mpr ⟨addition, additionMem, uidEq⟩)
    rw [Table.entries_insert_of_not_mem _ _ _ absent, grown.parents, List.filterMap_append]
    rfl

/-- A new control is taken in wherever its container is present. -/
theorem add (grown : graph.GrownBy history) {control : Control} {container : Option String}
    (fresh : control.uid ∉ history.map uid)
    (known : ∀ outer, container = some outer → outer ∈ history.map uid) :
    ∃ next, graph.add control container = (next, .ok ()) ∧
      next.GrownBy (history ++ [⟨control, container⟩]) := by
  cases container with
  | none => exact grown.add_root fresh
  | some outer => exact grown.add_inside fresh (known outer rfl)

/-- An addition to a grown graph is refused with the graph unchanged, or taken
in and added to the history. -/
theorem add_cases (grown : graph.GrownBy history) (control : Control) (container : Option String) :
    (control.uid ∈ graph.nodes.keys ∧
        graph.add control container = (graph, .error (.duplicate control.uid))) ∨
      (control.uid ∉ graph.nodes.keys ∧ ∃ outer, container = some outer ∧
        outer ∉ graph.nodes.keys ∧
        graph.add control container = (graph, .error (.unknownParent outer))) ∨
      (control.uid ∉ graph.nodes.keys ∧
        (∀ outer, container = some outer → outer ∈ graph.nodes.keys) ∧
        ∃ next, graph.add control container = (next, .ok ()) ∧
          next.GrownBy (history ++ [⟨control, container⟩])) := by
  by_cases present : control.uid ∈ graph.nodes.keys
  · exact Or.inl ⟨present, graph.add_of_present container present⟩
  · by_cases known : ∀ outer, container = some outer → outer ∈ graph.nodes.keys
    · refine Or.inr (Or.inr ⟨present, known, ?_⟩)
      rw [grown.keys_nodes] at present known
      exact grown.add present known
    · push Not at known
      obtain ⟨outer, rfl, unknown⟩ := known
      exact Or.inr (Or.inl ⟨present, outer, rfl, unknown, graph.add_of_unknown present unknown⟩)

end GrownBy

end Containment

end ViewOutline
