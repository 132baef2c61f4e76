import ViewOutline.Containment.Graph

/-!
# Walking a containment graph

The walk lists every identifier reachable from the roots with its depth, each
root followed by what lies inside it.  An identifier met again is passed over,
so the walk ends on every graph: each entry either shortens the agenda or uses
up one of the finitely many identifiers that have edges.
-/

namespace ViewOutline.Containment

/-- Visiting a new identifier that has edges leaves fewer of them to visit. -/
theorem length_filter_unvisited_lt (keys : List String) (visited : List String) (uid : String)
    (present : uid ∈ keys) (new : uid ∉ visited) :
    (keys.filter (· ∉ uid :: visited)).length < (keys.filter (· ∉ visited)).length := by
  induction keys with
  | nil => simp at present
  | cons key rest ih =>
      have bound : (rest.filter (· ∉ uid :: visited)).length ≤
          (rest.filter (· ∉ visited)).length := by
        rw [← List.countP_eq_length_filter, ← List.countP_eq_length_filter]
        apply List.countP_mono_left
        intro other _ holds
        simp only [List.mem_cons, not_or, decide_eq_true_eq] at holds ⊢
        exact holds.2
      by_cases equal : key = uid
      · subst equal
        simp only [List.filter_cons]
        simp [new]
        simpa using Nat.lt_succ_of_le bound
      · have inRest : uid ∈ rest := by
          cases present with
          | head => exact absurd rfl equal
          | tail _ member => exact member
        have smaller := ih inRest
        by_cases seen : key ∈ visited
        · simpa [List.filter_cons, seen] using smaller
        · simpa [List.filter_cons, seen, equal] using smaller

/-- Visiting an identifier without edges leaves as many of them to visit. -/
theorem filter_unvisited_eq (keys : List String) (visited : List String) (uid : String)
    (absent : uid ∉ keys) :
    keys.filter (· ∉ uid :: visited) = keys.filter (· ∉ visited) := by
  apply List.filter_congr
  intro key member
  have different : key ≠ uid := fun equal => absent (equal ▸ member)
  simp [different]

/-- Work off an agenda of identifiers with depths, passing over those visited
before. -/
def visit (graph : Containment) :
    List (String × Nat) → List String → List (String × Nat)
  | [], _ => []
  | (uid, depth) :: agenda, visited =>
      if uid ∈ visited then
        visit graph agenda visited
      else
        (uid, depth) ::
          visit graph ((graph.childrenOf uid).map (·, depth + 1) ++ agenda) (uid :: visited)
termination_by agenda visited =>
  ((graph.edges.keys.filter (· ∉ visited)).length, agenda.length)
decreasing_by
  · exact Prod.Lex.right _ (Nat.lt_succ_self _)
  · rename_i new
    by_cases present : uid ∈ graph.edges.keys
    · exact Prod.Lex.left _ _ (length_filter_unvisited_lt _ _ _ present new)
    · rw [filter_unvisited_eq _ _ _ present, childrenOf_eq_nil_of_not_mem graph uid present]
      exact Prod.Lex.right _ (Nat.lt_succ_self _)

/-- The identifiers reachable from the roots, with their depths, each root
followed by what it contains. -/
def walk (graph : Containment) : List (String × Nat) :=
  graph.visit (graph.roots.map (·, 0)) []

end ViewOutline.Containment
