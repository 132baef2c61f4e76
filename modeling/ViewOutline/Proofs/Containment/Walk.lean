import ViewOutline.Containment.Walk
import Mathlib.Data.List.Nodup

/-!
# What a walk lists

Nothing is assumed of the graph here: edges may lead anywhere, form cycles and
share their ends.  A walk lists what is reachable from the roots, and lists
nothing twice.
-/

namespace ViewOutline.Containment

/-- What the edges lead to from the roots. -/
inductive Reachable (graph : Containment) : String → Prop
  | root {uid : String} : uid ∈ graph.roots → Reachable graph uid
  | child {uid inner : String} :
      Reachable graph uid → inner ∈ graph.childrenOf uid → Reachable graph inner

/-- A path along the edges, with what it enters on its way to an identifier. -/
inductive Path (graph : Containment) (start : String) : List String → String → Prop
  | here : Path graph start [] start
  | step {entered : List String} {uid inner : String} :
      Path graph start entered uid → inner ∈ graph.childrenOf uid →
      Path graph start (entered ++ [inner]) inner

variable {graph : Containment}

/-! ## Paths -/

theorem Path.append {start middle uid : String} {entered more : List String}
    (first : graph.Path start entered middle) (second : graph.Path middle more uid) :
    graph.Path start (entered ++ more) uid := by
  induction second with
  | here => simpa using first
  | step _ edge ih =>
      rw [← List.append_assoc]
      exact ih.step edge

/-- A path from what lies in an identifier is one from the identifier. -/
theorem Path.cons {outer start uid : String} {entered : List String}
    (edge : start ∈ graph.childrenOf outer) (path : graph.Path start entered uid) :
    graph.Path outer (start :: entered) uid :=
  (Path.here.step edge).append path

theorem reachable_iff_exists_path (uid : String) :
    graph.Reachable uid ↔ ∃ root ∈ graph.roots, ∃ entered, graph.Path root entered uid := by
  constructor
  · intro reachable
    induction reachable with
    | @root uid member => exact ⟨uid, member, [], .here⟩
    | child _ edge ih =>
        rcases ih with ⟨root, member, entered, path⟩
        exact ⟨root, member, _, path.step edge⟩
  · rintro ⟨root, member, entered, path⟩
    induction path with
    | here => exact .root member
    | step _ edge ih => exact ih.child edge

/-! ## Visits -/

/-- A visit lists nothing that was visited before. -/
theorem not_mem_visited_of_mem_visit (agenda : List (String × Nat)) (visited : List String)
    {entry : String × Nat} (member : entry ∈ graph.visit agenda visited) :
    entry.1 ∉ visited := by
  fun_induction visit graph agenda visited with
  | case1 => simp at member
  | case2 uid depth agenda visited seen ih => exact ih member
  | case3 uid depth agenda visited new ih =>
      rcases List.mem_cons.mp member with rfl | later
      · exact new
      · exact fun seen => ih later (List.mem_cons_of_mem uid seen)

/-- A visit lists nothing twice. -/
theorem nodup_visit (agenda : List (String × Nat)) (visited : List String) :
    ((graph.visit agenda visited).map Prod.fst).Nodup := by
  fun_induction visit graph agenda visited with
  | case1 => exact List.nodup_nil
  | case2 uid depth agenda visited seen ih => exact ih
  | case3 uid depth agenda visited new ih =>
      rw [List.map_cons, List.nodup_cons]
      refine ⟨?_, ih⟩
      intro member
      obtain ⟨entry, entryMem, uidEq⟩ := List.mem_map.mp member
      apply not_mem_visited_of_mem_visit _ _ entryMem
      rw [uidEq]
      exact List.mem_cons_self

/-- What holds of the agenda and passes from a container to its contents, one
level further in, holds of everything a visit lists. -/
theorem forall_mem_visit (holds : String → Nat → Prop)
    (passes : ∀ uid depth, holds uid depth →
      ∀ inner ∈ graph.childrenOf uid, holds inner (depth + 1))
    (agenda : List (String × Nat)) (visited : List String)
    (start : ∀ entry ∈ agenda, holds entry.1 entry.2) :
    ∀ entry ∈ graph.visit agenda visited, holds entry.1 entry.2 := by
  fun_induction visit graph agenda visited with
  | case1 => simp
  | case2 uid depth agenda visited seen ih =>
      exact ih fun entry member => start entry (List.mem_cons_of_mem _ member)
  | case3 uid depth agenda visited new ih =>
      have here : holds uid depth := start (uid, depth) List.mem_cons_self
      intro entry member
      rcases List.mem_cons.mp member with rfl | later
      · exact here
      · apply ih _ entry later
        intro waiting waitingMem
        rcases List.mem_append.mp waitingMem with inside | before
        · obtain ⟨inner, innerMem, rfl⟩ := List.mem_map.mp inside
          exact passes uid depth here inner innerMem
        · exact start waiting (List.mem_cons_of_mem _ before)

/-- What holds of the roots and passes from a container to its contents, one
level further in, holds of everything a walk lists. -/
theorem forall_mem_walk (holds : String → Nat → Prop) (root : ∀ uid ∈ graph.roots, holds uid 0)
    (passes : ∀ uid depth, holds uid depth →
      ∀ inner ∈ graph.childrenOf uid, holds inner (depth + 1))
    {uid : String} {depth : Nat} (listed : (uid, depth) ∈ graph.walk) : holds uid depth := by
  refine forall_mem_visit holds passes _ _ ?_ (uid, depth) listed
  intro entry member
  obtain ⟨start, startMem, rfl⟩ := List.mem_map.mp member
  exact root start startMem

/-- The contents of whatever was visited have been visited or are waiting. -/
def Pending (graph : Containment) (agenda : List (String × Nat)) (visited : List String) : Prop :=
  ∀ uid ∈ visited, ∀ inner ∈ graph.childrenOf uid,
    inner ∈ visited ∨ inner ∈ agenda.map Prod.fst

/-- Visiting an identifier puts its contents on the agenda. -/
theorem Pending.visit {uid : String} {depth : Nat} {agenda : List (String × Nat)}
    {visited : List String} (pending : graph.Pending ((uid, depth) :: agenda) visited) :
    graph.Pending ((graph.childrenOf uid).map (·, depth + 1) ++ agenda) (uid :: visited) := by
  intro outer outerMem inner innerMem
  rw [List.map_append, List.map_map, List.mem_append]
  rcases List.mem_cons.mp outerMem with rfl | before
  · exact Or.inr (Or.inl (List.mem_map.mpr ⟨inner, innerMem, rfl⟩))
  · rcases pending outer before inner innerMem with seen | waiting
    · exact Or.inl (List.mem_cons_of_mem uid seen)
    · rcases List.mem_cons.mp waiting with rfl | later
      · exact Or.inl List.mem_cons_self
      · exact Or.inr (Or.inr later)

/-- Passing over an identifier that was visited loses nothing. -/
theorem Pending.skip {uid : String} {depth : Nat} {agenda : List (String × Nat)}
    {visited : List String} (seen : uid ∈ visited)
    (pending : graph.Pending ((uid, depth) :: agenda) visited) :
    graph.Pending agenda visited := by
  intro outer outerMem inner innerMem
  rcases pending outer outerMem inner innerMem with before | waiting
  · exact Or.inl before
  · rcases List.mem_cons.mp waiting with rfl | later
    · exact Or.inl seen
    · exact Or.inr later

/-- A visit lists its agenda, and with an identifier all of its contents. -/
theorem visit_covers (graph : Containment) (agenda : List (String × Nat)) (visited : List String)
    (pending : graph.Pending agenda visited) :
    let reached := visited ++ (graph.visit agenda visited).map Prod.fst
    (∀ uid ∈ agenda.map Prod.fst, uid ∈ reached) ∧
      ∀ uid ∈ reached, ∀ inner ∈ graph.childrenOf uid, inner ∈ reached := by
  fun_induction visit graph agenda visited with
  | case1 visited =>
      refine ⟨by simp, ?_⟩
      intro uid uidMem inner innerMem
      rw [List.map_nil, List.append_nil] at uidMem ⊢
      exact (pending uid uidMem inner innerMem).resolve_right (by simp)
  | case2 uid depth agenda visited seen ih =>
      obtain ⟨listed, closed⟩ := ih (pending.skip seen)
      refine ⟨?_, closed⟩
      intro waiting waitingMem
      rcases List.mem_cons.mp waitingMem with rfl | later
      · exact List.mem_append_left _ seen
      · exact listed waiting later
  | case3 uid depth agenda visited new ih =>
      obtain ⟨listed, closed⟩ := ih pending.visit
      -- The list only moves: what was visited last is now listed first.
      have moved : ∀ other, other ∈ visited ++ uid ::
            (graph.visit ((graph.childrenOf uid).map (·, depth + 1) ++ agenda)
              (uid :: visited)).map Prod.fst ↔
          other ∈ (uid :: visited) ++
            (graph.visit ((graph.childrenOf uid).map (·, depth + 1) ++ agenda)
              (uid :: visited)).map Prod.fst := by
        intro other
        exact List.perm_middle.mem_iff
      rw [List.map_cons]
      constructor
      · intro waiting waitingMem
        rw [moved]
        rcases List.mem_cons.mp waitingMem with rfl | later
        · exact List.mem_cons_self
        · apply listed
          rw [List.map_append]
          exact List.mem_append_right _ later
      · intro outer outerMem inner innerMem
        rw [moved] at outerMem ⊢
        exact closed outer outerMem inner innerMem

/-- A walk lists nothing twice. -/
theorem nodup_walk (graph : Containment) : (graph.walk.map Prod.fst).Nodup :=
  nodup_visit _ _

/-- A walk lists exactly what is reachable from the roots. -/
theorem mem_walk_iff (graph : Containment) (uid : String) :
    uid ∈ graph.walk.map Prod.fst ↔ graph.Reachable uid := by
  constructor
  · intro member
    obtain ⟨entry, entryMem, rfl⟩ := List.mem_map.mp member
    refine forall_mem_walk (fun uid _ => graph.Reachable uid) (fun _ => .root) ?_ entryMem
    intro outer _ reachable inner innerMem
    exact reachable.child innerMem
  · intro reachable
    obtain ⟨listed, closed⟩ :=
      visit_covers graph (graph.roots.map (·, 0)) [] (by simp [Pending])
    induction reachable with
    | @root uid rootMem =>
        apply listed
        rw [List.map_map]
        exact List.mem_map.mpr ⟨uid, rootMem, rfl⟩
    | child _ innerMem ih => exact closed _ ih _ innerMem

end ViewOutline.Containment
