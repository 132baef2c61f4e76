import ViewOutline.Proofs.Containment.Walk

/-!
# The order of a walk

The depths of a walk show what was reached from what.  An identifier is reached
from the last one before it that stands one level further out, and nothing that
is listed between the two stands as far out as that one.  What is reached from
one identifier comes in the order of its edges.

As long as a visit lasts, its agenda holds what is still to be reached from the
identifiers that are open.  Nothing on the agenda lies deeper than what stands
before it, so whatever is listed before an entry's turn comes lies at least as
deep as that entry.
-/

namespace ViewOutline.Containment

/-- In a listing, an identifier is reached from another at some depth: it comes
later and one level further in, and nothing in between stands as far out as the
other. -/
def ReachedFrom (listing : List (String × Nat)) (depth : Nat) (outer inner : String) : Prop :=
  ∃ before between after,
    listing = before ++ (outer, depth) :: (between ++ (inner, depth + 1) :: after) ∧
      ∀ entry ∈ between, depth < entry.2

/-- A listing goes through a graph from its roots, each identifier followed by
what is reached from it. -/
structure Traverses (graph : Containment) (listing : List (String × Nat)) : Prop where
  /-- Exactly what is reachable from the roots is listed. -/
  mem_iff : ∀ uid, uid ∈ listing.map Prod.fst ↔ graph.Reachable uid
  /-- Nothing is listed twice. -/
  nodup : (listing.map Prod.fst).Nodup
  /-- The first root comes first. -/
  head : listing.head? = graph.roots.head?.map (·, 0)
  /-- Only roots stand outermost. -/
  root : ∀ uid, (uid, 0) ∈ listing → uid ∈ graph.roots
  /-- Everything else is reached along an edge. -/
  edge : ∀ uid depth, (uid, depth + 1) ∈ listing →
    ∃ outer, ReachedFrom listing depth outer uid ∧ uid ∈ graph.childrenOf outer
  /-- What is reached from one identifier is listed in the order of its edges. -/
  siblings : ∀ outer depth first second,
    ReachedFrom listing depth outer first → ReachedFrom listing depth outer second →
      ((listing.map Prod.fst).idxOf first < (listing.map Prod.fst).idxOf second ↔
        (graph.childrenOf outer).idxOf first < (graph.childrenOf outer).idxOf second)

variable {graph : Containment}

/-! ## What may be listed next -/

/-- An entry may follow a listing: it is a root, or it lies in the last
identifier listed one level further out, and the edges before its own lead to
what is known. -/
def Continues (graph : Containment) (listing : List (String × Nat)) (known : List String) :
    String × Nat → Prop
  | (uid, 0) => uid ∈ graph.roots
  | (uid, depth + 1) => ∃ before outer between,
      listing = before ++ (outer, depth) :: between ∧ (∀ entry ∈ between, depth < entry.2) ∧
        ∃ earlier later, graph.childrenOf outer = earlier ++ uid :: later ∧ earlier ⊆ known

theorem Continues.mono {listing : List (String × Nat)} {known more : List String}
    {entry : String × Nat} (continues : graph.Continues listing known entry)
    (subset : known ⊆ more) : graph.Continues listing more entry := by
  rcases entry with ⟨uid, _ | depth⟩
  · exact continues
  · rcases continues with ⟨before, outer, between, listed, deeper, earlier, later, edges, seen⟩
    exact ⟨before, outer, between, listed, deeper, earlier, later, edges,
      List.Subset.trans seen subset⟩

/-- What is listed meanwhile does not matter if it lies at least as deep. -/
theorem Continues.concat {listing : List (String × Nat)} {known : List String}
    {entry next : String × Nat} (continues : graph.Continues listing known entry)
    (deep : entry.2 ≤ next.2) : graph.Continues (listing ++ [next]) known entry := by
  rcases entry with ⟨uid, _ | depth⟩
  · exact continues
  · rcases continues with ⟨before, outer, between, rfl, deeper, children⟩
    refine ⟨before, outer, between ++ [next], by simp, ?_, children⟩
    intro other member
    rcases List.mem_append.mp member with inside | last
    · exact deeper other inside
    · rw [List.mem_singleton] at last
      subst last
      exact deep

/-- An agenda that continues a listing: each entry may follow once those before
it are known, and none lies deeper than those before it. -/
inductive Waits (graph : Containment) (listing : List (String × Nat)) :
    List String → List (String × Nat) → Prop
  | nil {known : List String} : Waits graph listing known []
  | cons {known : List String} {entry : String × Nat} {agenda : List (String × Nat)} :
      graph.Continues listing known entry → (∀ later ∈ agenda, later.2 ≤ entry.2) →
      Waits graph listing (entry.1 :: known) agenda → Waits graph listing known (entry :: agenda)

namespace Waits

variable {listing agenda : List (String × Nat)} {known more : List String}

theorem mono (waits : graph.Waits listing known agenda) (subset : known ⊆ more) :
    graph.Waits listing more agenda := by
  induction waits generalizing more with
  | nil => exact .nil
  | @cons known entry agenda continues deep _ ih =>
      exact .cons (continues.mono subset) deep (ih (List.cons_subset_cons entry.1 subset))

theorem concat (waits : graph.Waits listing known agenda) {next : String × Nat}
    (deep : ∀ entry ∈ agenda, entry.2 ≤ next.2) :
    graph.Waits (listing ++ [next]) known agenda := by
  induction waits with
  | nil => exact .nil
  | @cons known entry agenda continues shallower _ ih =>
      refine .cons (continues.concat (deep entry List.mem_cons_self)) shallower ?_
      exact ih fun other member => deep other (List.mem_cons_of_mem entry member)

/-- The roots wait at the beginning. -/
theorem roots {roots : List String} (subset : roots ⊆ graph.roots) :
    graph.Waits [] known (roots.map (·, 0)) := by
  induction roots generalizing known with
  | nil => exact .nil
  | cons root rest ih =>
      rw [List.cons_subset] at subset
      refine .cons subset.1 ?_ (ih subset.2)
      intro later member
      obtain ⟨_, _, rfl⟩ := List.mem_map.mp member
      exact Nat.le_refl 0

/-- What lies in the identifier listed last waits before the rest.  The
induction is on the edges not yet followed. -/
theorem children {outer : String} {depth : Nat} {followed pending : List String}
    (edges : graph.childrenOf outer = followed ++ pending) (seen : followed ⊆ known)
    (deep : ∀ entry ∈ agenda, entry.2 ≤ depth)
    (waits : graph.Waits (listing ++ [(outer, depth)]) known agenda) :
    graph.Waits (listing ++ [(outer, depth)]) known (pending.map (·, depth + 1) ++ agenda) := by
  induction pending generalizing followed known with
  | nil => exact waits
  | cons child rest ih =>
      refine .cons ?_ ?_ ?_
      · exact ⟨listing, outer, [], rfl, by simp, followed, rest, edges, seen⟩
      · intro later member
        rcases List.mem_append.mp member with inside | outside
        · obtain ⟨_, _, rfl⟩ := List.mem_map.mp inside
          exact Nat.le_refl (depth + 1)
        · exact Nat.le_succ_of_le (deep later outside)
      · have following : graph.childrenOf outer = (followed ++ [child]) ++ rest := by
          rw [edges, List.append_assoc, List.singleton_append]
        have allSeen : followed ++ [child] ⊆ child :: known := by
          intro uid member
          rcases List.mem_append.mp member with before | last
          · exact List.mem_cons_of_mem child (seen before)
          · exact List.mem_cons.mpr (Or.inl (List.mem_singleton.mp last))
        exact ih following allSeen (waits.mono (List.subset_cons_self child known))

/-- Passing over an identifier that was visited. -/
theorem skip {uid : String} {depth : Nat} (seen : uid ∈ known)
    (waits : graph.Waits listing known ((uid, depth) :: agenda)) :
    graph.Waits listing known agenda := by
  cases waits with
  | cons _ _ rest => exact rest.mono (List.cons_subset.mpr ⟨seen, List.Subset.refl known⟩)

/-- Listing an identifier puts what lies in it before the rest. -/
theorem visit {uid : String} {depth : Nat}
    (waits : graph.Waits listing known ((uid, depth) :: agenda)) :
    graph.Waits (listing ++ [(uid, depth)]) (uid :: known)
      ((graph.childrenOf uid).map (·, depth + 1) ++ agenda) := by
  cases waits with
  | cons _ deep rest =>
      exact children (List.nil_append _).symm (List.nil_subset _) deep (rest.concat deep)

end Waits

/-- Each entry of a visit may follow what is listed before it. -/
theorem continues_of_visit {agenda : List (String × Nat)} {visited : List String}
    {listing : List (String × Nat)} (waits : graph.Waits listing visited agenda)
    {before after : List (String × Nat)} {entry : String × Nat}
    (split : graph.visit agenda visited = before ++ entry :: after) :
    graph.Continues (listing ++ before) (visited ++ before.map Prod.fst) entry := by
  fun_induction visit graph agenda visited generalizing listing before with
  | case1 => simp at split
  | case2 uid depth agenda visited seen ih => exact ih (waits.skip seen) split
  | case3 uid depth agenda visited new ih =>
      cases before with
      | nil =>
          rw [List.nil_append, List.cons.injEq] at split
          rcases split with ⟨rfl, _⟩
          cases waits with
          | cons continues _ _ => simpa using continues
      | cons first before =>
          rw [List.cons_append, List.cons.injEq] at split
          rcases split with ⟨rfl, rest⟩
          have later := ih waits.visit rest
          rw [List.append_assoc, List.singleton_append] at later
          apply later.mono
          rw [List.map_cons]
          exact (List.perm_middle.symm).subset

theorem continues_of_walk {before after : List (String × Nat)} {entry : String × Nat}
    (split : graph.walk = before ++ entry :: after) :
    graph.Continues before (before.map Prod.fst) entry :=
  continues_of_visit (.roots (List.Subset.refl _)) split

/-! ## What is reached from one identifier -/

/-- The last entry that does not lie deeper is the one before all that does. -/
theorem find?_reverse_of_deeper {before between : List (String × Nat)} {outer : String}
    {depth : Nat} (deeper : ∀ entry ∈ between, depth < entry.2) :
    (before ++ (outer, depth) :: between).reverse.find? (fun entry => entry.2 ≤ depth) =
      some (outer, depth) := by
  have passed : between.reverse.find? (fun entry => entry.2 ≤ depth) = none := by
    rw [List.find?_eq_none]
    intro entry member
    simpa using deeper entry (List.mem_reverse.mp member)
  simp [List.find?_append, passed]

/-- The edges of an identifier before the one along which another is reached
lead to what is listed before. -/
theorem exists_edges_of_reachedFrom {outer inner : String} {depth : Nat}
    (reached : ReachedFrom graph.walk depth outer inner) :
    ∃ before after earlier later,
      graph.walk = before ++ (inner, depth + 1) :: after ∧
        graph.childrenOf outer = earlier ++ inner :: later ∧ earlier ⊆ before.map Prod.fst := by
  rcases reached with ⟨before, between, after, listed, deeper⟩
  have split : graph.walk =
      (before ++ (outer, depth) :: between) ++ (inner, depth + 1) :: after := by
    rw [listed, List.append_assoc, List.cons_append]
  rcases continues_of_walk split with
    ⟨other, third, middle, equal, alsoDeeper, earlier, later, edges, seen⟩
  have same : some (outer, depth) = some (third, depth) := by
    rw [← find?_reverse_of_deeper deeper, equal, find?_reverse_of_deeper alsoDeeper]
  cases same
  exact ⟨_, after, earlier, later, split, edges, seen⟩

/-- Of two edges of an identifier, the first leads to what is listed first if
the end of the second is reached along it. -/
theorem idxOf_walk_lt {outer first second : String} {depth : Nat}
    (reached : ReachedFrom graph.walk depth outer second)
    (order : (graph.childrenOf outer).idxOf first < (graph.childrenOf outer).idxOf second) :
    (graph.walk.map Prod.fst).idxOf first < (graph.walk.map Prod.fst).idxOf second := by
  rcases exists_edges_of_reachedFrom reached with
    ⟨before, after, earlier, later, split, edges, seen⟩
  have nodup := graph.nodup_walk
  rw [split, List.map_append, List.map_cons] at nodup ⊢
  have secondNew : second ∉ before.map Prod.fst := fun member =>
    (List.nodup_append.mp nodup).2.2 second member second List.mem_cons_self rfl
  have firstEarlier : first ∈ earlier := by
    by_contra absent
    rw [edges, List.idxOf_append_of_notMem absent,
      List.idxOf_append_of_notMem fun member => secondNew (seen member),
      List.idxOf_cons_self] at order
    omega
  rw [List.idxOf_append_of_mem (seen firstEarlier), List.idxOf_append_of_notMem secondNew,
    List.idxOf_cons_self]
  have := List.idxOf_lt_length_of_mem (seen firstEarlier)
  omega

/-- What is reached from one identifier is listed in the order of its edges. -/
theorem idxOf_walk_lt_iff {outer first second : String} {depth : Nat}
    (firstReached : ReachedFrom graph.walk depth outer first)
    (secondReached : ReachedFrom graph.walk depth outer second) :
    (graph.walk.map Prod.fst).idxOf first < (graph.walk.map Prod.fst).idxOf second ↔
      (graph.childrenOf outer).idxOf first < (graph.childrenOf outer).idxOf second := by
  constructor
  · intro listed
    rcases exists_edges_of_reachedFrom firstReached with ⟨_, _, earlier, later, _, edges, _⟩
    have present : first ∈ graph.childrenOf outer := by simp [edges]
    rcases Nat.lt_trichotomy ((graph.childrenOf outer).idxOf first)
        ((graph.childrenOf outer).idxOf second) with before | same | after
    · exact before
    · rw [(List.idxOf_inj present).mp same] at listed
      exact absurd listed (Nat.lt_irrefl _)
    · exact absurd (idxOf_walk_lt firstReached after) (Nat.lt_asymm listed)
  · exact idxOf_walk_lt secondReached

theorem reachedFrom_of_mem_walk {uid : String} {depth : Nat}
    (member : (uid, depth + 1) ∈ graph.walk) :
    ∃ outer, ReachedFrom graph.walk depth outer uid ∧ uid ∈ graph.childrenOf outer := by
  rcases List.append_of_mem member with ⟨before, after, split⟩
  rcases continues_of_walk split with
    ⟨earlier, outer, between, rfl, deeper, first, rest, edges, _⟩
  refine ⟨outer, ⟨earlier, between, after, ?_, deeper⟩, by simp [edges]⟩
  rw [split, List.append_assoc, List.cons_append]

theorem head?_walk (graph : Containment) :
    graph.walk.head? = graph.roots.head?.map (·, 0) := by
  rw [walk]
  cases graph.roots with
  | nil => simp [visit]
  | cons root rest => simp [visit]

/-! ## Orders that the edges respect -/

/-- One identifier with all that lies in it comes before another with all that
lies in that one. -/
def Precedes (graph : Containment) (before : String → String → Prop) (first second : String) :
    Prop :=
  ∀ entered inFirst, graph.Path first entered inFirst →
    ∀ others inSecond, graph.Path second others inSecond → before inFirst inSecond

/-- Everything a visit lists lies in something on its agenda. -/
theorem exists_path_of_mem_visit (agenda : List (String × Nat)) (visited : List String)
    {entry : String × Nat} (member : entry ∈ graph.visit agenda visited) :
    ∃ start ∈ agenda.map Prod.fst, ∃ entered, graph.Path start entered entry.1 := by
  refine forall_mem_visit
    (fun uid _ => ∃ start ∈ agenda.map Prod.fst, ∃ entered, graph.Path start entered uid)
    ?_ agenda visited ?_ entry member
  · rintro uid _ ⟨start, startMem, entered, path⟩ inner edge
    exact ⟨start, startMem, _, path.step edge⟩
  · intro start startMem
    exact ⟨start.1, List.mem_map.mpr ⟨start, startMem, rfl⟩, [], .here⟩

/-- A visit keeps to an order in which identifiers come before what lies in
them, and the contents of one child before the next child. -/
theorem visit_pairwise {before : String → String → Prop}
    (inward : ∀ outer, ∀ child ∈ graph.childrenOf outer, ∀ entered inner,
      graph.Path child entered inner → before outer inner)
    (children : ∀ outer, (graph.childrenOf outer).Pairwise (graph.Precedes before))
    (agenda : List (String × Nat)) (visited : List String)
    (waiting : (agenda.map Prod.fst).Pairwise (graph.Precedes before)) :
    ((graph.visit agenda visited).map Prod.fst).Pairwise before := by
  fun_induction visit graph agenda visited with
  | case1 => exact List.Pairwise.nil
  | case2 uid depth agenda visited seen ih => exact ih (List.pairwise_cons.mp waiting).2
  | case3 uid depth agenda visited new ih =>
      rw [List.map_cons, List.pairwise_cons] at waiting
      rcases waiting with ⟨beforeRest, rest⟩
      have agendaEq : ((graph.childrenOf uid).map (·, depth + 1) ++ agenda).map Prod.fst =
          graph.childrenOf uid ++ agenda.map Prod.fst := by
        simp [Function.comp_def]
      rw [List.map_cons, List.pairwise_cons]
      constructor
      · intro later laterMem
        rcases List.mem_map.mp laterMem with ⟨entry, entryMem, rfl⟩
        rcases exists_path_of_mem_visit _ _ entryMem with ⟨start, startMem, entered, path⟩
        rw [agendaEq, List.mem_append] at startMem
        rcases startMem with inside | outside
        · exact inward uid start inside entered entry.1 path
        · exact beforeRest start outside [] uid .here entered entry.1 path
      · apply ih
        rw [agendaEq, List.pairwise_append]
        refine ⟨children uid, rest, ?_⟩
        intro child childMem other otherMem entered inChild path
        exact beforeRest other otherMem (child :: entered) inChild (path.cons childMem)

/-! ## Every graph -/

/-- A walk goes through every graph, whatever its edges are. -/
theorem walk_traverses (graph : Containment) : graph.Traverses graph.walk where
  mem_iff := graph.mem_walk_iff
  nodup := graph.nodup_walk
  head := graph.head?_walk
  root uid member := by
    rcases List.append_of_mem member with ⟨before, after, split⟩
    exact continues_of_walk split
  edge _ _ := reachedFrom_of_mem_walk
  siblings _ _ _ _ := idxOf_walk_lt_iff

end ViewOutline.Containment
