import ViewOutline.Kotlin.ParseTree
import Mathlib.Data.List.Lex

/-!
# Searches below a parse tree

A place in a parse tree is named by its address, the positions of the children on
the way to it.  Addresses are ordered as the places stand in the document: a node
comes before everything below it, and what is below one child before the next child.

Two searches go down a tree.  One collects the nodes of a type and does not look
below a node that it collects; the other stops at the first node of the type.  Each
is read off a listing of the places below the tree that goes on below some nodes
only: the first off the listing that goes on below all nodes but those of the type,
the second off the listing that goes on everywhere.  What a listing holds and in
which order is proved once for every choice of where it goes on.
-/

namespace ViewOutline.Kotlin

/-! ## Addresses -/

/-- The positions of the children on the way to a place, outermost first. -/
abbrev Address := List Nat

namespace Address

/-- One place comes before another in the document: it lies around it, or the ways
to them part and the first goes to the earlier child. -/
def Before : Address → Address → Prop :=
  List.Lex (· < ·)

theorem Before.asymm {first second : Address} (before : first.Before second) :
    ¬ second.Before first :=
  (List.Lex.asymm (· < ·)).asymm first second before

/-- A place lies strictly between the top of a tree and another place. -/
structure Between (outer address : Address) : Prop where
  belowTop : outer ≠ []
  encloses : outer <+: address
  proper : outer ≠ address

theorem not_between_singleton (outer : Address) (position : Nat) :
    ¬ outer.Between [position] := by
  rintro ⟨belowTop, encloses, proper⟩
  rcases List.prefix_cons_iff.mp encloses with rfl | ⟨inner, rfl, inside⟩
  · exact belowTop rfl
  · exact proper (by rw [List.prefix_nil.mp inside])

/-- On the way to a place below a child lie the child and what is on the way from
there. -/
theorem between_cons_iff {outer address : Address} {position : Nat} (inside : address ≠ []) :
    outer.Between (position :: address) ↔
      outer = [position] ∨ ∃ inner, outer = position :: inner ∧ Between inner address := by
  constructor
  · rintro ⟨belowTop, encloses, proper⟩
    rcases List.prefix_cons_iff.mp encloses with rfl | ⟨inner, rfl, inChild⟩
    · exact absurd rfl belowTop
    · by_cases child : inner = []
      · exact Or.inl (by rw [child])
      · exact Or.inr ⟨inner, rfl, child, inChild, fun same => proper (by rw [same])⟩
  · rintro (rfl | ⟨inner, rfl, belowTop, encloses, proper⟩)
    · refine ⟨List.cons_ne_nil _ _, (List.prefix_cons_inj position).mpr List.nil_prefix, ?_⟩
      exact fun same => inside (List.cons.inj same).2.symm
    · refine ⟨List.cons_ne_nil _ _, (List.prefix_cons_inj position).mpr encloses, ?_⟩
      exact fun same => proper (List.cons.inj same).2

end Address

namespace ParseTree

/-- The node at an address. -/
def at? : ParseTree → Address → Option ParseTree
  | tree, [] => some tree
  | tree, position :: address => tree.children[position]?.bind (·.at? address)

theorem at?_cons_eq_some_iff (tree : ParseTree) (position : Nat) (address : Address)
    (node : ParseTree) :
    tree.at? (position :: address) = some node ↔
      ∃ child, tree.children[position]? = some child ∧ child.at? address = some node :=
  Option.bind_eq_some_iff

/-- All nodes strictly between the top of a tree and a place pass a test. -/
def Through (tree : ParseTree) (passes : ParseTree → Prop) (address : Address) : Prop :=
  ∀ outer : Address, outer.Between address → ∀ node, tree.at? outer = some node → passes node

theorem through_singleton (tree : ParseTree) (passes : ParseTree → Prop) (position : Nat) :
    tree.Through passes [position] :=
  fun outer between => absurd between (outer.not_between_singleton position)

theorem through_cons_iff {tree child : ParseTree} {passes : ParseTree → Prop} {position : Nat}
    {address : Address} (found : tree.children[position]? = some child)
    (inside : address ≠ []) :
    tree.Through passes (position :: address) ↔ passes child ∧ child.Through passes address := by
  have down : ∀ inner, tree.at? (position :: inner) = child.at? inner := by
    intro inner
    rw [at?, found, Option.bind_some]
  simp only [Through, Address.between_cons_iff inside]
  constructor
  · intro through
    refine ⟨through [position] (Or.inl rfl) child (down []), ?_⟩
    intro inner between node stands
    exact through _ (Or.inr ⟨inner, rfl, between⟩) node ((down inner).trans stands)
  · rintro ⟨here, further⟩ outer (rfl | ⟨inner, rfl, between⟩) node stands
    · rw [down [], at?, Option.some.injEq] at stands
      exact stands ▸ here
    · exact further inner between node ((down inner).symm.trans stands)

/-! ## Listings -/

/-- A place: its address and the node that stands there. -/
abbrev Place := Address × ParseTree

/-- A place below a child, seen from the tree. -/
def Place.inChild (position : Nat) (place : Place) : Place :=
  (position :: place.1, place.2)

/-- Places in the order of the document. -/
def Place.InOrder (places : List Place) : Prop :=
  places.Pairwise fun first second => first.1.Before second.1

/-- Places in order are all different. -/
theorem Place.InOrder.nodup {places : List Place} (ordered : Place.InOrder places) :
    places.Nodup := by
  apply ordered.imp
  rintro place _ before rfl
  exact before.asymm before

/-- The place of a child, and places below it seen from the tree. -/
def childPlaces (position : Nat) (child : ParseTree) (inside : List Place) : List Place :=
  ([position], child) :: inside.map (Place.inChild position)

mutual

/-- The places below a tree, parents before children.  The listing goes on below
the nodes that are entered only. -/
def placesBelow (enters : ParseTree → Bool) : ParseTree → List Place
  | ⟨_, _, _, _, children, _, _, _⟩ => placesFrom enters 0 children

/-- The places of some children from a position on, and those below them. -/
def placesFrom (enters : ParseTree → Bool) : Nat → List ParseTree → List Place
  | _, [] => []
  | position, child :: rest =>
      childPlaces position child (if enters child then placesBelow enters child else []) ++
        placesFrom enters (position + 1) rest

end

variable {enters : ParseTree → Bool}

theorem placesFrom_eq (enters : ParseTree → Bool) (position : Nat) (trees : List ParseTree) :
    placesFrom enters position trees =
      (trees.zipIdx position).flatMap fun entry => childPlaces entry.2 entry.1
        (if enters entry.1 then entry.1.placesBelow enters else []) := by
  induction trees generalizing position with
  | nil => rfl
  | cons child rest ih =>
      rw [placesFrom, ih (position + 1)]
      rfl

theorem placesBelow_eq (enters : ParseTree → Bool) (tree : ParseTree) :
    tree.placesBelow enters =
      tree.children.zipIdx.flatMap fun entry => childPlaces entry.2 entry.1
        (if enters entry.1 then entry.1.placesBelow enters else []) := by
  cases tree
  exact placesFrom_eq enters 0 _

/-! ## What is listed -/

theorem mem_childPlaces_iff (position : Nat) (child : ParseTree) (inside : List Place)
    (place : Place) :
    place ∈ childPlaces position child inside ↔
      place = ([position], child) ∨ ∃ inner ∈ inside, inner.inChild position = place := by
  rw [childPlaces, List.mem_cons, List.mem_map]

/-- All that is listed for a child lies at its position. -/
theorem exists_cons_of_mem_childPlaces {position : Nat} {child : ParseTree}
    {inside : List Place} {place : Place} (listed : place ∈ childPlaces position child inside) :
    ∃ address, place.1 = position :: address := by
  rcases (mem_childPlaces_iff position child inside place).mp listed with rfl | ⟨inner, _, rfl⟩
  · exact ⟨[], rfl⟩
  · exact ⟨inner.1, rfl⟩

theorem nil_not_mem_placesBelow (tree node : ParseTree) :
    ([], node) ∉ tree.placesBelow enters := by
  intro listed
  rw [placesBelow_eq, List.mem_flatMap] at listed
  rcases listed with ⟨entry, _, inside⟩
  rcases exists_cons_of_mem_childPlaces inside with ⟨address, starts⟩
  cases starts

theorem cons_mem_placesBelow_iff (tree : ParseTree) (position : Nat) (address : Address)
    (node : ParseTree) :
    (position :: address, node) ∈ tree.placesBelow enters ↔
      ∃ child, tree.children[position]? = some child ∧
        (address = [] ∧ node = child ∨
          enters child = true ∧ (address, node) ∈ child.placesBelow enters) := by
  simp only [placesBelow_eq enters tree, List.mem_flatMap, mem_childPlaces_iff,
    List.mem_ite_nil_right, Place.inChild, Prod.mk.injEq, List.cons.injEq]
  constructor
  · rintro ⟨entry, member, ⟨⟨rfl, rfl⟩, rfl⟩ | ⟨inner, ⟨entered, listed⟩, ⟨rfl, rfl⟩, rfl⟩⟩
    · exact ⟨_, List.mem_zipIdx_iff_getElem?.mp member, Or.inl ⟨rfl, rfl⟩⟩
    · exact ⟨_, List.mem_zipIdx_iff_getElem?.mp member, Or.inr ⟨entered, listed⟩⟩
  · rintro ⟨child, found, ⟨rfl, rfl⟩ | ⟨entered, listed⟩⟩
    · exact ⟨(node, position), List.mem_zipIdx_iff_getElem?.mpr found, Or.inl ⟨⟨rfl, rfl⟩, rfl⟩⟩
    · exact ⟨(child, position), List.mem_zipIdx_iff_getElem?.mpr found,
        Or.inr ⟨(address, node), ⟨entered, listed⟩, ⟨rfl, rfl⟩, rfl⟩⟩

/-- Listed are the places below the tree that are reached through entered nodes. -/
theorem mem_placesBelow_iff (tree : ParseTree) (address : Address) (node : ParseTree) :
    (address, node) ∈ tree.placesBelow enters ↔
      address ≠ [] ∧ tree.at? address = some node ∧
        tree.Through (fun outer => enters outer = true) address := by
  induction address generalizing tree with
  | nil => simp [nil_not_mem_placesBelow]
  | cons position address ih =>
      simp only [cons_mem_placesBelow_iff, at?_cons_eq_some_iff]
      by_cases direct : address = []
      · -- Nothing lies between the tree and a child of it.
        subst direct
        constructor
        · rintro ⟨child, found, ⟨_, rfl⟩ | ⟨_, listed⟩⟩
          · exact ⟨List.cons_ne_nil _ _, ⟨node, found, rfl⟩, tree.through_singleton _ position⟩
          · exact absurd listed (nil_not_mem_placesBelow child node)
        · rintro ⟨_, ⟨child, found, stands⟩, _⟩
          cases stands
          exact ⟨node, found, Or.inl ⟨rfl, rfl⟩⟩
      · constructor
        · rintro ⟨child, found, ⟨rfl, _⟩ | ⟨entered, listed⟩⟩
          · exact absurd rfl direct
          · rcases (ih child).mp listed with ⟨_, stands, further⟩
            exact ⟨List.cons_ne_nil _ _, ⟨child, found, stands⟩,
              (through_cons_iff found direct).mpr ⟨entered, further⟩⟩
        · rintro ⟨_, ⟨child, found, stands⟩, through⟩
          rcases (through_cons_iff found direct).mp through with ⟨entered, further⟩
          exact ⟨child, found, Or.inr ⟨entered, (ih child).mpr ⟨direct, stands, further⟩⟩⟩

/-! ## In which order -/

/-- Induction on a tree from its children. -/
theorem children_induction {motive : ParseTree → Prop} (tree : ParseTree)
    (step : ∀ tree : ParseTree, (∀ child ∈ tree.children, motive child) → motive tree) :
    motive tree := by
  apply step
  intro child member
  exact children_induction child step
termination_by sizeOf tree
decreasing_by exact sizeOf_lt_of_mem_children member

theorem childPlaces_ordered (position : Nat) (child : ParseTree) {inside : List Place}
    (proper : ∀ node, ([], node) ∉ inside) (ordered : Place.InOrder inside) :
    Place.InOrder (childPlaces position child inside) := by
  rw [childPlaces, Place.InOrder, List.pairwise_cons, List.pairwise_map]
  constructor
  · intro place member
    rcases List.mem_map.mp member with ⟨⟨address, node⟩, listed, rfl⟩
    cases address with
    | nil => exact absurd listed (proper node)
    | cons => exact List.Lex.cons List.Lex.nil
  · exact ordered.imp fun before => List.Lex.cons before

/-- A listing keeps to the order of the document. -/
theorem placesBelow_ordered (enters : ParseTree → Bool) (tree : ParseTree) :
    Place.InOrder (tree.placesBelow enters) := by
  induction tree using children_induction with
  | step tree ih =>
      have increasing : (tree.children.zipIdx.map Prod.snd).Pairwise (· < ·) := by
        rw [List.zipIdx_map_snd]
        exact List.pairwise_lt_range'
      rw [placesBelow_eq, Place.InOrder, List.pairwise_flatMap]
      constructor
      · rintro ⟨child, position⟩ member
        have found := List.mem_zipIdx_iff_getElem?.mp member
        apply childPlaces_ordered
        · intro node listed
          exact nil_not_mem_placesBelow child node (List.mem_ite_nil_right.mp listed).2
        · split
          · exact ih child (List.mem_of_getElem? found)
          · exact List.Pairwise.nil
      · -- What is listed for two children parts at their positions.
        apply (List.pairwise_map.mp increasing).imp
        rintro ⟨child, position⟩ ⟨other, later⟩ less ⟨address, node⟩ listed ⟨second, _⟩ otherListed
        rcases exists_cons_of_mem_childPlaces listed with ⟨inChild, rfl⟩
        rcases exists_cons_of_mem_childPlaces otherListed with ⟨inOther, rfl⟩
        exact List.Lex.rel less

/-! ## Nodes in document order -/

/-- Places that are chosen by a condition, all of them, in document order. -/
structure Enumerates (tree : ParseTree) (chosen : Address → ParseTree → Prop)
    (places : List Place) : Prop where
  mem_iff : ∀ address node,
    (address, node) ∈ places ↔ tree.at? address = some node ∧ chosen address node
  ordered : Place.InOrder places

/-- A condition leaves no choice of how to list its places. -/
theorem Enumerates.unique {tree : ParseTree} {chosen : Address → ParseTree → Prop}
    {places others : List Place} (first : tree.Enumerates chosen places)
    (second : tree.Enumerates chosen others) : places = others := by
  have perm : places.Perm others := by
    rw [List.perm_ext_iff_of_nodup first.ordered.nodup second.ordered.nodup]
    rintro ⟨address, node⟩
    rw [first.mem_iff, second.mem_iff]
  refine List.Perm.eq_of_pairwise ?_ first.ordered second.ordered perm
  intro place other _ _ before after
  exact absurd after before.asymm

/-- The nodes at the chosen places, in document order. -/
def Shows (tree : ParseTree) (chosen : Address → ParseTree → Prop) (nodes : List ParseTree) :
    Prop :=
  ∃ places, tree.Enumerates chosen places ∧ nodes = places.map Prod.snd

/-- A place below a tree. -/
def IsBelow (address : Address) (_ : ParseTree) : Prop :=
  address ≠ []

/-- A node of a type below a tree with no node of the type strictly between the two. -/
def IsOutermost (tree : ParseTree) (type : String) (address : Address) (node : ParseTree) :
    Prop :=
  address ≠ [] ∧ node.type = type ∧ tree.Through (fun outer => outer.type ≠ type) address

theorem enumerates_placesBelow (tree : ParseTree) :
    tree.Enumerates IsBelow (tree.placesBelow fun _ => true) where
  mem_iff address node := by
    rw [mem_placesBelow_iff, IsBelow]
    simp [Through, and_comm]
  ordered := placesBelow_ordered _ tree

theorem enumerates_outermost (tree : ParseTree) (type : String) :
    tree.Enumerates (tree.IsOutermost type)
      ((tree.placesBelow (·.type != type)).filter (·.2.type == type)) where
  mem_iff address node := by
    rw [List.mem_filter, mem_placesBelow_iff, IsOutermost]
    simp only [bne_iff_ne, beq_iff_eq]
    constructor
    · rintro ⟨⟨proper, stands, through⟩, same⟩
      exact ⟨stands, proper, same, through⟩
    · rintro ⟨stands, proper, same, through⟩
      exact ⟨⟨proper, stands, through⟩, same⟩
  ordered := List.Pairwise.filter _ (placesBelow_ordered _ tree)

/-! ## The searches and their listings -/

theorem map_snd_placesFrom_cons (enters : ParseTree → Bool) (position : Nat) (child : ParseTree)
    (rest : List ParseTree) :
    (placesFrom enters position (child :: rest)).map Prod.snd =
      child :: ((if enters child then placesBelow enters child else []).map Prod.snd ++
        (placesFrom enters (position + 1) rest).map Prod.snd) := by
  rw [placesFrom, List.map_append, childPlaces, List.map_cons, List.map_map]
  rfl

mutual

/-- The collected nodes are those of the type in the listing that stops at them. -/
theorem descendants_eq_filter (type : String) :
    ∀ tree : ParseTree, descendants type tree =
      ((placesBelow (·.type != type) tree).map Prod.snd).filter (·.type == type)
  | ⟨_, _, _, _, children, _, _, _⟩ => descendantsAmong_eq_filter type 0 children

theorem descendantsAmong_eq_filter (type : String) :
    ∀ (position : Nat) (trees : List ParseTree), descendantsAmong type trees =
      ((placesFrom (·.type != type) position trees).map Prod.snd).filter (·.type == type)
  | _, [] => rfl
  | position, child :: rest => by
      have inside := descendants_eq_filter type child
      have later := descendantsAmong_eq_filter type (position + 1) rest
      rw [descendantsAmong, map_snd_placesFrom_cons, inside, later]
      by_cases same : child.type = type
      · -- The child is collected, and the listing does not go on below it.
        simp [same]
      · simp [same]

end

mutual

/-- The node that is found is the first of the type in the listing of everything. -/
theorem find?_eq_find?_placesBelow (type : String) :
    ∀ tree : ParseTree, find? type tree =
      ((placesBelow (fun _ => true) tree).map Prod.snd).find? (·.type == type)
  | ⟨_, _, _, _, children, _, _, _⟩ => findAmong?_eq_find?_placesFrom type 0 children

theorem findAmong?_eq_find?_placesFrom (type : String) :
    ∀ (position : Nat) (trees : List ParseTree), findAmong? type trees =
      ((placesFrom (fun _ => true) position trees).map Prod.snd).find? (·.type == type)
  | _, [] => rfl
  | position, child :: rest => by
      have inside := find?_eq_find?_placesBelow type child
      have later := findAmong?_eq_find?_placesFrom type (position + 1) rest
      rw [findAmong?, map_snd_placesFrom_cons, inside, later, List.find?_cons, List.find?_append,
        if_pos rfl]
      by_cases same : child.type = type
      · simp [same]
      · rw [if_neg same, beq_false_of_ne same]
        cases ((placesBelow (fun _ => true) child).map Prod.snd).find? (·.type == type) <;> rfl

end

mutual

/-- The first node of a type is the first of the outermost ones. -/
theorem find?_eq_head? (type : String) :
    ∀ tree : ParseTree, find? type tree = (descendants type tree).head?
  | ⟨_, _, _, _, children, _, _, _⟩ => findAmong?_eq_head? type children

theorem findAmong?_eq_head? (type : String) :
    ∀ trees : List ParseTree, findAmong? type trees = (descendantsAmong type trees).head?
  | [] => rfl
  | tree :: rest => by
      rw [findAmong?, descendantsAmong, find?_eq_head? type tree, findAmong?_eq_head? type rest]
      split
      · rfl
      · rw [List.head?_append]
        cases (descendants type tree).head? <;> rfl

end

/-! ## Every tree -/

/-- The two searches for a type below a tree agree with each other and with the
order of the document. -/
structure SearchesAgree (tree : ParseTree) (type : String) : Prop where
  /-- Collected are exactly the outermost nodes of the type, in document order. -/
  descendants_iff : ∀ nodes,
    nodes = tree.descendants type ↔ tree.Shows (tree.IsOutermost type) nodes
  /-- The node that is found is the first of those collected. -/
  find?_head : tree.find? type = (tree.descendants type).head?
  /-- Nothing is found exactly if nothing is collected. -/
  find?_none : tree.find? type = none ↔ tree.descendants type = []
  /-- The node that is found is the first of the type among all nodes below. -/
  find?_first : ∃ nodes, tree.Shows IsBelow nodes ∧
    tree.find? type = nodes.find? (·.type == type)

/-- The searches agree below every tree. -/
theorem searches_agree (tree : ParseTree) (type : String) : tree.SearchesAgree type where
  descendants_iff nodes := by
    have enumerated := tree.enumerates_outermost type
    have collected : tree.descendants type =
        ((tree.placesBelow (·.type != type)).filter (·.2.type == type)).map Prod.snd :=
      (descendants_eq_filter type tree).trans List.filter_map
    constructor
    · rintro rfl
      exact ⟨_, enumerated, collected⟩
    · rintro ⟨places, listed, rfl⟩
      rw [listed.unique enumerated, collected]
  find?_head := find?_eq_head? type tree
  find?_none := by rw [find?_eq_head?, List.head?_eq_none_iff]
  find?_first :=
    ⟨_, ⟨_, tree.enumerates_placesBelow, rfl⟩, find?_eq_find?_placesBelow type tree⟩

end ParseTree

end ViewOutline.Kotlin
