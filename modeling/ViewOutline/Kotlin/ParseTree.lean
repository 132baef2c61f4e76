import ViewOutline.Text.Blank
import ViewOutline.Text.Utf8

/-!
# Parse trees

A parse tree is what a concrete-syntax parser delivers: every node has a type,
a span of source bytes and children, some of which are tokens without a name.
Trees need not be well formed; searches and texts are defined on all of them.

The size of a tree bounds every walk downwards: whatever a search finds in the
children is smaller than the tree.
-/

namespace ViewOutline.Kotlin

/-- A node of a parse tree.  A field points to a child by its position. -/
structure ParseTree where
  type : String
  named : Bool
  start : Nat
  stop : Nat
  children : List ParseTree
  nameField : Option Nat
  leftField : Option Nat
  rightField : Option Nat

namespace ParseTree

instance : Inhabited ParseTree :=
  ⟨⟨"", false, 0, 0, [], none, none, none⟩⟩

/-! ## Looking at the children -/

/-- Whether a type is that of a comment. -/
def isCommentType (type : String) : Bool :=
  type == "line_comment" || type == "block_comment"

/-- Whether a node is a comment. -/
def isComment (tree : ParseTree) : Bool :=
  isCommentType tree.type

/-- Whether a child counts: it has a name and is no comment. -/
def counts (tree : ParseTree) : Bool :=
  tree.named && !tree.isComment

/-- The children that count. -/
def namedChildren (tree : ParseTree) : List ParseTree :=
  tree.children.filter counts

/-- The first child of a type. -/
def child? (tree : ParseTree) (type : String) : Option ParseTree :=
  tree.children.find? (·.type == type)

/-- Whether some child is of a type. -/
def hasChild (tree : ParseTree) (type : String) : Bool :=
  tree.children.any (·.type == type)

/-- The first child of one of some types. -/
def firstOf? (tree : ParseTree) (types : List String) : Option ParseTree :=
  tree.children.find? fun child => types.contains child.type

/-- The child a field points to. -/
def atField? (tree : ParseTree) (field : Option Nat) : Option ParseTree :=
  field.bind fun index => tree.children[index]?

/-- The first child that counts after a token. -/
def afterToken? (tree : ParseTree) (token : String) : Option ParseTree :=
  (tree.children.dropWhile fun child => child.named || child.type != token).find? counts

/-- Whether a token is among the children. -/
def hasToken (tree : ParseTree) (token : String) : Bool :=
  tree.children.any fun child => !child.named && child.type == token

/-! ## Looking further down -/

mutual

/-- The first node of a type below a tree, parents before children. -/
def find? (type : String) : ParseTree → Option ParseTree
  | ⟨_, _, _, _, children, _, _, _⟩ => findAmong? type children

/-- The first node of a type in a list of trees. -/
def findAmong? (type : String) : List ParseTree → Option ParseTree
  | [] => none
  | child :: rest =>
      if child.type = type then some child
      else
        match find? type child with
        | some found => some found
        | none => findAmong? type rest

end

mutual

/-- The nodes of a type below a tree, in order.  What lies below such a node is
not searched. -/
def descendants (type : String) : ParseTree → List ParseTree
  | ⟨_, _, _, _, children, _, _, _⟩ => descendantsAmong type children

/-- The outermost nodes of a type in a list of trees. -/
def descendantsAmong (type : String) : List ParseTree → List ParseTree
  | [] => []
  | child :: rest =>
      if child.type = type then child :: descendantsAmong type rest
      else descendants type child ++ descendantsAmong type rest

end

/-! ## Sizes -/

theorem sizeOf_children_lt (tree : ParseTree) : sizeOf tree.children < sizeOf tree := by
  cases tree
  simp only [mk.sizeOf_spec]
  omega

/-- The empty list is smaller than every tree. -/
theorem sizeOf_nil_lt (tree : ParseTree) : sizeOf ([] : List ParseTree) < sizeOf tree := by
  have children := tree.sizeOf_children_lt
  have positive : 1 ≤ sizeOf tree.children := by
    cases tree.children with
    | nil => simp
    | cons child rest => simp only [List.cons.sizeOf_spec]; omega
  simp only [List.nil.sizeOf_spec]
  omega

/-- What is in a list of trees is smaller than the list. -/
theorem sizeOf_lt_of_mem {tree : ParseTree} {trees : List ParseTree} (member : tree ∈ trees) :
    sizeOf tree < sizeOf trees :=
  List.sizeOf_lt_of_mem member

/-- A child is smaller than its tree. -/
theorem sizeOf_lt_of_mem_children {child tree : ParseTree} (member : child ∈ tree.children) :
    sizeOf child < sizeOf tree :=
  Nat.lt_trans (sizeOf_lt_of_mem member) tree.sizeOf_children_lt

theorem sizeOf_filter_le (p : ParseTree → Bool) (trees : List ParseTree) :
    sizeOf (trees.filter p) ≤ sizeOf trees := by
  induction trees with
  | nil => simp
  | cons tree rest ih =>
      by_cases holds : p tree = true
      · rw [List.filter_cons_of_pos holds]
        simp only [List.cons.sizeOf_spec]
        omega
      · rw [List.filter_cons_of_neg holds]
        simp only [List.cons.sizeOf_spec]
        omega

theorem sizeOf_namedChildren_lt (tree : ParseTree) :
    sizeOf tree.namedChildren < sizeOf tree :=
  Nat.lt_of_le_of_lt (sizeOf_filter_le counts tree.children) tree.sizeOf_children_lt

/-- A child that counts is smaller than its tree. -/
theorem sizeOf_lt_of_mem_namedChildren {child tree : ParseTree}
    (member : child ∈ tree.namedChildren) : sizeOf child < sizeOf tree :=
  sizeOf_lt_of_mem_children (List.mem_filter.mp member).1

theorem sizeOf_child?_lt {tree child : ParseTree} {type : String}
    (found : tree.child? type = some child) : sizeOf child < sizeOf tree :=
  sizeOf_lt_of_mem_children (List.mem_of_find?_eq_some found)

theorem sizeOf_atField?_lt {tree child : ParseTree} {field : Option Nat}
    (found : tree.atField? field = some child) : sizeOf child < sizeOf tree := by
  cases field with
  | none => simp [atField?] at found
  | some index => exact sizeOf_lt_of_mem_children (List.mem_of_getElem? found)

/-- What follows a token, if anything, is smaller than the tree. -/
theorem sizeOf_afterToken?_option_lt (tree : ParseTree) (token : String) :
    sizeOf (tree.afterToken? token) < sizeOf tree := by
  cases found : tree.afterToken? token with
  | none =>
      have bound := tree.sizeOf_nil_lt
      simpa using bound
  | some child =>
      have member : child ∈ tree.children :=
        (List.dropWhile_sublist _).mem (List.mem_of_find?_eq_some found)
      have inChildren := sizeOf_lt_of_mem member
      have inTree := tree.sizeOf_children_lt
      simp only [Option.some.sizeOf_spec]
      omega

theorem sizeOf_append_add_one (first second : List ParseTree) :
    sizeOf (first ++ second) + 1 = sizeOf first + sizeOf second := by
  induction first with
  | nil => simp only [List.nil_append, List.nil.sizeOf_spec]; omega
  | cons tree rest ih =>
      simp only [List.cons_append, List.cons.sizeOf_spec]
      omega

mutual

/-- The descendants of a type are together smaller than the tree. -/
theorem sizeOf_descendants_lt (type : String) :
    ∀ tree : ParseTree, sizeOf (descendants type tree) < sizeOf tree
  | ⟨_, _, _, _, children, _, _, _⟩ => by
      have bound := sizeOf_descendantsAmong_le type children
      simp only [descendants, mk.sizeOf_spec]
      omega

/-- The outermost nodes of a type are together no larger than the list. -/
theorem sizeOf_descendantsAmong_le (type : String) :
    ∀ trees : List ParseTree, sizeOf (descendantsAmong type trees) ≤ sizeOf trees
  | [] => by simp [descendantsAmong]
  | child :: rest => by
      have restBound := sizeOf_descendantsAmong_le type rest
      rw [descendantsAmong]
      split
      · simp only [List.cons.sizeOf_spec]
        omega
      · have childBound := sizeOf_descendants_lt type child
        have joined := sizeOf_append_add_one (descendants type child)
          (descendantsAmong type rest)
        simp only [List.cons.sizeOf_spec]
        omega

end

/-! ## Wrappers -/

/-- The types of nodes that only pass on their single child. -/
def wrapperTypes : List String :=
  ["statement", "declaration", "expression", "primary_expression", "class_member_declaration"]

/-- The node inside the wrappers: a wrapper with exactly one child that counts
gives way to that child. -/
def unwrap (tree : ParseTree) : ParseTree :=
  if wrapperTypes.contains tree.type then
    match _single : tree.namedChildren with
    | [child] => unwrap child
    | _ => tree
  else tree
termination_by sizeOf tree
decreasing_by exact sizeOf_lt_of_mem_namedChildren (_single ▸ List.mem_singleton_self child)

theorem sizeOf_unwrap_le (tree : ParseTree) : sizeOf tree.unwrap ≤ sizeOf tree := by
  fun_induction unwrap tree with
  | case1 tree _ child only ih =>
      have smaller : sizeOf child < sizeOf tree :=
        sizeOf_lt_of_mem_namedChildren (only ▸ List.mem_singleton_self child)
      omega
  | case2 => exact Nat.le_refl _
  | case3 => exact Nat.le_refl _

end ParseTree

/-! ## Source texts -/

/-- The bytes of a file. -/
abbrev Source := List UInt8

/-- The position in some bytes that an offset means: a negative offset counts
from the end, and no offset leads outside. -/
def position (size : Nat) (offset : Int) : Nat :=
  if offset < 0 then (offset + size).toNat else min offset.toNat size

/-- The bytes between two offsets. -/
def slice (bytes : Source) (first last : Int) : Source :=
  let first := position bytes.length first
  let last := position bytes.length last
  (bytes.drop first).take (last - first)

namespace ParseTree

/-- The bytes of a node. -/
def bytes (source : Source) (tree : ParseTree) : Source :=
  slice source tree.start tree.stop

/-- The text of a node. -/
def chars (source : Source) (tree : ParseTree) : List Char :=
  Text.Utf8.decodeLossy (tree.bytes source)

/-- The text of a node. -/
def text (source : Source) (tree : ParseTree) : String :=
  String.ofList (tree.chars source)

/-- The text between two children of a node, without the blanks around it. -/
def between (source : Source) (parent left right : ParseTree) : String :=
  let gap := slice (parent.bytes source) ((left.stop : Int) - parent.start)
    ((right.start : Int) - parent.start)
  String.ofList (Text.trim Text.isBlank (Text.Utf8.decodeLossy gap))

end ParseTree

end ViewOutline.Kotlin
