import ViewOutline.Kotlin.Shape
import ViewOutline.Proofs.Kotlin.Search
import Mathlib.Data.List.TakeDrop
import Mathlib.Logic.Relation

/-!
# Comments in parse trees

Comments may stand anywhere among the children of a node.  A tree without its
comments shows everything that is looked for in the tree: every search passes over
comments, as long as comments hold nothing but comments and no field points to one.

Two trees that differ in comments only have the same tree without comments.
-/

namespace ViewOutline.Kotlin.ParseTree

/-! ## Trees without their comments -/

/-- Whether a node is no comment. -/
def isCode (tree : ParseTree) : Bool :=
  !tree.isComment

/-- Where a field points to once the comments are gone. -/
def bareField (children : List ParseTree) (field : Option Nat) : Option Nat :=
  field.map fun index => (children.take index).countP isCode

mutual

/-- A tree without the comments in it.  A field points to the same child as
before. -/
def bare : ParseTree → ParseTree
  | ⟨type, named, start, stop, children, nameField, leftField, rightField⟩ =>
      ⟨type, named, start, stop, bareAll children, bareField children nameField,
        bareField children leftField, bareField children rightField⟩

/-- Trees without their comments, and without those that are comments. -/
def bareAll : List ParseTree → List ParseTree
  | [] => []
  | child :: rest => if child.isCode then bare child :: bareAll rest else bareAll rest

end

theorem bareAll_eq (trees : List ParseTree) : bareAll trees = (trees.filter isCode).map bare := by
  induction trees with
  | nil => rfl
  | cons tree rest ih =>
      rw [bareAll, ih]
      cases kind : tree.isCode <;> simp [kind]

@[simp]
theorem type_bare (tree : ParseTree) : tree.bare.type = tree.type := by
  cases tree
  rfl

@[simp]
theorem named_bare (tree : ParseTree) : tree.bare.named = tree.named := by
  cases tree
  rfl

@[simp]
theorem start_bare (tree : ParseTree) : tree.bare.start = tree.start := by
  cases tree
  rfl

@[simp]
theorem stop_bare (tree : ParseTree) : tree.bare.stop = tree.stop := by
  cases tree
  rfl

theorem children_bare (tree : ParseTree) :
    tree.bare.children = (tree.children.filter isCode).map bare := by
  cases tree
  exact bareAll_eq _

@[simp]
theorem counts_bare (tree : ParseTree) : tree.bare.counts = tree.counts := by
  simp [counts, isComment]

@[simp]
theorem text_bare (source : Source) (tree : ParseTree) :
    tree.bare.text source = tree.text source := by
  simp [text, chars, bytes]

@[simp]
theorem chars_bare (source : Source) (tree : ParseTree) :
    tree.bare.chars source = tree.chars source := by
  simp [chars, bytes]

@[simp]
theorem between_bare (source : Source) (parent left right : ParseTree) :
    between source parent.bare left.bare right.bare = between source parent left right := by
  simp [between, bytes]

/-! ## What is looked for among the children -/

/-- A test that comments do not pass, and that does not look inside. -/
structure SeesCode (test : ParseTree → Bool) : Prop where
  shallow : ∀ tree : ParseTree, test tree.bare = test tree
  code : ∀ tree : ParseTree, test tree = true → tree.isCode = true

theorem seesCode_counts : SeesCode counts where
  shallow := counts_bare
  code _ counted := (Bool.and_eq_true_iff.mp counted).2

theorem seesCode_type {type : String} (noComment : isCommentType type = false) :
    SeesCode fun tree => tree.type == type where
  shallow tree := by rw [type_bare]
  code tree equal := by
    rw [beq_iff_eq] at equal
    subst equal
    rw [isCode, isComment, noComment]
    rfl

theorem seesCode_types {types : List String} (noComment : types.any isCommentType = false) :
    SeesCode fun tree => types.contains tree.type where
  shallow tree := by rw [type_bare]
  code tree member := by
    rw [List.any_eq_false] at noComment
    have other := noComment tree.type (List.contains_iff_mem.mp member)
    simpa [isCode, isComment] using other

variable {test : ParseTree → Bool}

theorem SeesCode.filter (sees : SeesCode test) (trees : List ParseTree) :
    ((trees.filter isCode).map bare).filter test = (trees.filter test).map bare := by
  rw [List.filter_map, List.filter_filter]
  congr 1
  apply List.filter_congr
  intro tree _
  rw [Function.comp_apply, sees.shallow]
  cases passes : test tree with
  | false => rfl
  | true => exact sees.code tree passes

theorem SeesCode.find? (sees : SeesCode test) (trees : List ParseTree) :
    ((trees.filter isCode).map bare).find? test = (trees.find? test).map bare := by
  rw [← List.head?_filter, sees.filter, List.head?_map, List.head?_filter]

theorem SeesCode.any (sees : SeesCode test) (trees : List ParseTree) :
    ((trees.filter isCode).map bare).any test = trees.any test := by
  rw [← List.isSome_find?, sees.find?, Option.isSome_map, List.isSome_find?]

@[simp]
theorem namedChildren_bare (tree : ParseTree) :
    tree.bare.namedChildren = tree.namedChildren.map bare := by
  rw [namedChildren, children_bare, seesCode_counts.filter, namedChildren]

theorem child?_bare (tree : ParseTree) {type : String} (noComment : isCommentType type = false) :
    tree.bare.child? type = (tree.child? type).map bare := by
  rw [child?, children_bare, (seesCode_type noComment).find?, child?]

theorem hasChild_bare (tree : ParseTree) {type : String}
    (noComment : isCommentType type = false) : tree.bare.hasChild type = tree.hasChild type := by
  rw [hasChild, children_bare, (seesCode_type noComment).any, hasChild]

theorem firstOf?_bare (tree : ParseTree) {types : List String}
    (noComment : types.any isCommentType = false) :
    tree.bare.firstOf? types = (tree.firstOf? types).map bare := by
  rw [firstOf?, children_bare, (seesCode_types noComment).find?, firstOf?]

theorem hasToken_bare (tree : ParseTree) {token : String}
    (noComment : isCommentType token = false) :
    tree.bare.hasToken token = tree.hasToken token := by
  have sees : SeesCode fun child => !child.named && child.type == token := by
    constructor
    · intro child
      rw [named_bare, type_bare]
    · intro child passes
      exact (seesCode_type noComment).code child (Bool.and_eq_true_iff.mp passes).2
  rw [hasToken, children_bare, sees.any, hasToken]

/-! ## What stands before and after a child -/

/-- What is not kept passes the test, so that it does not matter for where the test
fails first. -/
private theorem takeWhile_filter {α : Type} {keep test : α → Bool}
    (kept : ∀ a, test a = false → keep a = true) (list : List α) :
    (list.filter keep).takeWhile test = (list.takeWhile test).filter keep := by
  induction list with
  | nil => rfl
  | cons a rest ih =>
      cases tested : test a with
      | false => simp [kept a tested, tested]
      | true => cases keeps : keep a <;> simp [keeps, tested, ih]

private theorem dropWhile_filter {α : Type} {keep test : α → Bool}
    (kept : ∀ a, test a = false → keep a = true) (list : List α) :
    (list.filter keep).dropWhile test = (list.dropWhile test).filter keep := by
  induction list with
  | nil => rfl
  | cons a rest ih =>
      cases tested : test a with
      | false => simp [kept a tested, tested]
      | true => cases keeps : keep a <;> simp [keeps, tested, ih]

/-- The first that fails the test is kept. -/
private theorem tail_dropWhile_filter {α : Type} {keep test : α → Bool}
    (kept : ∀ a, test a = false → keep a = true) (list : List α) :
    ((list.filter keep).dropWhile test).drop 1 = ((list.dropWhile test).drop 1).filter keep := by
  rw [dropWhile_filter kept]
  have head := List.head?_dropWhile_not test list
  cases rest : list.dropWhile test with
  | nil => rfl
  | cons a others =>
      rw [rest, List.head?_cons] at head
      simp [kept a head]

theorem afterToken?_bare (tree : ParseTree) {token : String}
    (noComment : isCommentType token = false) :
    tree.bare.afterToken? token = (tree.afterToken? token).map bare := by
  have kept : ∀ child : ParseTree, (child.named || child.type != token) = false →
      child.isCode = true := by
    intro child isToken
    rw [Bool.or_eq_false_iff, bne_eq_false_iff_eq] at isToken
    exact (seesCode_type noComment).code child (beq_iff_eq.mpr isToken.2)
  rw [afterToken?, children_bare, List.dropWhile_map, afterToken?]
  simp only [Function.comp_def, named_bare, type_bare]
  rw [dropWhile_filter kept, seesCode_counts.find?]

theorem splitAtChild_bare (tree : ParseTree) {type : String}
    (noComment : isCommentType type = false) :
    tree.bare.splitAtChild type =
      (((tree.splitAtChild type).1.filter isCode).map bare,
        ((tree.splitAtChild type).2.filter isCode).map bare) := by
  have kept : ∀ child : ParseTree, (child.type != type) = false → child.isCode = true := by
    intro child isType
    rw [bne_eq_false_iff_eq] at isType
    exact (seesCode_type noComment).code child (beq_iff_eq.mpr isType)
  simp only [splitAtChild, children_bare, List.takeWhile_map, List.dropWhile_map, ← List.map_drop,
    Function.comp_def, type_bare, takeWhile_filter kept, tail_dropWhile_filter kept]

/-! ## Fields -/

/-- What is kept has as many kept before it as it had. -/
private theorem getElem?_filter {α : Type} {keep : α → Bool} {list : List α} {index : Nat}
    (kept : ∀ a, list[index]? = some a → keep a = true) :
    (list.filter keep)[(list.take index).countP keep]? = list[index]? := by
  induction list generalizing index with
  | nil => simp
  | cons a rest ih =>
      cases index with
      | zero =>
          have first : keep a = true := kept a rfl
          simp [first]
      | succ index =>
          have later := @ih index (by simpa using kept)
          cases keeps : keep a <;> simp [keeps, later]

theorem atField?_bare {tree : ParseTree} {field : Option Nat}
    (code : ∀ child, tree.atField? field = some child → child.isCode = true) :
    tree.bare.atField? (bareField tree.children field) = (tree.atField? field).map bare := by
  cases field with
  | none => rfl
  | some index =>
      simp only [atField?, bareField, Option.map_some, Option.bind_some, children_bare,
        List.getElem?_map] at code ⊢
      rw [getElem?_filter code]

theorem nameField_bare (tree : ParseTree) :
    tree.bare.nameField = bareField tree.children tree.nameField := by
  cases tree
  rfl

theorem leftField_bare (tree : ParseTree) :
    tree.bare.leftField = bareField tree.children tree.leftField := by
  cases tree
  rfl

theorem rightField_bare (tree : ParseTree) :
    tree.bare.rightField = bareField tree.children tree.rightField := by
  cases tree
  rfl

/-! ## Tidy trees -/

/-- The fields of a node. -/
def fields (tree : ParseTree) : List (Option Nat) :=
  [tree.nameField, tree.leftField, tree.rightField]

/-- Comments hold nothing but comments, and no field points to one. -/
inductive Tidy : ParseTree → Prop
  | intro {tree : ParseTree} :
      (tree.isComment = true → ∀ child ∈ tree.children, child.isComment = true) →
      (∀ field ∈ tree.fields, (tree.atField? field).any isComment = false) →
      (∀ child ∈ tree.children, Tidy child) →
      Tidy tree

namespace Tidy

variable {tree child : ParseTree}

theorem comment (tidy : tree.Tidy) (isComment : tree.isComment = true) :
    ∀ child ∈ tree.children, child.isComment = true := by
  cases tidy with
  | intro comments _ _ => exact comments isComment

theorem field (tidy : tree.Tidy) {field : Option Nat} (member : field ∈ tree.fields)
    (found : tree.atField? field = some child) : child.isCode = true := by
  cases tidy with
  | intro _ fields _ =>
      have pointsToCode := fields field member
      rw [found, Option.any_some] at pointsToCode
      rw [isCode, pointsToCode, Bool.not_false]

theorem ofChild (tidy : tree.Tidy) (member : child ∈ tree.children) : child.Tidy := by
  cases tidy with
  | intro _ _ children => exact children child member

end Tidy

/-! ## Searches further down -/

mutual

/-- Nothing but comments lies in a comment. -/
theorem descendants_comment {type : String} (noComment : isCommentType type = false) :
    ∀ tree : ParseTree, tree.Tidy → tree.isComment = true → descendants type tree = []
  | ⟨_, _, _, _, children, _, _, _⟩, tidy, isComment =>
      descendantsAmong_comments noComment children (fun _ => tidy.ofChild) (tidy.comment isComment)

theorem descendantsAmong_comments {type : String} (noComment : isCommentType type = false) :
    ∀ trees : List ParseTree, (∀ tree ∈ trees, tree.Tidy) →
      (∀ tree ∈ trees, tree.isComment = true) → descendantsAmong type trees = []
  | [], _, _ => rfl
  | tree :: rest, tidy, comments => by
      rw [List.forall_mem_cons] at tidy comments
      have other : tree.type ≠ type := by
        rintro rfl
        exact Bool.false_ne_true (noComment.symm.trans comments.1)
      rw [descendantsAmong, if_neg other, descendants_comment noComment tree tidy.1 comments.1,
        descendantsAmong_comments noComment rest tidy.2 comments.2, List.nil_append]

end

mutual

theorem descendants_bare {type : String} (noComment : isCommentType type = false) :
    ∀ tree : ParseTree, tree.Tidy →
      descendants type tree.bare = (descendants type tree).map bare
  | ⟨_, _, _, _, children, _, _, _⟩, tidy =>
      descendantsAmong_bare noComment children fun _ => tidy.ofChild

theorem descendantsAmong_bare {type : String} (noComment : isCommentType type = false) :
    ∀ trees : List ParseTree, (∀ tree ∈ trees, tree.Tidy) →
      descendantsAmong type (bareAll trees) = (descendantsAmong type trees).map bare
  | [], _ => rfl
  | tree :: rest, tidy => by
      rw [List.forall_mem_cons] at tidy
      have later := descendantsAmong_bare noComment rest tidy.2
      have below := descendants_bare noComment tree tidy.1
      rw [bareAll, descendantsAmong]
      cases kind : tree.isComment with
      | true =>
          have other : tree.type ≠ type := by
            rintro rfl
            exact Bool.false_ne_true (noComment.symm.trans kind)
          rw [if_neg (by simp [isCode, kind]), if_neg other,
            descendants_comment noComment tree tidy.1 kind, later, List.nil_append]
      | false =>
          rw [if_pos (by simp [isCode, kind]), descendantsAmong, type_bare, below, later]
          split <;> simp

end

theorem find?_bare {type : String} (noComment : isCommentType type = false) {tree : ParseTree}
    (tidy : tree.Tidy) : find? type tree.bare = (find? type tree).map bare := by
  rw [find?_eq_head?, find?_eq_head?, descendants_bare noComment tree tidy, List.head?_map]

theorem unwrap_bare (tree : ParseTree) : tree.bare.unwrap = tree.unwrap.bare := by
  fun_induction unwrap tree with
  | case1 tree wrapper child only ih =>
      rw [unwrap, if_pos (by rwa [type_bare]), ← ih]
      have bareOnly : tree.bare.namedChildren = [child.bare] := by
        rw [namedChildren_bare, only, List.map_singleton]
      split
      · rename_i other otherOnly
        cases bareOnly.symm.trans otherOnly
        rfl
      · rename_i several
        exact absurd bareOnly (several _)
  | case2 tree wrapper several =>
      rw [unwrap, if_pos (by rwa [type_bare])]
      split
      · rename_i other otherOnly
        rw [namedChildren_bare, List.map_eq_singleton_iff] at otherOnly
        obtain ⟨child, only, _⟩ := otherOnly
        exact absurd only (several child)
      · rfl
  | case3 tree plain => rw [unwrap, if_neg (by rwa [type_bare])]

/-! ## Adding and removing comments -/

/-- Where a field points to once a child has been put in at a position. -/
def shiftField (position : Nat) (field : Option Nat) : Option Nat :=
  field.map fun index => if index < position then index else index + 1

/-- A tree with a child put in between some of its children and the others.  Fields
point to the same children as before. -/
def putBetween (tree : ParseTree) (before : List ParseTree) (child : ParseTree)
    (after : List ParseTree) : ParseTree :=
  { tree with
    children := before ++ child :: after
    nameField := shiftField before.length tree.nameField
    leftField := shiftField before.length tree.leftField
    rightField := shiftField before.length tree.rightField }

/-- A tree with other children in the place of its own. -/
def withChildren (tree : ParseTree) (children : List ParseTree) : ParseTree :=
  { tree with children }

/-- A comment without children is put in among the children of some node. -/
inductive AddsComment : ParseTree → ParseTree → Prop
  | here {tree comment : ParseTree} {before after : List ParseTree} :
      tree.children = before ++ after → comment.isComment = true → comment.children = [] →
      AddsComment tree (tree.putBetween before comment after)
  | inside {tree child other : ParseTree} {before after : List ParseTree} :
      tree.children = before ++ child :: after → AddsComment child other →
      AddsComment tree (tree.withChildren (before ++ other :: after))

/-- One tree comes from another by adding and removing comments. -/
def DiffersInComments : ParseTree → ParseTree → Prop :=
  Relation.EqvGen AddsComment

theorem AddsComment.type_eq {tree other : ParseTree} (adds : AddsComment tree other) :
    other.type = tree.type := by
  cases adds <;> rfl

theorem AddsComment.isComment_eq {tree other : ParseTree} (adds : AddsComment tree other) :
    other.isComment = tree.isComment := by
  rw [isComment, isComment, adds.type_eq]

theorem bareField_congr {children others : List ParseTree}
    (same : children.map isComment = others.map isComment) (field : Option Nat) :
    bareField children field = bareField others field := by
  have counted : ∀ (trees : List ParseTree) (index : Nat),
      (trees.take index).countP isCode = ((trees.map isComment).take index).countP (!·) := by
    intro trees index
    rw [← List.map_take, List.countP_map]
    rfl
  simp only [bareField, counted, same]

theorem bareField_shiftField {before after : List ParseTree} {comment : ParseTree}
    (isComment : comment.isComment = true) (field : Option Nat) :
    bareField (before ++ comment :: after) (shiftField before.length field) =
      bareField (before ++ after) field := by
  cases field with
  | none => rfl
  | some index =>
      simp only [bareField, shiftField, Option.map_some, Option.some.injEq]
      split
      · rename_i inside
        rw [List.take_append_of_le_length (Nat.le_of_lt inside),
          List.take_append_of_le_length (Nat.le_of_lt inside)]
      · rename_i outside
        have noCode : comment.isCode = false := by rw [isCode, isComment, Bool.not_true]
        have beyond : before.length ≤ index := Nat.le_of_not_lt outside
        rw [List.take_append, List.take_append, Nat.sub_add_comm beyond, List.take_succ_cons,
          List.countP_append, List.countP_append, List.countP_cons_of_neg (by simp [noCode]),
          List.take_of_length_le beyond, List.take_of_length_le (Nat.le_succ_of_le beyond)]

/-- Without comments there is no difference. -/
theorem AddsComment.bare_eq {tree other : ParseTree} (adds : AddsComment tree other) :
    other.bare = tree.bare := by
  induction adds with
  | @here tree comment before after split isComment leaf =>
      rcases tree with ⟨type, named, start, stop, children, nameField, leftField, rightField⟩
      subst split
      have noCode : comment.isCode = false := by rw [isCode, isComment, Bool.not_true]
      simp only [putBetween, bare, bareAll_eq, bareField_shiftField isComment, List.filter_append,
        List.filter_cons_of_neg (show ¬ comment.isCode = true by simp [noCode])]
  | @inside tree child other before after split adds same =>
      rcases tree with ⟨type, named, start, stop, children, nameField, leftField, rightField⟩
      subst split
      have sameComments : (before ++ other :: after).map isComment =
          (before ++ child :: after).map isComment := by
        simp only [List.map_append, List.map_cons, adds.isComment_eq]
      have sameCode : other.isCode = child.isCode := by rw [isCode, isCode, adds.isComment_eq]
      simp only [withChildren, bare, bareAll_eq, bareField_congr sameComments, List.filter_append,
        List.filter_cons, sameCode]
      split <;> simp [same]

theorem tidy_of_leaf {comment : ParseTree} (leaf : comment.children = []) : comment.Tidy := by
  constructor
  · rw [leaf]
    rintro _ _ ⟨⟩
  · intro field _
    cases field <;> simp [atField?, leaf]
  · rw [leaf]
    rintro _ ⟨⟩

/-- For each field of a node, whether it points to a comment. -/
def fieldsAtComments (tree : ParseTree) : List Bool :=
  tree.fields.map fun field => (tree.atField? field).any isComment

theorem tidy_iff (tree : ParseTree) :
    tree.Tidy ↔
      (tree.isComment = true → ∀ child ∈ tree.children, child.isComment = true) ∧
        (∀ pointsToComment ∈ tree.fieldsAtComments, pointsToComment = false) ∧
        ∀ child ∈ tree.children, child.Tidy := by
  rw [fieldsAtComments, List.forall_mem_map]
  constructor
  · rintro ⟨comments, fields, children⟩
    exact ⟨comments, fields, children⟩
  · rintro ⟨comments, fields, children⟩
    exact ⟨comments, fields, children⟩

/-- A field points past what was put in before it. -/
theorem getElem?_shift {before after : List ParseTree} (comment : ParseTree) (index : Nat) :
    (before ++ comment :: after)[if index < before.length then index else index + 1]? =
      (before ++ after)[index]? := by
  split
  · rename_i inside
    rw [List.getElem?_append_left inside, List.getElem?_append_left inside]
  · rename_i outside
    have beyond : before.length ≤ index := Nat.le_of_not_lt outside
    rw [List.getElem?_append_right beyond, List.getElem?_append_right (Nat.le_succ_of_le beyond),
      Nat.succ_sub beyond, List.getElem?_cons_succ]

/-- Whether a field points to a comment is seen from which children are comments. -/
theorem any_atField? (tree : ParseTree) (field : Option Nat) :
    (tree.atField? field).any isComment =
      (field.bind fun index => (tree.children.map isComment)[index]?).any id := by
  cases field with
  | none => rfl
  | some index =>
      simp only [atField?, Option.bind_some, List.getElem?_map]
      cases tree.children[index]? <;> rfl

/-- Adding a comment keeps a tree tidy, and so does removing it. -/
theorem AddsComment.tidy_iff {tree other : ParseTree} (adds : AddsComment tree other) :
    other.Tidy ↔ tree.Tidy := by
  induction adds with
  | @here tree comment before after split isComment leaf =>
      have sameChild : ∀ field : Option Nat,
          (tree.putBetween before comment after).atField? (shiftField before.length field) =
            tree.atField? field := by
        intro field
        cases field with
        | none => rfl
        | some index =>
            rw [atField?, atField?, Option.bind_some, split]
            exact getElem?_shift comment index
      have sameFields : (tree.putBetween before comment after).fieldsAtComments =
          tree.fieldsAtComments := by
        simp only [fieldsAtComments, fields, List.map_cons, ← sameChild]
        rfl
      rw [ParseTree.tidy_iff, ParseTree.tidy_iff tree, sameFields, split]
      simp only [putBetween, List.forall_mem_append, List.forall_mem_cons, isComment,
        tidy_of_leaf leaf, true_and]
      rfl
  | @inside tree child other before after split adds ih =>
      have sameComments : (tree.withChildren (before ++ other :: after)).children.map isComment =
          tree.children.map isComment := by
        simp only [withChildren, split, List.map_append, List.map_cons, adds.isComment_eq]
      have sameFields : (tree.withChildren (before ++ other :: after)).fieldsAtComments =
          tree.fieldsAtComments := by
        simp only [fieldsAtComments, any_atField?, sameComments]
        rfl
      rw [ParseTree.tidy_iff, ParseTree.tidy_iff tree, sameFields, split]
      simp only [withChildren, List.forall_mem_append, List.forall_mem_cons, adds.isComment_eq, ih]
      rfl

/-- Trees that differ in comments only are tidy alike, and without comments they are
the same. -/
theorem DiffersInComments.bare_eq {tree other : ParseTree}
    (differs : DiffersInComments tree other) :
    (other.Tidy ↔ tree.Tidy) ∧ other.bare = tree.bare := by
  induction differs with
  | rel tree other adds => exact ⟨adds.tidy_iff, adds.bare_eq⟩
  | refl tree => exact ⟨Iff.rfl, rfl⟩
  | symm tree other _ ih => exact ⟨ih.1.symm, ih.2.symm⟩
  | trans tree middle other _ _ first second =>
      exact ⟨second.1.trans first.1, second.2.trans first.2⟩

end ViewOutline.Kotlin.ParseTree
