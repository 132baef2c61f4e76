import ViewOutline.SyntaxTree
import Mathlib.Data.List.Lex

/-!
# Ways through a syntax tree

A way names a place in a syntax tree by the steps that lead to it.  Steps are
named after what is written there, and ways are ordered as the places are
written: a node comes before everything below it, and what is below it comes in
the order of its parts.

Only expressions, declarations and statements have parts.  The functions and
structures that are declared inside an expression are not looked into.
-/

namespace ViewOutline

/-- A step from a node to one directly below it. -/
inductive Step where
  /-- To a member of a class. -/
  | member (index : Nat)
  /-- To the initial value of a declaration. -/
  | initializer
  /-- To the delegate of a declaration. -/
  | delegate
  /-- To the left operand. -/
  | left
  /-- To the right operand. -/
  | right
  /-- To the value of an argument of a call. -/
  | argument (index : Nat)
  /-- To the lambda written after the arguments of a call. -/
  | trailing
  /-- To the body of a function, an initialisation or a lambda. -/
  | body
  /-- To a statement of a block. -/
  | statement (index : Nat)
  deriving DecidableEq

/-- The order in which the parts of one node are written. -/
inductive Step.Before : Step → Step → Prop
  | members {first second : Nat} : first < second → Before (.member first) (.member second)
  | declaration : Before .initializer .delegate
  | operands : Before .left .right
  | arguments {first second : Nat} :
      first < second → Before (.argument first) (.argument second)
  | trailing (index : Nat) : Before (.argument index) .trailing
  | statements {first second : Nat} :
      first < second → Before (.statement first) (.statement second)

theorem Step.Before.asymm {first second : Step} (before : first.Before second) :
    ¬ second.Before first := by
  intro after
  cases before with
  | members less => cases after with | members more => exact Nat.lt_asymm less more
  | declaration => cases after
  | operands => cases after
  | arguments less => cases after with | arguments more => exact Nat.lt_asymm less more
  | trailing => cases after
  | statements less => cases after with | statements more => exact Nat.lt_asymm less more

instance : Std.Asymm Step.Before :=
  ⟨fun _ _ => Step.Before.asymm⟩

/-- The steps that lead to a place, outermost first. -/
abbrev Way := List Step

/-- One place is written before another: it lies around it, or the ways part
and the first takes the earlier step. -/
def Way.Before : Way → Way → Prop :=
  List.Lex Step.Before

theorem Way.Before.asymm {first second : Way} (before : first.Before second) :
    ¬ second.Before first :=
  (List.Lex.asymm Step.Before).asymm first second before

theorem Way.Before.irrefl (way : Way) : ¬ way.Before way :=
  fun before => before.asymm before

/-- Ways in the order of writing are all different. -/
theorem Way.nodup_of_pairwise {ways : List Way} (ordered : ways.Pairwise Way.Before) :
    ways.Nodup := by
  apply ordered.imp
  rintro first _ before rfl
  exact Way.Before.irrefl first before

/-- Two ways part, and the first goes to what is written earlier.  Neither place
lies inside the other. -/
inductive Way.Apart : Way → Way → Prop
  | here {first second : Step} {rest others : Way} :
      first.Before second → Apart (first :: rest) (second :: others)
  | later {step : Step} {rest others : Way} :
      Apart rest others → Apart (step :: rest) (step :: others)

/-- What lies inside places that are apart is written in the same order. -/
theorem Way.Apart.before_append {first second : Way} (apart : first.Apart second)
    (inFirst inSecond : Way) : Way.Before (first ++ inFirst) (second ++ inSecond) := by
  induction apart with
  | here before => exact List.Lex.rel before
  | later _ ih => exact List.Lex.cons ih

/-- What is written after a place lies inside it or apart from it. -/
theorem Way.Before.prefix_or_apart {first second : Way} (before : first.Before second) :
    first <+: second ∨ first.Apart second := by
  induction before with
  | nil => exact Or.inl List.nil_prefix
  | @cons step rest others _ ih =>
      rcases ih with inside | apart
      · exact Or.inl ((List.prefix_append_right_inj [step]).mpr inside)
      · exact Or.inr (.later apart)
  | rel earlier => exact Or.inr (.here earlier)

theorem Way.Before.append_left {first second : Way} (before : first.Before second)
    (outer : Way) : Way.Before (outer ++ first) (outer ++ second) := by
  induction outer with
  | nil => exact before
  | cons step outer ih => exact List.Lex.cons ih

/-! ## The parts of a node -/

/-- The node one step below another. -/
def Node.child? : Node → Step → Option Node
  | .property decl, .initializer => decl.initializer
  | .property decl, .delegate => decl.delegate
  | .binary left _ _, .left => some left
  | .binary _ _ right, .right => some right
  | .call invoked, .argument index => (invoked.args.map Argument.value)[index]?
  | .call invoked, .trailing => invoked.trailing.map Node.lambda
  | .lambda closure, .body => some (.block closure.body)
  | .block statements, .statement index => statements[index]?
  | _, _ => none

/-- Nodes in a row, with the steps that lead to them. -/
def Step.toEach (step : Nat → Step) (nodes : List Node) (start : Nat) : List (Step × Node) :=
  (nodes.zipIdx start).map fun entry => (step entry.2, entry.1)

/-- The parts of a declaration. -/
def PropertyDecl.parts (decl : PropertyDecl) : List (Step × Node) :=
  (decl.initializer.map (Step.initializer, ·)).toList ++
    (decl.delegate.map (Step.delegate, ·)).toList

/-- The parts of a call. -/
def Call.parts (call : Call) : List (Step × Node) :=
  Step.toEach .argument (call.args.map Argument.value) 0 ++
    (call.trailing.map (Step.trailing, Node.lambda ·)).toList

/-- The parts of a node in the order in which they are written. -/
def Node.parts : Node → List (Step × Node)
  | .property decl => decl.parts
  | .binary left _ right => [(.left, left), (.right, right)]
  | .call invoked => invoked.parts
  | .lambda closure => [(.body, .block closure.body)]
  | .block statements => Step.toEach .statement statements 0
  | _ => []

@[simp]
theorem Step.toEach_nil (step : Nat → Step) (start : Nat) : Step.toEach step [] start = [] :=
  rfl

@[simp]
theorem Step.toEach_cons (step : Nat → Step) (node : Node) (rest : List Node) (start : Nat) :
    Step.toEach step (node :: rest) start =
      (step start, node) :: Step.toEach step rest (start + 1) :=
  rfl

theorem Step.mem_toEach_iff (step : Nat → Step) (nodes : List Node) (taken : Step)
    (node : Node) :
    (taken, node) ∈ Step.toEach step nodes 0 ↔
      ∃ index, taken = step index ∧ nodes[index]? = some node := by
  simp only [Step.toEach, List.mem_map, Prod.mk.injEq]
  constructor
  · rintro ⟨⟨_, index⟩, member, rfl, rfl⟩
    exact ⟨index, rfl, List.mem_zipIdx_iff_getElem?.mp member⟩
  · rintro ⟨index, rfl, found⟩
    exact ⟨(node, index), List.mem_zipIdx_iff_getElem?.mpr found, rfl, rfl⟩

theorem Step.toEach_ordered {step : Nat → Step}
    (ordered : ∀ first second, first < second → (step first).Before (step second))
    (nodes : List Node) (start : Nat) :
    (Step.toEach step nodes start).Pairwise fun first second => first.1.Before second.1 := by
  have increasing : ((nodes.zipIdx start).map Prod.snd).Pairwise (· < ·) := by
    rw [List.zipIdx_map_snd]
    exact List.pairwise_lt_range'
  rw [Step.toEach, List.pairwise_map]
  exact (List.pairwise_map.mp increasing).imp fun less => ordered _ _ less

/-- The parts of a node are what its steps lead to. -/
theorem Node.mem_parts_iff (node : Node) (step : Step) (child : Node) :
    (step, child) ∈ node.parts ↔ node.child? step = some child := by
  cases node with
  | property decl => cases step <;> simp [parts, PropertyDecl.parts, child?]
  | binary left operator right => cases step <;> simp [parts, child?, eq_comm]
  | call invoked =>
      simp only [parts, Call.parts, List.mem_append, Step.mem_toEach_iff]
      cases step <;> simp [child?]
  | lambda closure => cases step <;> simp [parts, child?, eq_comm]
  | block statements =>
      simp only [parts, Step.mem_toEach_iff]
      cases step <;> simp [child?]
  | _ => simp [parts, child?]

theorem PropertyDecl.parts_ordered (decl : PropertyDecl) :
    decl.parts.Pairwise fun first second => first.1.Before second.1 := by
  rcases decl with ⟨name, type, value, delegate, mutable, text⟩
  cases value <;> cases delegate <;> simp [parts, Step.Before.declaration]

theorem Call.parts_ordered (call : Call) :
    call.parts.Pairwise fun first second => first.1.Before second.1 := by
  rw [Call.parts, List.pairwise_append]
  refine ⟨Step.toEach_ordered (fun _ _ => .arguments) _ _, ?_, ?_⟩
  · cases call.trailing <;> simp
  · rintro ⟨step, value⟩ member ⟨last, closure⟩ lastMem
    obtain ⟨index, rfl, _⟩ := (Step.mem_toEach_iff _ _ _ _).mp member
    obtain ⟨_, _, pairEq⟩ := Option.map_eq_some_iff.mp (Option.mem_toList.mp lastMem)
    cases pairEq
    exact .trailing index

/-- The parts of a node are listed in the order in which they are written. -/
theorem Node.parts_ordered (node : Node) :
    node.parts.Pairwise fun first second => first.1.Before second.1 := by
  cases node with
  | property decl => exact decl.parts_ordered
  | binary left operator right => simp [parts, Step.Before.operands]
  | call invoked => exact invoked.parts_ordered
  | lambda closure => simp [parts]
  | block statements => exact Step.toEach_ordered (fun _ _ => .statements) _ _
  | _ => exact List.Pairwise.nil

theorem Node.sizeOf_child_lt {node : Node} {step : Step} {child : Node}
    (found : node.child? step = some child) : sizeOf child < sizeOf node := by
  cases node with
  | property decl =>
      rcases decl with ⟨name, type, value, delegate, mutable, text⟩
      cases step <;> simp only [child?, reduceCtorEq] at found
      all_goals
        subst found
        simp only [property.sizeOf_spec, PropertyDecl.mk.sizeOf_spec, Option.some.sizeOf_spec]
        omega
  | binary left operator right =>
      cases step <;> simp only [child?, reduceCtorEq, Option.some.injEq] at found
      all_goals
        subst found
        simp only [binary.sizeOf_spec]
        omega
  | call invoked =>
      rcases invoked with ⟨name, args, trailing, typeArgs⟩
      cases step <;> simp only [child?, reduceCtorEq] at found
      · rw [List.getElem?_map, Option.map_eq_some_iff] at found
        obtain ⟨argument, present, rfl⟩ := found
        have smaller := List.sizeOf_lt_of_mem (List.mem_of_getElem? present)
        rcases argument with ⟨value, label, spread⟩
        simp only [Argument.mk.sizeOf_spec] at smaller
        simp only [call.sizeOf_spec, Call.mk.sizeOf_spec]
        omega
      · obtain ⟨closure, rfl, rfl⟩ := Option.map_eq_some_iff.mp found
        simp only [call.sizeOf_spec, Call.mk.sizeOf_spec, lambda.sizeOf_spec,
          Option.some.sizeOf_spec]
        omega
  | lambda closure =>
      rcases closure with ⟨params, body⟩
      cases step <;> simp only [child?, reduceCtorEq, Option.some.injEq] at found
      subst found
      simp only [lambda.sizeOf_spec, Lambda.mk.sizeOf_spec, block.sizeOf_spec]
      omega
  | block statements =>
      cases step <;> simp only [child?, reduceCtorEq] at found
      have smaller := List.sizeOf_lt_of_mem (List.mem_of_getElem? found)
      simp only [block.sizeOf_spec]
      omega
  | _ => simp [child?] at found

/-- Induction on a node from its parts. -/
theorem Node.parts_induction {motive : Node → Prop}
    (node : Node)
    (step : ∀ node : Node,
      (∀ taken child, (taken, child) ∈ node.parts → motive child) → motive node) :
    motive node := by
  apply step
  intro taken child member
  exact parts_induction child step
termination_by sizeOf node
decreasing_by exact sizeOf_child_lt ((mem_parts_iff node taken child).mp member)

/-! ## Places below a node -/

/-- The node that a way leads to. -/
def Node.follow? : Node → Way → Option Node
  | node, [] => some node
  | node, step :: way => (node.child? step).bind (·.follow? way)

@[simp]
theorem Node.follow?_nil (node : Node) : node.follow? [] = some node :=
  rfl

theorem Node.follow?_cons_eq_some_iff (node : Node) (step : Step) (way : Way) (place : Node) :
    node.follow? (step :: way) = some place ↔
      ∃ child, (step, child) ∈ node.parts ∧ child.follow? way = some place := by
  simp only [follow?, Option.bind_eq_some_iff, mem_parts_iff]

/-- A way is followed piece by piece. -/
theorem Node.follow?_append (node : Node) (first second : Way) :
    node.follow? (first ++ second) = (node.follow? first).bind (·.follow? second) := by
  induction first generalizing node with
  | nil => rfl
  | cons step first ih =>
      simp only [List.cons_append, follow?, Option.bind_assoc]
      congr 1
      funext child
      exact ih child

/-- The places below several parts, each listed by the same rule. -/
def below (list : Node → List (Way × Node)) (parts : List (Step × Node)) : List (Way × Node) :=
  parts.flatMap fun part => (list part.2).map fun place => (part.1 :: place.1, place.2)

@[simp]
theorem below_nil (list : Node → List (Way × Node)) : below list [] = [] :=
  rfl

theorem below_cons (list : Node → List (Way × Node)) (step : Step) (child : Node)
    (rest : List (Step × Node)) :
    below list ((step, child) :: rest) =
      ((list child).map fun place => (step :: place.1, place.2)) ++ below list rest :=
  rfl

theorem nil_not_mem_below (list : Node → List (Way × Node)) (parts : List (Step × Node))
    (place : Node) : ([], place) ∉ below list parts := by
  simp [below]

theorem cons_mem_below_iff (list : Node → List (Way × Node)) (parts : List (Step × Node))
    (step : Step) (way : Way) (place : Node) :
    (step :: way, place) ∈ below list parts ↔
      ∃ child, (step, child) ∈ parts ∧ (way, place) ∈ list child := by
  simp only [below, List.mem_flatMap, List.mem_map, Prod.mk.injEq, List.cons.injEq]
  constructor
  · rintro ⟨⟨_, child⟩, member, ⟨_, _⟩, placeMem, ⟨rfl, rfl⟩, rfl⟩
    exact ⟨child, member, placeMem⟩
  · rintro ⟨child, member, placeMem⟩
    exact ⟨(step, child), member, (way, place), placeMem, ⟨rfl, rfl⟩, rfl⟩

/-- A relation of ways that looks at the first step where they differ holds in
order below parts in order. -/
theorem below_pairwise {related : Way → Way → Prop} {list : Node → List (Way × Node)}
    {parts : List (Step × Node)}
    (here : ∀ first second rest others, Step.Before first second →
      related (first :: rest) (second :: others))
    (later : ∀ step rest others, related rest others → related (step :: rest) (step :: others))
    (ordered : parts.Pairwise fun first second => first.1.Before second.1)
    (each : ∀ step child, (step, child) ∈ parts →
      (list child).Pairwise fun first second => related first.1 second.1) :
    (below list parts).Pairwise fun first second => related first.1 second.1 := by
  rw [below, List.pairwise_flatMap]
  constructor
  · rintro ⟨step, child⟩ member
    rw [List.pairwise_map]
    exact (each step child member).imp fun before => later step _ _ before
  · apply ordered.imp
    rintro ⟨first, _⟩ ⟨second, _⟩ before place placeMem other otherMem
    obtain ⟨_, _, rfl⟩ := List.mem_map.mp placeMem
    obtain ⟨_, _, rfl⟩ := List.mem_map.mp otherMem
    exact here first second _ _ before

/-- Places in order below parts in order are in order. -/
theorem below_ordered {list : Node → List (Way × Node)} {parts : List (Step × Node)}
    (ordered : parts.Pairwise fun first second => first.1.Before second.1)
    (each : ∀ step child, (step, child) ∈ parts →
      (list child).Pairwise fun first second => Way.Before first.1 second.1) :
    (below list parts).Pairwise fun first second => Way.Before first.1 second.1 :=
  below_pairwise (fun _ _ _ _ => List.Lex.rel) (fun _ _ _ => List.Lex.cons) ordered each

/-- Every place of a node with the node that stands there, in the order of
writing. -/
def Node.places (node : Node) : List (Way × Node) :=
  ([], node) :: node.parts.attach.flatMap fun ⟨(step, child), _⟩ =>
    child.places.map fun place => (step :: place.1, place.2)
termination_by sizeOf node
decreasing_by
  rename_i member
  exact sizeOf_child_lt ((mem_parts_iff node step child).mp member)

theorem Node.places_eq (node : Node) :
    node.places = ([], node) :: below places node.parts := by
  rw [places, below]
  congr 1
  exact List.flatMap_subtype (fun _ _ => rfl) |>.trans (by rw [List.unattach_attach])

/-- The places of a node are what ways lead to. -/
theorem Node.mem_places_iff (node : Node) (way : Way) (place : Node) :
    (way, place) ∈ node.places ↔ node.follow? way = some place := by
  induction way generalizing node with
  | nil =>
      rw [places_eq, List.mem_cons]
      simp [nil_not_mem_below, eq_comm]
  | cons step way ih =>
      rw [places_eq, List.mem_cons, cons_mem_below_iff, follow?_cons_eq_some_iff]
      simp [ih]

/-- The places of a node are listed in the order of writing. -/
theorem Node.places_ordered (node : Node) :
    node.places.Pairwise fun first second => Way.Before first.1 second.1 := by
  induction node using Node.parts_induction with
  | step node ih =>
      rw [places_eq, List.pairwise_cons]
      refine ⟨?_, below_ordered node.parts_ordered ih⟩
      rintro ⟨way, place⟩ member
      cases way with
      | nil => exact absurd member (nil_not_mem_below _ _ _)
      | cons step way => exact List.Lex.nil

end ViewOutline
