import ViewOutline.Statement
import ViewOutline.Proofs.Analysis
import ViewOutline.Proofs.Way

/-!
# Contents, operand by operand

Rendering a node means rendering its operands in the order in which they are
written and putting the texts together.  The records that are folded into the
operands are folded into the node, and nothing else is.  Only a block starts
records of its own, one for each of its statements.
-/

namespace ViewOutline

/-- The part of a declaration that is rendered: its initial value, else its
delegate. -/
def PropertyDecl.operands (decl : PropertyDecl) : List (Step × Node) :=
  ((decl.initializer.map (Step.initializer, ·)).or
    (decl.delegate.map (Step.delegate, ·))).toList

/-- The parts of a node that are rendered into its text.  The statements of a
block are recorded instead. -/
def Node.operands : Node → List (Step × Node)
  | .property decl => decl.operands
  | .block _ => []
  | node => node.parts

/-- Whether a node is a block. -/
def Node.isBlock : Node → Bool
  | .block _ => true
  | _ => false

theorem PropertyDecl.operands_sublist (decl : PropertyDecl) :
    decl.operands.Sublist decl.parts := by
  rcases decl with ⟨name, type, value, delegate, mutable, text⟩
  cases value <;> cases delegate <;> simp [operands, parts]

theorem Node.operands_sublist (node : Node) : node.operands.Sublist node.parts := by
  cases node with
  | property decl => exact decl.operands_sublist
  | block statements => exact List.nil_sublist _
  | _ => exact List.Sublist.refl _

theorem Node.statement_mem_parts {statements : List Node} {statement : Node}
    (member : statement ∈ statements) :
    ∃ step, (step, statement) ∈ (Node.block statements).parts := by
  obtain ⟨index, found⟩ := List.mem_iff_getElem?.mp member
  exact ⟨.statement index, (Step.mem_toEach_iff _ _ _ _).mpr ⟨index, rfl, found⟩⟩

/-- Induction on a node as it is rendered: from the statements of a block, and
from the operands of any other node. -/
theorem Node.operands_induction {motive : Node → Prop} (node : Node)
    (block : ∀ statements : List Node,
      (∀ statement ∈ statements, motive statement) → motive (.block statements))
    (expression : ∀ node : Node, node.isBlock = false →
      (∀ step child, (step, child) ∈ node.operands → motive child) → motive node) :
    motive node := by
  induction node using Node.parts_induction with
  | step node ih =>
      cases isBlock : node.isBlock with
      | true =>
          cases node <;> cases isBlock
          apply block
          intro statement member
          obtain ⟨step, inParts⟩ := statement_mem_parts member
          exact ih step statement inParts
      | false =>
          apply expression node isBlock
          intro step child member
          exact ih step child (node.operands_sublist.subset member)

/-- The contents of parts in order, seen from one level inside their node. -/
def Node.contents (inside : Scope) : List (Step × Node) → Analysis (List Rendered)
  | [] => return []
  | (_, child) :: rest => do
      let first ← child.content (← inside.descend)
      let others ← Node.contents inside rest
      return first :: others

theorem Node.contents_append (inside : Scope) (first second : List (Step × Node)) :
    Node.contents inside (first ++ second) = do
      let front ← Node.contents inside first
      let back ← Node.contents inside second
      return front ++ back := by
  induction first with
  | nil => simp [contents]
  | cons part rest ih =>
      rcases part with ⟨step, child⟩
      simp [contents, ih]

/-- Write the names of arguments before their values. -/
def Argument.written : List Argument → List Rendered → List Rendered
  | ⟨_, name, spread⟩ :: rest, value :: values =>
      ⟨argumentText name spread value.text, value.nested⟩ :: Argument.written rest values
  | _, values => values

theorem Argument.flatMap_nested_written (args : List Argument) (values : List Rendered) :
    (Argument.written args values).flatMap Rendered.nested = values.flatMap Rendered.nested := by
  induction args, values using Argument.written.induct with
  | case1 value name spread rest first values ih => simp [written, ih]
  | case2 args values _ => simp [written]

theorem Argument.contents_eq (inside : Scope) (args : List Argument) (start : Nat) :
    Argument.contents inside args = do
      let values ← Node.contents inside
        (Step.toEach .argument (args.map Argument.value) start)
      return Argument.written args values := by
  induction args generalizing start with
  | nil => simp [contents, Node.contents, written]
  | cons argument rest ih =>
      rcases argument with ⟨value, name, spread⟩
      simp [contents, Node.contents, written, ih (start + 1)]

theorem PropertyDecl.content_eq (decl : PropertyDecl) :
    ∃ join : List Rendered → String, ∀ inside, decl.content inside = do
      let parts ← Node.contents inside decl.operands
      return ⟨join parts, parts.flatMap Rendered.nested⟩ := by
  rcases decl with ⟨name, type, value, delegate, mutable, text⟩
  cases value with
  | some value =>
      refine ⟨fun parts => name ++ " = " ++ String.join (parts.map Rendered.text), ?_⟩
      intro inside
      simp [content, operands, Node.contents, String.join]
  | none =>
      cases delegate with
      | some delegate =>
          refine ⟨fun parts => name ++ " by " ++ String.join (parts.map Rendered.text), ?_⟩
          intro inside
          simp [content, operands, Node.contents, String.join]
      | none =>
          cases given : Text.given type with
          | some type =>
              exact ⟨fun _ => name ++ ": " ++ type, fun _ => by simp [content, given]; rfl⟩
          | none => exact ⟨fun _ => name, fun _ => by simp [content, given]; rfl⟩

theorem Call.content_eq (call : Call) :
    ∃ join : List Rendered → String, ∀ inside, call.content inside = do
      let parts ← Node.contents inside call.parts
      return ⟨join parts, parts.flatMap Rendered.nested⟩ := by
  rcases call with ⟨name, args, trailing, typeArgs⟩
  cases trailing with
  | none =>
      refine ⟨fun parts => callHead name typeArgs
        ((Argument.written args parts).map Rendered.text) false, ?_⟩
      intro inside
      simp [content, parts, Argument.contents_eq inside args 0, Argument.flatMap_nested_written]
  | some closure =>
      refine ⟨fun parts => callHead name typeArgs
        ((Argument.written args parts.dropLast).map Rendered.text) true ++ " " ++
          String.join (parts.getLast?.toList.map Rendered.text), ?_⟩
      intro inside
      simp [content, parts, Argument.contents_eq inside args 0, Argument.flatMap_nested_written,
        Node.contents_append, Node.contents, Node.content, String.join]

/-- The content of a node that is no block is put together from the contents of
its operands. -/
theorem Node.content_eq (node : Node) (noBlock : node.isBlock = false) :
    ∃ join : List Rendered → String, ∀ inside, node.content inside = do
      let parts ← Node.contents inside node.operands
      return ⟨join parts, parts.flatMap Rendered.nested⟩ := by
  cases node with
  | property decl => exact decl.content_eq
  | binary left operator right =>
      refine ⟨fun parts => joinOperands (String.join (parts.head?.toList.map Rendered.text))
        operator (String.join (parts.getLast?.toList.map Rendered.text)), ?_⟩
      intro inside
      simp [content, operands, parts, contents, String.join]
  | call invoked => exact invoked.content_eq
  | lambda closure =>
      rcases closure with ⟨params, body⟩
      refine ⟨fun parts => braced params (parts.flatMap Rendered.nested), ?_⟩
      intro inside
      simp [content, Lambda.content, operands, parts, contents]
  | block statements => cases noBlock
  | name name => exact ⟨fun _ => name, fun _ => rfl⟩
  | literal value kind => exact ⟨fun _ => value, fun _ => rfl⟩
  | reference name receiver => exact ⟨fun _ => receiver.getD "" ++ "::" ++ name, fun _ => rfl⟩
  | file _ | structured _ | function _ | initializer _ | unknown _ _ =>
      exact ⟨fun _ => Node.fallbackText _, fun _ => rfl⟩

/-! ## Records -/

/-- A record has the text of its statement, and what is folded into it. -/
theorem Node.outcome_recordOf (statement : Node) (inside : Scope)
    (noBlock : statement.isBlock = false) :
    ∃ kind, (statement.recordOf fun _ => statement.content inside).outcome = do
      let rendered ← (statement.content inside).outcome
      return ⟨kind, rendered.text, rendered.nested⟩ := by
  cases statement with
  | block statements => cases noBlock
  | file _ | structured _ | function _ | initializer _ | unknown _ _ =>
      exact ⟨.unclassified, rfl⟩
  | property _ | binary _ _ _ | call _ | name _ | literal _ _ | reference _ _ | lambda _ =>
      simp only [recordOf, recordKind?, Analysis.outcome_bind, Analysis.outcome_pure]
      exact ⟨_, rfl⟩

/-- A body that is an expression is recorded as one statement. -/
theorem Node.bodyRecords_of_expression {body : Node}
    (expression : MethodShape.ofBody (some body) = .expression) (scope : Scope) :
    Node.bodyRecords scope (some body) = do return [← body.record scope] := by
  cases body with
  | block _ | reference _ _ => cases expression
  | _ => rfl

end ViewOutline
