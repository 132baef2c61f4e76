import ViewOutline.Proofs.Containment.Numbering
import ViewOutline.Proofs.Statement.Content

/-!
# Nesting and the ceiling

How far an analysis goes into a node is found from the node alone, so whether it
stops at the ceiling is known beforehand.  Two analyses go through expressions:
the search for controls, and the rendering of texts and records.  They count
levels alike and differ in two places.  The search also enters a delegate that
stands beside an initial value, and it enters a block that stands among
statements, which is recorded as one unknown statement.
-/

namespace ViewOutline

/-- The analyses that go through expressions. -/
inductive Pass where
  /-- The search for controls. -/
  | search
  /-- The rendering of texts and records. -/
  | rendering
  deriving DecidableEq

mutual

/-- How many levels an analysis goes further in below a node. -/
def Node.levels (pass : Pass) : Node → Nat
  | .property decl => decl.levels pass
  | .binary left _ right => max (left.levels pass + 1) (right.levels pass + 1)
  | .call invoked => invoked.levels pass
  | .lambda closure => closure.levels pass
  | .block statements => Node.statementLevels pass statements
  | _ => 0

/-- How many levels an analysis goes further in below a declaration. -/
def PropertyDecl.levels (pass : Pass) : PropertyDecl → Nat
  | ⟨_, _, some value, some delegate, _, _⟩ =>
      match pass with
      | .search => max (value.levels pass + 1) (delegate.levels pass + 1)
      | .rendering => value.levels pass + 1
  | ⟨_, _, some value, none, _, _⟩ => value.levels pass + 1
  | ⟨_, _, none, some delegate, _, _⟩ => delegate.levels pass + 1
  | ⟨_, _, none, none, _, _⟩ => 0

/-- How many levels an analysis goes further in below a call. -/
def Call.levels (pass : Pass) : Call → Nat
  | ⟨_, args, none, _⟩ => Argument.levels pass args
  | ⟨_, args, some trailing, _⟩ => max (Argument.levels pass args) (trailing.levels pass + 1)

/-- How many levels an analysis goes further in for the arguments of a call. -/
def Argument.levels (pass : Pass) : List Argument → Nat
  | [] => 0
  | ⟨value, _, _⟩ :: rest => max (value.levels pass + 1) (Argument.levels pass rest)

/-- How many levels an analysis goes further in below a lambda: one for its body
and those below the body. -/
def Lambda.levels (pass : Pass) : Lambda → Nat
  | ⟨_, body⟩ => Node.statementLevels pass body + 1

/-- How many levels an analysis goes further in for the statements of a block. -/
def Node.statementLevels (pass : Pass) : List Node → Nat
  | [] => 0
  | statement :: rest =>
      let below := if pass = .rendering ∧ statement.isBlock then 0 else statement.levels pass
      max (below + 1) (Node.statementLevels pass rest)

end

/-- The height of a node for an analysis: the node and the levels below it. -/
def Node.height (pass : Pass) (node : Node) : Nat :=
  node.levels pass + 1

/-- The height of a statement for recording.  A block is not entered. -/
def Node.recordHeight (statement : Node) : Nat :=
  (if statement.isBlock then 0 else statement.levels .rendering) + 1

/-- The greatest of the heights of some parts. -/
def Node.highest (pass : Pass) (parts : List (Step × Node)) : Nat :=
  (parts.map fun part => part.2.height pass).foldr max 0

@[simp]
theorem Node.highest_nil (pass : Pass) : Node.highest pass [] = 0 :=
  rfl

@[simp]
theorem Node.highest_cons (pass : Pass) (step : Step) (node : Node)
    (rest : List (Step × Node)) :
    Node.highest pass ((step, node) :: rest) = max (node.height pass) (Node.highest pass rest) :=
  rfl

theorem Node.highest_append (pass : Pass) (first second : List (Step × Node)) :
    Node.highest pass (first ++ second) =
      max (Node.highest pass first) (Node.highest pass second) := by
  induction first with
  | nil => simp
  | cons part rest ih =>
      rcases part with ⟨step, node⟩
      simp [ih, Nat.max_assoc]

theorem Node.highest_le_iff (pass : Pass) (parts : List (Step × Node)) (bound : Nat) :
    Node.highest pass parts ≤ bound ↔
      ∀ step node, (step, node) ∈ parts → node.height pass ≤ bound := by
  induction parts with
  | nil => simp
  | cons part rest ih =>
      rcases part with ⟨step, node⟩
      simp only [highest_cons, Nat.max_le, ih, List.mem_cons, Prod.mk.injEq]
      constructor
      · rintro ⟨first, others⟩ taken child (⟨rfl, rfl⟩ | member)
        · exact first
        · exact others taken child member
      · intro all
        constructor
        · exact all step node (.inl ⟨rfl, rfl⟩)
        · intro taken child member
          exact all taken child (.inr member)

theorem Node.height_le_highest {pass : Pass} {parts : List (Step × Node)} {step : Step}
    {node : Node} (member : (step, node) ∈ parts) :
    node.height pass ≤ Node.highest pass parts :=
  (Node.highest_le_iff pass parts _).mp (Nat.le_refl _) step node member

theorem Argument.levels_eq (pass : Pass) (args : List Argument) (start : Nat) :
    Argument.levels pass args =
      Node.highest pass (Step.toEach .argument (args.map Argument.value) start) := by
  induction args generalizing start with
  | nil => rfl
  | cons argument rest ih =>
      rcases argument with ⟨value, name, spread⟩
      simp [levels, Node.height, ih (start + 1)]

theorem Call.levels_eq (pass : Pass) (call : Call) :
    call.levels pass = Node.highest pass call.parts := by
  rcases call with ⟨name, args, trailing, typeArgs⟩
  rw [parts, Node.highest_append, ← Argument.levels_eq]
  cases trailing with
  | none => simp [levels]
  | some closure => simp [levels, Node.height, Node.levels]

theorem Node.statementLevels_search (statements : List Node) (start : Nat) :
    Node.statementLevels .search statements =
      Node.highest .search (Step.toEach .statement statements start) := by
  induction statements generalizing start with
  | nil => rfl
  | cons statement rest ih => simp [statementLevels, height, ih (start + 1)]

/-- The search goes into all parts of a node. -/
theorem Node.levels_search (node : Node) :
    node.levels .search = Node.highest .search node.parts := by
  cases node with
  | property decl =>
      rcases decl with ⟨name, type, value, delegate, mutable, text⟩
      cases value <;> cases delegate <;>
        simp [levels, PropertyDecl.levels, parts, PropertyDecl.parts, height]
  | binary left operator right => simp [levels, parts, height]
  | call invoked => exact invoked.levels_eq .search
  | lambda closure =>
      rcases closure with ⟨params, body⟩
      simp [levels, Lambda.levels, parts, height]
  | block statements => exact statementLevels_search statements 0
  | _ => rfl

/-- Rendering goes into the operands of a node that is no block. -/
theorem Node.levels_rendering (node : Node) (noBlock : node.isBlock = false) :
    node.levels .rendering = Node.highest .rendering node.operands := by
  cases node with
  | property decl =>
      rcases decl with ⟨name, type, value, delegate, mutable, text⟩
      cases value <;> cases delegate <;>
        simp [levels, PropertyDecl.levels, operands, PropertyDecl.operands, height]
  | binary left operator right => simp [levels, operands, parts, height]
  | call invoked => exact invoked.levels_eq .rendering
  | lambda closure =>
      rcases closure with ⟨params, body⟩
      simp [levels, Lambda.levels, operands, parts, height]
  | block statements => cases noBlock
  | _ => rfl

theorem Node.statementLevels_rendering_cons (statement : Node) (rest : List Node) :
    Node.statementLevels .rendering (statement :: rest) =
      max statement.recordHeight (Node.statementLevels .rendering rest) := by
  simp [statementLevels, recordHeight]

/-! ## The search -/

theorem Node.scanParts_takes {inside : Scope} {container : Step → Option String}
    {parts : List (Step × Node)} {harvest : Harvest}
    (each : ∀ step child, (step, child) ∈ parts →
      ∀ (within : Scope) (parent : Option String) (before : Harvest), before.Grown →
        before.Knows parent →
          within.Takes (child.levels .search) (child.scan within parent before))
    (grown : harvest.Grown) (knows : ∀ step, harvest.Knows (container step)) :
    inside.Takes (Node.highest .search parts)
      (Node.scanParts inside container parts harvest) := by
  induction parts generalizing harvest with
  | nil => exact inside.takes_ok harvest
  | cons part rest ih =>
      rcases part with ⟨step, child⟩
      simp only [scanParts, highest_cons, ← bind_assoc]
      apply Scope.Takes.bind
      · apply Scope.Takes.descend
        exact each step child List.mem_cons_self _ _ _ grown (knows step)
      · intro next scanned
        obtain ⟨within, _, scanned⟩ := (bind_eq_ok_iff _ _ _).mp scanned
        obtain ⟨nextGrown, grows⟩ := child.scan_grown _ _ _ _ grown scanned
        apply ih
        · intro other node member
          exact each other node (List.mem_cons_of_mem _ member)
        · exact nextGrown
        · intro other
          exact (knows other).mono grows

/-- The search of a node goes in as far as the levels below the node say. -/
theorem Node.scan_takes (node : Node) :
    ∀ (inside : Scope) (parent : Option String) (harvest : Harvest), harvest.Grown →
      harvest.Knows parent →
        inside.Takes (node.levels .search) (node.scan inside parent harvest) := by
  induction node using Node.parts_induction with
  | step node ih =>
      intro inside parent harvest grown knows
      rw [scan_eq, levels_search]
      cases found : node.widget? inside.vocabulary with
      | none => exact scanParts_takes ih grown fun _ => knows
      | some invoked =>
          obtain ⟨next, added⟩ := grown.add_ok invoked knows
          have controlsEq := (Harvest.add_eq_ok added).2.1
          simp only [added]
          apply scanParts_takes ih (grown.add added)
          intro step
          by_cases trailing : step = .trailing
          · -- The control has just been found.
            rintro uid named
            simp only [Step.containerIn, trailing, if_true, Option.some.injEq] at named
            simp [controlsEq, named]
          · simp only [Step.containerIn, trailing, if_false]
            apply knows.mono
            rw [controlsEq]
            exact List.prefix_append _ _

/-! ## Rendering -/

theorem Node.contents_takes {inside : Scope} {parts : List (Step × Node)}
    (each : ∀ step child, (step, child) ∈ parts →
      ∀ within : Scope, within.Takes (child.levels .rendering) (child.content within).outcome) :
    inside.Takes (Node.highest .rendering parts) (Node.contents inside parts).outcome := by
  induction parts with
  | nil => exact inside.takes_ok []
  | cons part rest ih =>
      rcases part with ⟨step, child⟩
      simp only [contents, highest_cons, ← bind_assoc, Analysis.outcome_bind]
      apply Scope.Takes.bind
      · apply Scope.Takes.descend
        exact each step child List.mem_cons_self _
      · intro first _
        apply Scope.Takes.map
        exact ih fun other node member => each other node (List.mem_cons_of_mem _ member)

theorem Node.recordOf_takes {statement : Node} {inside : Scope}
    (content : inside.Takes (statement.levels .rendering) (statement.content inside).outcome) :
    inside.Takes (if statement.isBlock then 0 else statement.levels .rendering)
      (statement.recordOf fun _ => statement.content inside).outcome := by
  cases block : statement.isBlock with
  | false =>
      obtain ⟨kind, recorded⟩ := statement.outcome_recordOf inside block
      rw [recorded]
      exact content.map _
  | true =>
      cases statement <;> cases block
      exact inside.takes_ok _

theorem Node.records_takes {inside : Scope} {statements : List Node}
    (each : ∀ statement ∈ statements,
      ∀ within : Scope,
        within.Takes (statement.levels .rendering) (statement.content within).outcome) :
    inside.Takes (Node.statementLevels .rendering statements)
      (Node.records inside statements).outcome := by
  induction statements with
  | nil => exact inside.takes_ok []
  | cons statement rest ih =>
      rw [statementLevels_rendering_cons]
      simp only [records, ← bind_assoc, Analysis.outcome_bind]
      apply Scope.Takes.bind
      · apply Scope.Takes.descend
        exact recordOf_takes (each statement List.mem_cons_self _)
      · intro record _
        apply Scope.Takes.map
        exact ih fun other member => each other (List.mem_cons_of_mem _ member)

/-- Rendering a node goes in as far as the levels below the node say. -/
theorem Node.content_takes (node : Node) :
    ∀ inside : Scope,
      inside.Takes (node.levels .rendering) (node.content inside).outcome := by
  induction node using Node.operands_induction with
  | block statements ih =>
      intro inside
      simp only [content, levels, Analysis.outcome_bind]
      exact (records_takes ih).map _
  | expression node noBlock ih =>
      intro inside
      obtain ⟨join, contentEq⟩ := node.content_eq noBlock
      rw [contentEq, levels_rendering node noBlock, Analysis.outcome_bind]
      exact (contents_takes ih).map _

theorem Node.render_takes (scope : Scope) (node : Node) :
    scope.Takes (node.height .rendering) (node.render scope).outcome := by
  rw [render, Analysis.outcome_bind]
  exact Scope.Takes.descend (node.content_takes _)

theorem Node.record_takes (scope : Scope) (statement : Node) :
    scope.Takes statement.recordHeight (statement.record scope).outcome := by
  rw [record, Analysis.outcome_bind]
  exact Scope.Takes.descend (recordOf_takes (statement.content_takes _))

theorem Node.recordHeight_of_noBlock {statement : Node} (noBlock : statement.isBlock = false) :
    statement.recordHeight = statement.height .rendering := by
  simp [recordHeight, height, noBlock]

theorem Node.blockRecords_takes (scope : Scope) (statements : List Node) :
    scope.Takes ((Node.block statements).height .rendering)
      (Node.blockRecords scope statements).outcome := by
  rw [blockRecords, Analysis.outcome_bind]
  exact Scope.Takes.descend (records_takes fun statement _ => statement.content_takes)

theorem Node.bodyRecords_takes (scope : Scope) (body : Node)
    (noReference : MethodShape.ofBody (some body) ≠ .reference) :
    scope.Takes (body.height .rendering) (Node.bodyRecords scope (some body)).outcome := by
  cases body with
  | block statements => exact blockRecords_takes scope statements
  | reference _ _ => exact absurd rfl noReference
  | _ =>
      rw [bodyRecords_of_expression rfl, Analysis.outcome_bind, ← recordHeight_of_noBlock rfl]
      exact (record_takes scope _).map _

/-! ## Comparing the two analyses -/

theorem Node.statementLevels_rendering_le_iff (statements : List Node) (bound : Nat) :
    Node.statementLevels .rendering statements ≤ bound ↔
      ∀ statement ∈ statements, statement.recordHeight ≤ bound := by
  induction statements with
  | nil => simp [statementLevels]
  | cons statement rest ih =>
      rw [statementLevels_rendering_cons, Nat.max_le, ih, List.forall_mem_cons]

theorem Node.recordHeight_le (statement : Node) :
    statement.recordHeight ≤ statement.height .rendering := by
  rw [recordHeight, height]
  split
  · exact Nat.le_add_left 1 _
  · exact Nat.le_refl _

theorem Node.height_le_levels {node child : Node} {step : Step}
    (member : (step, child) ∈ node.parts) :
    child.height .search ≤ node.levels .search := by
  rw [levels_search]
  exact height_le_highest member

/-- The search goes at least as far as rendering. -/
theorem Node.levels_rendering_le (node : Node) :
    node.levels .rendering ≤ node.levels .search := by
  induction node using Node.operands_induction with
  | block statements ih =>
      rw [levels, statementLevels_rendering_le_iff]
      intro statement member
      obtain ⟨step, inParts⟩ := statement_mem_parts member
      calc statement.recordHeight
          ≤ statement.height .rendering := statement.recordHeight_le
        _ ≤ statement.height .search := Nat.succ_le_succ (ih statement member)
        _ ≤ (Node.block statements).levels .search := height_le_levels inParts
  | expression node noBlock ih =>
      rw [levels_rendering node noBlock, highest_le_iff]
      intro step child member
      calc child.height .rendering
          ≤ child.height .search := Nat.succ_le_succ (ih step child member)
        _ ≤ node.levels .search := height_le_levels (node.operands_sublist.subset member)

end ViewOutline
