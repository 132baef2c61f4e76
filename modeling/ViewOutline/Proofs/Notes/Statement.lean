import ViewOutline.Proofs.Statement.Listing

/-!
# Notes on statements

Whatever is rendered, notes are written for statements only: one for each that
is of no analysed shape.  Rendering goes through lambdas at any depth, so the
statements are those of all blocks that are rendered, and they are noted in the
order in which they are written.  A block that stands as a statement is noted
and not rendered.
-/

namespace ViewOutline

/-- Whether a statement of this shape is analysed. -/
def Node.isAnalysed : Node → Bool
  | .property _ => true
  | .binary .. => true
  | .call _ => true
  | .literal .. => true
  | .name _ => true
  | .reference .. => true
  | .lambda _ => true
  | _ => false

/-- A statement stands somewhere in a node that is rendered: in a block that is
reached through rendered operands, or in a statement of such a block.  A block
that is itself a statement is not rendered. -/
def Node.Holds : Node → Way → Node → Prop :=
  Meets fun statement => !statement.isBlock

/-- A statement stands somewhere in the body of a function.  A body that is an
expression is itself a statement; a reference is none. -/
def Node.BodyHolds : Option Node → Way → Node → Prop
  | none, _, _ => False
  | some (.reference ..), _, _ => False
  | some (.block statements), way, statement => (Node.block statements).Holds way statement
  | some expression, way, statement =>
      way = [] ∧ statement = expression ∨ expression.Holds way statement

/-- The note on a statement, if it is of no analysed shape. -/
def Node.statementNote? (statement : Node) : Option String :=
  if statement.isAnalysed then none else some ("statement: " ++ statement.fallbackText)

/-- The notes on statements at places. -/
def notesAt (places : List (Way × Node)) : List String :=
  places.filterMap fun place => place.2.statementNote?

/-- Notes are those on the statements that are held at some ways, in the order of
writing. -/
def NotesOn (held : Way → Node → Prop) (notes : List String) : Prop :=
  ∃ places : List (Way × Node),
    (∀ way statement, (way, statement) ∈ places ↔ held way statement) ∧
    places.Pairwise (fun first second => Way.Before first.1 second.1) ∧
    notes = notesAt places

/-! ## Listing the statements -/

/-- The statements that stand somewhere in a node, in the order of writing. -/
def Node.held : Node → List (Way × Node) :=
  met fun statement => !statement.isBlock

/-- A statement and the statements that stand somewhere in it. -/
def Node.kept : Node → List (Way × Node) :=
  andMet fun statement => !statement.isBlock

theorem Node.held_block (statements : List Node) :
    (Node.block statements).held = below kept (Step.toEach .statement statements 0) :=
  met_block _ statements

theorem Node.held_eq {node : Node} (noBlock : node.isBlock = false) :
    node.held = below held node.operands :=
  met_eq _ noBlock

/-- The statements are listed in the order of writing. -/
theorem Node.held_ordered (node : Node) :
    node.held.Pairwise fun first second => Way.Before first.1 second.1 :=
  met_pairwise (fun _ _ _ _ => List.Lex.rel) (fun _ _ _ => List.Lex.cons)
    (fun _ _ _ _ => List.Lex.nil) node

theorem Node.notesOn_held (node : Node) : NotesOn node.Holds (notesAt node.held) :=
  ⟨node.held, node.mem_met_iff, node.held_ordered, rfl⟩

/-! ## Writing the notes -/

theorem notesAt_below (list : Node → List (Way × Node)) (parts : List (Step × Node)) :
    notesAt (below list parts) = parts.flatMap fun part => notesAt (list part.2) := by
  simp only [notesAt, below, List.filterMap_flatMap, List.filterMap_map]
  rfl

theorem Node.contents_notes {parts : List (Step × Node)}
    (each : ∀ step child, (step, child) ∈ parts → ∀ inside,
      (child.content inside).Returns fun _ notes => notes = notesAt child.held)
    (inside : Scope) :
    (Node.contents inside parts).Returns fun _ notes => notes = notesAt (below held parts) := by
  induction parts with
  | nil => exact .pure rfl
  | cons part rest ih =>
      rcases part with ⟨step, child⟩
      have others := ih fun other node member => each other node (List.mem_cons_of_mem _ member)
      rw [contents, notesAt_below, List.flatMap_cons, ← notesAt_below]
      apply Analysis.Returns.liftBind
      intro within
      apply (each step child List.mem_cons_self within).bind
      rintro _ _ rfl
      apply others.bind
      rintro _ _ rfl
      exact .pure (by rw [List.append_nil])

/-- Only a statement of an analysed shape has statements in it. -/
theorem Node.kept_eq (statement : Node) :
    statement.kept =
      ([], statement) :: if statement.isAnalysed then statement.held else [] := by
  cases statement with
  | file _ | structured _ | function _ | initializer _ | unknown _ _ =>
      rw [kept, andMet, ← held, held_eq rfl]
      rfl
  | _ => rfl

theorem Node.isAnalysed_eq (statement : Node) :
    statement.isAnalysed = statement.recordKind?.isSome := by
  cases statement <;> rfl

theorem Node.recordOf_notes {statement : Node} {inside : Scope}
    (content : (statement.content inside).Returns fun _ notes => notes = notesAt statement.held) :
    (statement.recordOf fun _ => statement.content inside).Returns fun _ notes =>
      notes = notesAt statement.kept := by
  have analysed := statement.isAnalysed_eq
  rw [kept_eq, recordOf]
  cases kind : statement.recordKind? with
  | some kind =>
      rw [kind, Option.isSome_some] at analysed
      apply content.bind
      rintro _ _ rfl
      exact .pure (by simp [notesAt, statementNote?, analysed])
  | none =>
      rw [kind, Option.isSome_none] at analysed
      apply (Analysis.Returns.degrade _ _).bind
      rintro _ _ rfl
      exact .pure (by simp [notesAt, statementNote?, analysed])

theorem Node.records_notes {statements : List Node}
    (each : ∀ statement ∈ statements, ∀ inside,
      (statement.content inside).Returns fun _ notes => notes = notesAt statement.held)
    (inside : Scope) :
    (Node.records inside statements).Returns fun _ notes =>
      notes = statements.flatMap fun statement => notesAt statement.kept := by
  induction statements with
  | nil => exact .pure rfl
  | cons statement rest ih =>
      have others := ih fun other member => each other (List.mem_cons_of_mem _ member)
      rw [records]
      apply Analysis.Returns.liftBind
      intro within
      apply (recordOf_notes (each statement List.mem_cons_self within)).bind
      rintro _ _ rfl
      apply others.bind
      rintro _ _ rfl
      exact .pure (by rw [List.append_nil, List.flatMap_cons])

theorem Node.notesAt_held_block (statements : List Node) :
    notesAt (Node.block statements).held =
      statements.flatMap fun statement => notesAt statement.kept := by
  have nodes : (Step.toEach .statement statements 0).map Prod.snd = statements := by
    rw [Step.toEach, List.map_map]
    exact List.zipIdx_map_fst 0 statements
  rw [held_block, notesAt_below]
  conv_rhs => rw [← nodes, List.flatMap_map]

/-- Rendering a node leaves the notes on the statements that stand in it. -/
theorem Node.content_notes (node : Node) :
    ∀ inside, (node.content inside).Returns fun _ notes => notes = notesAt node.held := by
  induction node using Node.operands_induction with
  | block statements ih =>
      intro inside
      rw [content, notesAt_held_block]
      apply (records_notes ih inside).bind
      rintro _ _ rfl
      exact .pure (List.append_nil _)
  | expression node noBlock ih =>
      intro inside
      obtain ⟨join, contentEq⟩ := node.content_eq noBlock
      rw [contentEq, held_eq noBlock]
      apply (contents_notes ih inside).bind
      rintro _ _ rfl
      exact .pure (List.append_nil _)

theorem Node.render_notes (scope : Scope) (node : Node) :
    (node.render scope).Returns fun _ notes => notes = notesAt node.held :=
  .liftBind node.content_notes

theorem Node.blockRecords_notes (scope : Scope) (statements : List Node) :
    (Node.blockRecords scope statements).Returns fun _ notes =>
      NotesOn (Node.block statements).Holds notes := by
  have noted := (Node.block statements).notesOn_held
  rw [notesAt_held_block] at noted
  apply Analysis.Returns.liftBind
  intro within
  constructor
  intro value returned
  have written := Node.records_notes (fun statement (_ : statement ∈ statements) =>
    statement.content_notes) within
  rw [written.holds value returned]
  exact noted

theorem Node.notesOn_kept {statement : Node} (noBlock : statement.isBlock = false) :
    NotesOn (fun way inner => way = [] ∧ inner = statement ∨ statement.Holds way inner)
      (notesAt statement.kept) := by
  refine ⟨statement.kept, ?_,
    andMet_pairwise (fun _ _ _ => List.Lex.nil) statement.held_ordered, rfl⟩
  intro way inner
  simp only [kept, mem_andMet_iff, noBlock, Bool.not_false, true_and, mem_met_iff, Holds]

/-- Recording a body leaves the notes on the statements that stand in it. -/
theorem Node.bodyRecords_notes (scope : Scope) (body : Option Node) :
    (Node.bodyRecords scope body).Returns fun _ notes => NotesOn (Node.BodyHolds body) notes := by
  have nothing : NotesOn (fun _ _ => False) [] := ⟨[], by simp, .nil, rfl⟩
  cases body with
  | none => exact .pure nothing
  | some body =>
      cases body with
      | reference _ _ => exact .pure nothing
      | block statements => exact blockRecords_notes scope statements
      | _ =>
          rw [bodyRecords_of_expression rfl]
          apply Analysis.Returns.bind
          · exact .liftBind fun within => recordOf_notes (content_notes _ within)
          · rintro _ _ rfl
            apply Analysis.Returns.pure
            rw [List.append_nil]
            exact notesOn_kept rfl

end ViewOutline
