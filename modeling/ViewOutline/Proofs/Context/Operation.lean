import ViewOutline.ClassOutline
import ViewOutline.Containment.Scan
import ViewOutline.Context
import ViewOutline.Proofs.Analysis

/-!
# Operations on a context

A context is used by opening and closing levels and by asking for analyses, in
any order.  What each operation does to the levels and the notes is said once,
and what a run of operations does follows from it: as many levels are open as
were opened and not closed since, there are never more than the ceiling allows,
and notes are only added.
-/

namespace ViewOutline

/-- What a context can be asked for. -/
inductive Request where
  /-- A note. -/
  | degrade (subject detail : String)
  /-- The record of a statement. -/
  | record (statement : Node)
  /-- The text of an expression. -/
  | render (expression : Option Node)
  /-- The text of a declaration. -/
  | declaration (decl : PropertyDecl)
  /-- The records of a method body. -/
  | records (body : Option Node)
  /-- The kind of a property. -/
  | property (decl : PropertyDecl)
  /-- The outline of a method. -/
  | method (decl : FunctionDecl)
  /-- The outline of a class, under a name that may be given. -/
  | outline (decl : StructuredDecl) (className : Option String)
  /-- The controls of a class. -/
  | controls (members : List Node)

/-- The analysis that does what is asked for, without its result. -/
def Request.analysis (scope : Scope) : Request → Analysis Unit
  | .degrade subject detail => .degrade subject detail
  | .record statement => (fun _ => ()) <$> statement.record scope
  | .render expression => (fun _ => ()) <$> Node.renderText scope expression
  | .declaration decl => (fun _ => ()) <$> decl.renderText scope
  | .records body => (fun _ => ()) <$> Node.bodyRecords scope body
  | .property decl => (fun _ => ()) <$> decl.classify scope
  | .method decl => (fun _ => ()) <$> decl.outline scope
  | .outline decl className => (fun _ => ()) <$> decl.outline scope className
  | .controls members => (fun _ => ()) <$> Node.findControls scope members

/-- What can be done with a context. -/
inductive Operation where
  /-- Open a level and leave it open. -/
  | enter
  /-- Close the innermost open level. -/
  | leave
  /-- Ask for an analysis. -/
  | analyse (request : Request)

namespace Context

/-- Do one operation. -/
def perform (context : Context) : Operation → Context × Except Failure Unit
  | .enter => context.enter
  | .leave => (context.leave, .ok ())
  | .analyse request => context.run fun scope => request.analysis scope

/-- Do operations in order, whether they succeed or not. -/
def performAll (context : Context) (operations : List Operation) : Context :=
  operations.foldl (fun current operation => (current.perform operation).1) context

/-- A context with one more level open. -/
def opened (context : Context) : Context :=
  { context with scope := context.scope.deeper 1 }

/-- The positions of the levels that are open after an operation at a position,
the innermost first. -/
def openAfter (position : Nat) (levels : List Nat) :
    Operation → Except Failure Unit → List Nat
  | .enter, .ok () => position :: levels
  | .leave, _ => levels.tail
  | _, _ => levels

/-- The positions of the enters that are open after operations, the innermost
first. -/
def openEnters (context : Context) (position : Nat) (levels : List Nat) :
    List Operation → List Nat
  | [] => levels
  | operation :: rest =>
      let done := context.perform operation
      done.1.openEnters (position + 1) (openAfter position levels operation done.2) rest

variable {context : Context} {operation : Operation} {operations : List Operation}

@[simp]
theorem performAll_nil : context.performAll [] = context :=
  rfl

@[simp]
theorem performAll_cons :
    context.performAll (operation :: operations) =
      (context.perform operation).1.performAll operations :=
  rfl

theorem performAll_append (context : Context) (first second : List Operation) :
    context.performAll (first ++ second) = (context.performAll first).performAll second :=
  List.foldl_append

/-! ## One operation -/

/-- A level is opened below the ceiling and refused at it. -/
theorem enter_cases (context : Context) :
    (context.depth < context.scope.vocabulary.ceiling.height ∧
      context.enter = (context.opened, .ok ())) ∨
    (context.scope.vocabulary.ceiling.height ≤ context.depth ∧
      context.enter = (context, .error (.tooDeep context.scope.vocabulary.ceiling))) := by
  by_cases room : context.scope.depth < context.scope.vocabulary.ceiling.height
  · refine .inl ⟨room, ?_⟩
    rw [enter, (Scope.descend_eq_ok_iff _ _).mpr ⟨room, rfl⟩]
    rfl
  · refine .inr ⟨Nat.le_of_not_lt room, ?_⟩
    rw [enter, Scope.descend, if_neg room]

theorem refused_enter_iff (bounded : context.depth ≤ context.scope.vocabulary.ceiling.height) :
    context.enter.2 = .error (.tooDeep context.scope.vocabulary.ceiling) ↔
      context.depth = context.scope.vocabulary.ceiling.height := by
  rcases context.enter_cases with ⟨room, entered⟩ | ⟨full, refused⟩
  · simp [entered, Nat.ne_of_lt room]
  · simp [refused, Nat.le_antisymm bounded full]

theorem of_refused_enter {failure : Failure} (refused : context.enter.2 = .error failure) :
    failure = .tooDeep context.scope.vocabulary.ceiling ∧ context.enter.1 = context := by
  rcases context.enter_cases with ⟨_, entered⟩ | ⟨_, stopped⟩
  · rw [entered] at refused
    cases refused
  · rw [stopped] at refused ⊢
    cases refused
    exact ⟨rfl, rfl⟩

@[simp]
theorem vocabulary_perform (context : Context) (operation : Operation) :
    (context.perform operation).1.scope.vocabulary = context.scope.vocabulary := by
  cases operation with
  | enter =>
      rcases context.enter_cases with ⟨_, entered⟩ | ⟨_, refused⟩
      · rw [perform, entered]
        rfl
      · rw [perform, refused]
  | leave => rfl
  | analyse request => rfl

theorem notes_perform (context : Context) (operation : Operation) :
    context.notes <+: (context.perform operation).1.notes := by
  cases operation with
  | enter =>
      have kept : (context.perform .enter).1.notes = context.notes := by
        rcases context.enter_cases with ⟨_, entered⟩ | ⟨_, refused⟩
        · rw [perform, entered]
          rfl
        · rw [perform, refused]
      exact kept ▸ List.prefix_refl _
  | leave => exact List.prefix_refl _
  | analyse request => exact List.prefix_append _ _

/-- Opening pushes a level, closing pops one. -/
theorem depth_perform {levels : List Nat} (depthEq : context.depth = levels.length)
    (position : Nat) (operation : Operation) :
    (context.perform operation).1.depth =
      (openAfter position levels operation (context.perform operation).2).length := by
  cases operation with
  | enter =>
      rcases context.enter_cases with ⟨_, entered⟩ | ⟨_, refused⟩
      · simp only [perform, entered, openAfter, List.length_cons, ← depthEq]
        rfl
      · simp only [perform, refused, openAfter]
        exact depthEq
  | leave =>
      simp only [perform, openAfter, List.length_tail, ← depthEq]
      rfl
  | analyse request => exact depthEq

theorem depth_perform_le (bounded : context.depth ≤ context.scope.vocabulary.ceiling.height)
    (operation : Operation) :
    (context.perform operation).1.depth ≤ context.scope.vocabulary.ceiling.height := by
  cases operation with
  | enter =>
      rcases context.enter_cases with ⟨room, entered⟩ | ⟨_, refused⟩
      · rw [perform, entered]
        exact room
      · rw [perform, refused]
        exact bounded
  | leave => exact Nat.le_trans (Nat.sub_le _ _) bounded
  | analyse request => exact bounded

/-! ## Runs of operations -/

@[simp]
theorem vocabulary_performAll (context : Context) (operations : List Operation) :
    (context.performAll operations).scope.vocabulary = context.scope.vocabulary := by
  induction operations generalizing context with
  | nil => rfl
  | cons operation rest ih => rw [performAll_cons, ih, vocabulary_perform]

theorem notes_performAll (context : Context) (operations : List Operation) :
    context.notes <+: (context.performAll operations).notes := by
  induction operations generalizing context with
  | nil => exact List.prefix_refl _
  | cons operation rest ih => exact (context.notes_perform operation).trans (ih _)

theorem depth_performAll {levels : List Nat} (depthEq : context.depth = levels.length)
    (position : Nat) (operations : List Operation) :
    (context.performAll operations).depth =
      (context.openEnters position levels operations).length := by
  induction operations generalizing context position levels with
  | nil => exact depthEq
  | cons operation rest ih => exact ih (depth_perform depthEq position operation) (position + 1)

theorem depth_performAll_le (bounded : context.depth ≤ context.scope.vocabulary.ceiling.height)
    (operations : List Operation) :
    (context.performAll operations).depth ≤ context.scope.vocabulary.ceiling.height := by
  induction operations generalizing context with
  | nil => exact bounded
  | cons operation rest ih =>
      have stillBounded := depth_perform_le bounded operation
      rw [← vocabulary_perform context operation] at stillBounded ⊢
      exact ih stillBounded

end Context

end ViewOutline
