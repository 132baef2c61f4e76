import ViewOutline.Proofs.Context.Program
import ViewOutline.Proofs.Traversal

/-!
# Contexts under analysis

Every analysis that a context can be asked for is carried out by a program, node
by node.  So it opens and closes levels in pairs wherever it stops, and what is
known about runs of operations holds at every moment inside an analysis, too.
-/

namespace ViewOutline

/-- A traversal is carried out by a program, step by step. -/
theorem Traversal.stepwise {α : Type} {analysis : Scope → Analysis α}
    (traversal : Traversal analysis) : Stepwise analysis := by
  induction traversal with
  | lift outcome => exact .lift outcome
  | log noNote _ => exact .log noNote
  | degrade subject detail => exact .degrade subject detail
  | bind _ _ first next => exact first.bind next
  | descend _ body => exact body.descend
  | consult question next _ _ each =>
      apply Stepwise.ofVocabulary
      intro vocabulary
      refine ⟨next (question vocabulary), each _, ?_⟩
      rintro scope rfl
      rfl

theorem Node.notes_findControls (scope : Scope) (members : List Node) :
    (Node.findControls scope members).notes = [] := by
  rw [findControls, Analysis.notes_bind]
  cases Node.scanMembers scope members .empty with
  | error failure => rfl
  | ok harvest => rfl

/-! ## Requests -/

theorem Request.analysis_traversal (request : Request) :
    Traversal fun scope => request.analysis scope := by
  cases request with
  | degrade subject detail => exact .degrade subject detail
  | record statement => exact statement.record_traversal.map _
  | render expression => exact (Node.renderText_traversal expression).map _
  | declaration decl => exact decl.renderText_traversal.map _
  | records body => exact (Node.bodyRecords_traversal body).map _
  | property decl => exact decl.classify_traversal.map _
  | method decl => exact decl.outline_traversal.map _
  | outline decl className => exact (decl.outline_traversal className).map _
  | controls members => exact (Node.findControls_traversal members).map _

theorem Request.analysis_stepwise (request : Request) :
    Stepwise fun scope => request.analysis scope :=
  request.analysis_traversal.stepwise

/-- A request leaves the levels as it finds them, also where it is stopped. -/
theorem Request.depth_perform (context : Context) (request : Request) :
    (context.perform (.analyse request)).1.depth = context.depth := by
  obtain ⟨program, carries⟩ := request.analysis_stepwise
  rw [Context.perform, carries context]
  exact congrArg Scope.depth (program.exec_balanced context).settled

theorem Request.notes_perform_controls (context : Context) (members : List Node) :
    (context.perform (.analyse (.controls members))).1.notes = context.notes := by
  have noNotes : (analysis context.scope (.controls members)).notes = [] := by
    rw [analysis, map_eq_pure_bind, Analysis.notes_bind, Node.notes_findControls]
    cases (Node.findControls context.scope members).outcome <;> rfl
  rw [Context.perform, Context.run, noNotes, List.append_nil]

/-- What is true of a context after operations on a fresh one. -/
structure Context.Disciplined (vocabulary : Vocabulary) (operations : List Operation)
    (context : Context) : Prop where
  /-- As many levels are open as were opened and not closed since. -/
  depth : context.depth = ((Context.new vocabulary).openEnters 0 [] operations).length
  bounded : context.depth ≤ vocabulary.ceiling.height
  /-- A level is refused at the ceiling and nowhere else. -/
  refused_iff : (context.perform .enter).2 = .error (.tooDeep vocabulary.ceiling) ↔
    context.depth = vocabulary.ceiling.height
  /-- There is no other reason to refuse a level, and nothing happens then. -/
  refused : ∀ failure, (context.perform .enter).2 = .error failure →
    failure = .tooDeep vocabulary.ceiling ∧ (context.perform .enter).1 = context
  /-- Analyses leave the levels as they find them. -/
  analysed : ∀ request, (context.perform (.analyse request)).1.depth = context.depth
  /-- An analysis is carried out by one program in all contexts.  At every moment
  of it the levels that it found are open, no more than the ceiling allows are
  open, and the notes that it found are kept. -/
  carried : ∀ request, ∃ program : Program Unit,
    (∀ other : Context, other.perform (.analyse request) =
      (program.after other, (program.exec other).outcome)) ∧
    ∀ moves, moves <+: (program.exec context).moves →
      context.depth ≤ (context.performAll moves).depth ∧
      (context.performAll moves).depth ≤ vocabulary.ceiling.height ∧
      context.notes <+: (context.performAll moves).notes
  /-- Notes are only added, at the end. -/
  notes : ∀ before after, operations = before ++ after →
    ((Context.new vocabulary).performAll before).notes <+: context.notes
  /-- The search for controls adds none. -/
  searched : ∀ members,
    (context.perform (.analyse (.controls members))).1.notes = context.notes

/-- A context is disciplined after any operations. -/
theorem performAll_disciplined (vocabulary : Vocabulary) (operations : List Operation) :
    ((Context.new vocabulary).performAll operations).Disciplined vocabulary operations := by
  have sameVocabulary :
      ((Context.new vocabulary).performAll operations).scope.vocabulary = vocabulary :=
    Context.vocabulary_performAll _ _
  have bounded :
      ((Context.new vocabulary).performAll operations).depth ≤ vocabulary.ceiling.height :=
    Context.depth_performAll_le (Nat.zero_le _) operations
  have notes : ∀ before after, operations = before ++ after →
      ((Context.new vocabulary).performAll before).notes <+:
        ((Context.new vocabulary).performAll operations).notes := by
    rintro before after rfl
    rw [Context.performAll_append]
    exact Context.notes_performAll _ after
  have depth : ((Context.new vocabulary).performAll operations).depth =
      ((Context.new vocabulary).openEnters 0 [] operations).length :=
    Context.depth_performAll rfl 0 operations
  generalize (Context.new vocabulary).performAll operations = context at *
  subst sameVocabulary
  refine ⟨depth, bounded, Context.refused_enter_iff bounded, fun _ => Context.of_refused_enter,
    Request.depth_perform context, ?_, notes, Request.notes_perform_controls context⟩
  intro request
  obtain ⟨program, carries⟩ := request.analysis_stepwise
  refine ⟨program, carries, ?_⟩
  intro moves initial
  exact ⟨(program.exec_balanced context).above moves initial,
    Context.depth_performAll_le bounded moves, context.notes_performAll moves⟩

end ViewOutline
