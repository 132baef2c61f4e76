import ViewOutline.Proofs.Context.Operation

/-!
# Analyses move by move

An analysis is given the number of open levels and cannot change it.  It can also
be carried out on the context itself: it then opens a level before it goes further
in and closes the level when it comes out again, also where it was stopped inside.
All that it learns about the levels is whether one could be opened.

A program is an analysis in this form.  Its moves are operations on the context.
They leave as many levels open as they found, close none that they did not open,
and take the context where the analysis takes it.
-/

namespace ViewOutline

/-- A computation that opens a level only around what is done inside it. -/
inductive Program : Type → Type 1 where
  /-- End with an outcome. -/
  | done {α : Type} (outcome : Except Failure α) : Program α
  /-- Write a note. -/
  | degrade (subject detail : String) : Program Unit
  /-- Look up the vocabulary. -/
  | vocabulary : Program Vocabulary
  /-- Continue with the value of a first part. -/
  | bind {α β : Type} (first : Program α) (next : α → Program β) : Program β
  /-- Do something one level further in. -/
  | nested {α : Type} (body : Program α) : Program α

/-- What a program did with a context, and how it ended. -/
structure Execution (α : Type) where
  moves : List Operation
  outcome : Except Failure α

variable {α β : Type}

namespace Program

/-- Carry out a program.  A level that was opened is closed in any case. -/
def exec {α : Type} : Program α → Context → Execution α
  | .done outcome, _ => ⟨[], outcome⟩
  | .degrade subject detail, _ => ⟨[.analyse (.degrade subject detail)], .ok ()⟩
  | .vocabulary, context => ⟨[], .ok context.scope.vocabulary⟩
  | .bind first next, context =>
      let started := first.exec context
      match started.outcome with
      | .ok value =>
          let continued := (next value).exec (context.performAll started.moves)
          ⟨started.moves ++ continued.moves, continued.outcome⟩
      | .error failure => ⟨started.moves, .error failure⟩
  | .nested body, context =>
      match context.enter with
      | (within, .ok ()) =>
          let inside := body.exec within
          ⟨.enter :: (inside.moves ++ [.leave]), inside.outcome⟩
      | (_, .error failure) => ⟨[.enter], .error failure⟩

/-- The context after a program. -/
def after (program : Program α) (context : Context) : Context :=
  context.performAll (program.exec context).moves

end Program

/-! ## Balance -/

/-- Moves that leave the levels as they found them, and on the way close none
but their own. -/
structure Context.Balanced (context : Context) (moves : List Operation) : Prop where
  settled : (context.performAll moves).scope = context.scope
  above : ∀ before, before <+: moves → context.depth ≤ (context.performAll before).depth

namespace Context.Balanced

variable {context : Context} {first second : List Operation}

theorem nil (context : Context) : context.Balanced [] where
  settled := rfl
  above before initial := by
    rw [List.prefix_nil.mp initial]
    exact Nat.le_refl _

/-- A single move that leaves the levels alone. -/
theorem single {move : Operation} (settled : (context.perform move).1.scope = context.scope) :
    context.Balanced [move] where
  settled := settled
  above before initial := by
    rcases List.prefix_cons_iff.mp initial with rfl | ⟨rest, rfl, restInitial⟩
    · exact Nat.le_refl _
    · rw [List.prefix_nil.mp restInitial]
      exact Nat.le_of_eq (congrArg Scope.depth settled.symm)

theorem append (balanced : context.Balanced first)
    (next : (context.performAll first).Balanced second) :
    context.Balanced (first ++ second) where
  settled := by
    rw [performAll_append, next.settled, balanced.settled]
  above before initial := by
    rcases List.prefix_or_prefix_of_prefix initial (List.prefix_append first second) with
      early | ⟨late, rfl⟩
    · exact balanced.above before early
    · have lateInitial := (List.prefix_append_right_inj first).mp initial
      have sameDepth : (context.performAll first).depth = context.depth :=
        congrArg Scope.depth balanced.settled
      rw [performAll_append, ← sameDepth]
      exact next.above late lateInitial

/-- Moves inside a level that is opened before them and closed after them. -/
theorem bracket {inside : List Operation} (entered : context.enter = (context.opened, .ok ()))
    (balanced : context.opened.Balanced inside) :
    context.Balanced (.enter :: (inside ++ [.leave])) := by
  have settled : ((context.opened.performAll inside).leave).scope = context.scope := by
    rw [leave, balanced.settled]
    rfl
  constructor
  · rw [performAll_cons, perform, entered, performAll_append]
    exact settled
  · intro before initial
    rcases List.prefix_cons_iff.mp initial with rfl | ⟨rest, rfl, restInitial⟩
    · exact Nat.le_refl _
    rw [performAll_cons, perform, entered]
    -- Either the level was closed again, or all is still inside it.
    rcases List.prefix_concat_iff.mp restInitial with rfl | early
    · rw [performAll_append]
      exact Nat.le_of_eq (congrArg Scope.depth settled.symm)
    · exact Nat.le_trans (Nat.le_succ _) (balanced.above rest early)

end Context.Balanced

theorem Program.exec_balanced (program : Program α) (context : Context) :
    context.Balanced (program.exec context).moves := by
  induction program generalizing context with
  | done outcome => exact .nil context
  | degrade subject detail => exact .single rfl
  | vocabulary => exact .nil context
  | bind first next ihFirst ihNext =>
      simp only [exec]
      split
      · exact (ihFirst context).append (ihNext _ _)
      · exact ihFirst context
  | nested body ih =>
      rcases context.enter_cases with ⟨_, entered⟩ | ⟨_, refused⟩
      · simp only [exec, entered]
        exact .bracket entered (ih _)
      · simp only [exec, refused]
        exact .single (by rw [Context.perform, refused])

/-! ## Analyses -/

namespace Context

theorem run_lift (context : Context) (outcome : Except Failure α) :
    context.run (fun _ => (liftM outcome : Analysis α)) = (context, outcome) :=
  congrArg (fun notes => ({ context with notes }, outcome)) (List.append_nil context.notes)

theorem run_bind (context : Context) (first : Scope → Analysis α)
    (next : α → Scope → Analysis β) :
    context.run (fun scope => first scope >>= fun value => next value scope) =
      match context.run first with
      | (after, .ok value) => after.run (next value)
      | (after, .error failure) => (after, .error failure) := by
  cases outcome : (first context.scope).outcome with
  | ok value =>
      simp only [run, Analysis.notes_bind, Analysis.outcome_bind, outcome, List.append_assoc]
      rfl
  | error failure =>
      simp only [run, Analysis.notes_bind, Analysis.outcome_bind, outcome, List.append_nil]
      rfl

/-- Going further in is opening a level, and coming out is closing it. -/
theorem run_descend (context : Context) (body : Scope → Analysis α) :
    context.run (fun scope => (liftM scope.descend : Analysis Scope) >>= body) =
      match context.enter with
      | (within, .ok ()) => ((within.run body).1.leave, (within.run body).2)
      | (_, .error failure) => (context, .error failure) := by
  by_cases room : context.scope.depth < context.scope.vocabulary.ceiling.height
  · have descended := (Scope.descend_eq_ok_iff _ _).mpr ⟨room, rfl⟩
    simp only [run, enter, Analysis.notes_bind, Analysis.outcome_bind, Analysis.outcome_lift,
      descended]
    rfl
  · have stopped : context.scope.descend = .error (.tooDeep context.scope.vocabulary.ceiling) :=
      if_neg room
    simp only [run, enter, Analysis.notes_bind, Analysis.outcome_bind, Analysis.outcome_lift,
      stopped]
    exact context.run_lift _

end Context

/-- An analysis that a program can carry out, the same one in every context. -/
def Stepwise (analysis : Scope → Analysis α) : Prop :=
  ∃ program : Program α, ∀ context : Context,
    context.run analysis = (program.after context, (program.exec context).outcome)

namespace Stepwise

theorem lift (outcome : Except Failure α) :
    Stepwise fun _ => (liftM outcome : Analysis α) :=
  ⟨.done outcome, fun context => context.run_lift outcome⟩

/-- An event that is no note leaves the context alone. -/
theorem log {event : Event} (noNote : event.note? = none) :
    Stepwise fun _ => Analysis.log event := by
  refine ⟨.done (.ok ()), ?_⟩
  intro context
  have noNotes : (Analysis.log event).notes = [] := List.filterMap_cons_none noNote
  rw [Context.run, noNotes, List.append_nil]
  rfl

theorem degrade (subject detail : String) :
    Stepwise fun _ => Analysis.degrade subject detail :=
  ⟨.degrade subject detail, fun _ => rfl⟩

theorem bind {first : Scope → Analysis α} {next : α → Scope → Analysis β}
    (stepwise : Stepwise first) (rest : ∀ value, Stepwise (next value)) :
    Stepwise fun scope => first scope >>= fun value => next value scope := by
  obtain ⟨program, carries⟩ := stepwise
  -- There is a program for each value, and one of them is chosen.
  refine ⟨.bind program fun value => (rest value).choose, ?_⟩
  intro context
  rw [Context.run_bind, carries context]
  cases outcome : (program.exec context).outcome with
  | ok value =>
      simp only [Program.after, Program.exec, outcome, Context.performAll_append]
      exact (rest value).choose_spec _
  | error failure => simp only [Program.after, Program.exec, outcome]

/-- What depends on the vocabulary, if it is carried out for each vocabulary apart. -/
theorem ofVocabulary {analysis : Scope → Analysis α}
    (each : ∀ vocabulary, ∃ known : Scope → Analysis α, Stepwise known ∧
      ∀ scope, scope.vocabulary = vocabulary → analysis scope = known scope) :
    Stepwise analysis := by
  refine ⟨.bind .vocabulary fun vocabulary => (each vocabulary).choose_spec.1.choose, ?_⟩
  intro context
  have carries := (each context.scope.vocabulary).choose_spec.1.choose_spec context
  have agrees := (each context.scope.vocabulary).choose_spec.2 context.scope rfl
  simp only [Program.after, Program.exec, List.nil_append, Context.performAll_nil]
  rw [Context.run, agrees]
  exact carries

/-- What is done one level further in. -/
theorem descend {body : Scope → Analysis α} (stepwise : Stepwise body) :
    Stepwise fun scope => (liftM scope.descend : Analysis Scope) >>= body := by
  obtain ⟨program, carries⟩ := stepwise
  refine ⟨.nested program, ?_⟩
  intro context
  rw [Context.run_descend]
  rcases context.enter_cases with ⟨_, entered⟩ | ⟨_, refused⟩
  · simp only [entered, carries, Program.after, Program.exec, Context.performAll_cons,
      Context.perform, Context.performAll_append, Context.performAll_nil]
  · simp only [refused, Program.after, Program.exec, Context.performAll_cons, Context.perform,
      Context.performAll_nil]

end Stepwise

end ViewOutline
