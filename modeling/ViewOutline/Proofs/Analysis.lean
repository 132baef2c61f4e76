import ViewOutline.Analysis

/-!
# Outcomes and the ceiling

The outcome of a computation in steps is found from the outcomes of its steps;
the events do not matter for it.  Most computations can only fail in one way:
they succeed where they fit below the ceiling and otherwise stop at it.
-/

namespace ViewOutline

variable {α β : Type}

theorem bind_eq_ok_iff (first : Except Failure α) (next : α → Except Failure β) (result : β) :
    (first >>= next) = .ok result ↔ ∃ value, first = .ok value ∧ next value = .ok result := by
  cases first with
  | error failure => simp [Bind.bind, Except.bind]
  | ok value => simp [Bind.bind, Except.bind]

namespace Analysis

@[simp]
theorem outcome_bind (first : Analysis α) (next : α → Analysis β) :
    (first >>= next).outcome = first.outcome >>= fun value => (next value).outcome := by
  cases outcome : first.outcome with
  | error failure => exact outcome_bind_error next outcome
  | ok value => exact outcome_bind_ok next outcome

@[simp]
theorem outcome_lift (outcome : Except Failure α) :
    (liftM outcome : Analysis α).outcome = outcome :=
  rfl

@[simp]
theorem outcome_log (event : Event) : (log event).outcome = .ok () :=
  rfl

@[simp]
theorem outcome_degrade (subject detail : String) : (degrade subject detail).outcome = .ok () :=
  rfl

@[simp]
theorem outcome_fail (failure : Failure) : (fail failure : Analysis α).outcome = .error failure :=
  rfl

/-- What follows a first part matters only for the value that the first part has. -/
theorem bind_eq_bind {first : Analysis α} {next other : α → Analysis β}
    (same : ∀ value, first.outcome = .ok value → next value = other value) :
    first >>= next = first >>= other := by
  cases outcome : first.outcome with
  | error failure => simp [Bind.bind, andThen, outcome]
  | ok value => simp [Bind.bind, andThen, outcome, same value outcome]

/-- A handler that only renames failures does nothing else. -/
theorem outcome_recover_fail (analysis : Analysis α) (rename : Failure → Failure) :
    (analysis.recover fun failure => fail (rename failure)).outcome =
      analysis.outcome.mapError rename := by
  rw [recover]
  split
  · rename_i returns
    rw [returns]
    rfl
  · rename_i fails
    rw [fails]
    rfl

/-- The notes of two computations in turn: those of the first, and of the second
if it is reached. -/
theorem notes_bind (first : Analysis α) (next : α → Analysis β) :
    (first >>= next).notes =
      first.notes ++
        match first.outcome with
        | .ok value => (next value).notes
        | .error _ => [] := by
  cases outcome : first.outcome with
  | error failure => simp [notes, events_bind_error next outcome]
  | ok value => simp [notes, events_bind_ok next outcome]

/-- Two computations end alike and leave the same notes. -/
structure Alike (first second : Analysis α) : Prop where
  outcome : first.outcome = second.outcome
  notes : first.notes = second.notes

theorem Alike.refl (analysis : Analysis α) : analysis.Alike analysis :=
  ⟨rfl, rfl⟩

theorem Alike.symm {first second : Analysis α} (alike : first.Alike second) :
    second.Alike first :=
  ⟨alike.outcome.symm, alike.notes.symm⟩

theorem Alike.trans {first second third : Analysis α} (alike : first.Alike second)
    (other : second.Alike third) : first.Alike third :=
  ⟨alike.outcome.trans other.outcome, alike.notes.trans other.notes⟩

theorem Alike.bind {first second : Analysis α} {next other : α → Analysis β}
    (alike : first.Alike second) (nextAlike : ∀ value, (next value).Alike (other value)) :
    (first >>= next).Alike (second >>= other) := by
  constructor
  · simp only [outcome_bind, alike.outcome, (nextAlike _).outcome]
  · simp only [notes_bind, alike.outcome, alike.notes, (nextAlike _).notes]

/-- After a first part that succeeds, computations are alike if what follows is. -/
theorem Alike.after {first : Analysis α} {value : α} {next other : α → Analysis β}
    (succeeds : first.outcome = .ok value) (alike : (next value).Alike (other value)) :
    (first >>= next).Alike (first >>= other) := by
  constructor
  · rw [outcome_bind_ok next succeeds, outcome_bind_ok other succeeds, alike.outcome]
  · rw [notes_bind, notes_bind, succeeds]
    exact congrArg _ alike.notes

/-- Where a computation returns, its value and its notes are as said. -/
structure Returns (analysis : Analysis α) (said : α → List String → Prop) : Prop where
  holds : ∀ value, analysis.outcome = .ok value → said value analysis.notes

namespace Returns

theorem pure {said : α → List String → Prop} {value : α} (holds : said value []) :
    (Pure.pure value : Analysis α).Returns said := by
  constructor
  rintro _ ⟨⟩
  exact holds

theorem fail {said : α → List String → Prop} (failure : Failure) :
    (Analysis.fail failure : Analysis α).Returns said :=
  ⟨by rintro _ ⟨⟩⟩

theorem degrade (subject detail : String) :
    (Analysis.degrade subject detail).Returns fun _ notes => notes = [subject ++ ": " ++ detail] :=
  ⟨fun _ _ => rfl⟩

theorem log {event : Event} (noNote : event.note? = none) :
    (Analysis.log event).Returns fun _ notes => notes = [] :=
  ⟨fun _ _ => List.filterMap_cons_none noNote⟩

theorem bind {first : Analysis α} {next : α → Analysis β} {before : α → List String → Prop}
    {said : β → List String → Prop} (returns : first.Returns before)
    (rest : ∀ value notes, before value notes →
      (next value).Returns fun result more => said result (notes ++ more)) :
    (first >>= next).Returns said := by
  constructor
  intro result returned
  rw [outcome_bind] at returned
  obtain ⟨value, outcome, continued⟩ := (bind_eq_ok_iff _ _ _).mp returned
  rw [notes_bind, outcome]
  exact (rest value first.notes (returns.holds value outcome)).holds result continued

/-- What is no computation of its own leaves no notes. -/
theorem liftBind {outcome : Except Failure α} {next : α → Analysis β}
    {said : β → List String → Prop} (rest : ∀ value, (next value).Returns said) :
    ((liftM outcome : Analysis α) >>= next).Returns said := by
  have noNotes : (liftM outcome : Analysis α).Returns fun _ notes => notes = [] :=
    ⟨fun _ _ => rfl⟩
  apply noNotes.bind
  rintro value _ rfl
  exact rest value

end Returns

end Analysis

namespace Scope

/-- The scope some levels further in. -/
def deeper (scope : Scope) (levels : Nat) : Scope :=
  { scope with depth := scope.depth + levels }

@[simp]
theorem deeper_deeper (scope : Scope) (first second : Nat) :
    (scope.deeper first).deeper second = scope.deeper (first + second) := by
  simp [deeper, Nat.add_assoc]

@[simp]
theorem depth_deeper (scope : Scope) (levels : Nat) :
    (scope.deeper levels).depth = scope.depth + levels :=
  rfl

@[simp]
theorem vocabulary_deeper (scope : Scope) (levels : Nat) :
    (scope.deeper levels).vocabulary = scope.vocabulary :=
  rfl

theorem descend_eq_ok_iff (scope within : Scope) :
    scope.descend = .ok within ↔
      scope.depth < scope.vocabulary.ceiling.height ∧ within = scope.deeper 1 := by
  by_cases room : scope.depth < scope.vocabulary.ceiling.height
  · simp [descend, room, deeper, eq_comm]
  · simp [descend, room]

/-- A computation in a scope stops because the ceiling is reached. -/
def Exceeded (scope : Scope) (outcome : Except Failure α) : Prop :=
  outcome = .error (.tooDeep scope.vocabulary.ceiling)

/-- A computation in a scope goes a number of levels further in.  It stops only
where the ceiling does not leave room for them. -/
structure Takes (scope : Scope) (levels : Nat) (outcome : Except Failure α) : Prop where
  returns : levels = 0 ∨ scope.depth + levels ≤ scope.vocabulary.ceiling.height →
    ∃ value, outcome = .ok value
  stops : levels ≠ 0 → scope.vocabulary.ceiling.height < scope.depth + levels →
    scope.Exceeded outcome

theorem takes_ok (scope : Scope) (value : α) : scope.Takes 0 (.ok value) where
  returns _ := ⟨value, rfl⟩
  stops nonzero _ := absurd rfl nonzero

theorem Takes.exceeded_iff {scope : Scope} {levels : Nat} {outcome : Except Failure α}
    (takes : scope.Takes levels outcome) :
    scope.Exceeded outcome ↔
      levels ≠ 0 ∧ scope.vocabulary.ceiling.height < scope.depth + levels := by
  constructor
  · intro exceeded
    rw [← Nat.not_le, ← not_or]
    intro room
    obtain ⟨value, returned⟩ := takes.returns room
    rw [Exceeded, returned] at exceeded
    cases exceeded
  · rintro ⟨nonzero, beyond⟩
    exact takes.stops nonzero beyond

/-- A computation that only stops at the ceiling returns or is stopped there. -/
theorem Takes.returns_or_exceeded {scope : Scope} {levels : Nat} {outcome : Except Failure α}
    (takes : scope.Takes levels outcome) :
    (∃ value, outcome = .ok value) ∨ scope.Exceeded outcome := by
  by_cases room : levels = 0 ∨ scope.depth + levels ≤ scope.vocabulary.ceiling.height
  · exact .inl (takes.returns room)
  · rw [not_or, Nat.not_le] at room
    exact .inr (takes.stops room.1 room.2)

/-- Of two computations in turn, the one that goes further decides. -/
theorem Takes.bind {scope : Scope} {first second : Nat} {outcome : Except Failure α}
    {next : α → Except Failure β} (takes : scope.Takes first outcome)
    (rest : ∀ value, outcome = .ok value → scope.Takes second (next value)) :
    scope.Takes (max first second) (outcome >>= next) where
  returns room := by
    obtain ⟨value, returned⟩ := takes.returns (by omega)
    obtain ⟨result, returns⟩ := (rest value returned).returns (by omega)
    exact ⟨result, (bind_eq_ok_iff _ _ _).mpr ⟨value, returned, returns⟩⟩
  stops nonzero beyond := by
    by_cases fits : first = 0 ∨ scope.depth + first ≤ scope.vocabulary.ceiling.height
    · obtain ⟨value, returned⟩ := takes.returns fits
      rw [returned]
      exact (rest value returned).stops (by omega) (by omega)
    · rw [not_or, Nat.not_le] at fits
      have stopped : outcome = _ := takes.stops fits.1 fits.2
      rw [stopped]
      rfl

/-- Work on a result that cannot fail takes no levels. -/
theorem Takes.map {scope : Scope} {levels : Nat} {outcome : Except Failure α}
    (takes : scope.Takes levels outcome) (work : α → β) :
    scope.Takes levels (outcome >>= fun value => .ok (work value)) := by
  have worked := takes.bind fun value _ => scope.takes_ok (work value)
  rwa [Nat.max_zero] at worked

/-- Stepping in takes one level more than what is done there. -/
theorem Takes.descend {scope : Scope} {levels : Nat} {next : Scope → Except Failure α}
    (takes : (scope.deeper 1).Takes levels (next (scope.deeper 1))) :
    scope.Takes (levels + 1) (scope.descend >>= next) := by
  by_cases room : scope.depth < scope.vocabulary.ceiling.height
  · rw [(descend_eq_ok_iff _ _).mpr ⟨room, rfl⟩]
    constructor
    · intro fits
      apply takes.returns
      simp only [depth_deeper, vocabulary_deeper]
      omega
    · intro _ beyond
      apply takes.stops
      · omega
      · simp only [depth_deeper, vocabulary_deeper]
        omega
  · have stopped : scope.descend = .error (.tooDeep scope.vocabulary.ceiling) := if_neg room
    rw [stopped]
    constructor
    · intro fits
      omega
    · intro _ _
      rfl

end Scope

end ViewOutline
