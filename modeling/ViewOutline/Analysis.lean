import ViewOutline.Event

/-!
# Computations that leave events behind

`Logged` pairs a value with the events of its computation.  `Analysis` may also
stop with a failure, and the events up to that point remain.  Events are only
ever added at the end, so the events of a first part are a prefix of the events
of the whole.
-/

namespace ViewOutline

/-- A value and the events of its computation. -/
structure Logged (α : Type) where
  events : List Event
  value : α

namespace Logged

variable {α β : Type}

instance : Monad Logged where
  pure value := ⟨[], value⟩
  bind first next :=
    let second := next first.value
    ⟨first.events ++ second.events, second.value⟩

/-- Leave one event behind. -/
def log (event : Event) : Logged Unit :=
  ⟨[event], ()⟩

@[simp]
theorem value_pure (value : α) : (pure value : Logged α).value = value :=
  rfl

@[simp]
theorem events_pure (value : α) : (pure value : Logged α).events = [] :=
  rfl

@[simp]
theorem value_bind (first : Logged α) (next : α → Logged β) :
    (first >>= next).value = (next first.value).value :=
  rfl

@[simp]
theorem events_bind (first : Logged α) (next : α → Logged β) :
    (first >>= next).events = first.events ++ (next first.value).events :=
  rfl

instance : LawfulMonad Logged := LawfulMonad.mk' Logged
  (by intro α first; cases first; simp [Functor.map])
  (by intro α β value next; simp [Bind.bind, Pure.pure])
  (by intro α β γ first next last; simp [Bind.bind, List.append_assoc])

end Logged

/-- A computation that leaves events behind and may stop with a failure. -/
structure Analysis (α : Type) where
  events : List Event
  outcome : Except Failure α

namespace Analysis

variable {α β : Type}

/-- Continue with the value of a first part, or stop with its failure. -/
def andThen (first : Analysis α) (next : α → Analysis β) : Analysis β :=
  match first.outcome with
  | .ok value =>
      let second := next value
      ⟨first.events ++ second.events, second.outcome⟩
  | .error failure => ⟨first.events, .error failure⟩

instance : Monad Analysis where
  pure value := ⟨[], .ok value⟩
  bind := andThen

instance : MonadLift Logged Analysis where
  monadLift logged := ⟨logged.events, .ok logged.value⟩

instance : MonadLift (Except Failure) Analysis where
  monadLift outcome := ⟨[], outcome⟩

/-- Stop. -/
def fail (failure : Failure) : Analysis α :=
  ⟨[], .error failure⟩

/-- Leave one event behind. -/
def log (event : Event) : Analysis Unit :=
  ⟨[event], .ok ()⟩

/-- Note that something about a subject could not be classified. -/
def degrade (subject detail : String) : Analysis Unit :=
  log (.degraded (subject ++ ": " ++ detail))

/-- Handle a failure.  What was left behind before it remains. -/
def recover (analysis : Analysis α) (handler : Failure → Analysis α) : Analysis α :=
  match analysis.outcome with
  | .ok _ => analysis
  | .error failure =>
      let handled := handler failure
      ⟨analysis.events ++ handled.events, handled.outcome⟩

/-- Where the input is at fault, note this about a subject and go on with a
fallback.  Other failures pass. -/
def orNoted (analysis : Analysis α) (subject : String) (fallback : α) : Analysis α :=
  analysis.recover fun failure =>
    if failure.isInputFault then do
      degrade subject failure.message
      return fallback
    else
      fail failure

/-- The notes of a computation. -/
def notes (analysis : Analysis α) : List String :=
  analysis.events.filterMap Event.note?

@[simp]
theorem outcome_pure (value : α) : (pure value : Analysis α).outcome = .ok value :=
  rfl

@[simp]
theorem events_pure (value : α) : (pure value : Analysis α).events = [] :=
  rfl

/-- After a first part that succeeds, the outcome is that of the second. -/
theorem outcome_bind_ok {first : Analysis α} {value : α} (next : α → Analysis β)
    (succeeds : first.outcome = .ok value) :
    (first >>= next).outcome = (next value).outcome := by
  simp [Bind.bind, andThen, succeeds]

/-- After a first part that succeeds, the events of the second follow. -/
theorem events_bind_ok {first : Analysis α} {value : α} (next : α → Analysis β)
    (succeeds : first.outcome = .ok value) :
    (first >>= next).events = first.events ++ (next value).events := by
  simp [Bind.bind, andThen, succeeds]

/-- A first part that fails decides the outcome. -/
theorem outcome_bind_error {first : Analysis α} {failure : Failure} (next : α → Analysis β)
    (fails : first.outcome = .error failure) :
    (first >>= next).outcome = .error failure := by
  simp [Bind.bind, andThen, fails]

/-- After a first part that fails nothing more happens. -/
theorem events_bind_error {first : Analysis α} {failure : Failure} (next : α → Analysis β)
    (fails : first.outcome = .error failure) :
    (first >>= next).events = first.events := by
  simp [Bind.bind, andThen, fails]

instance : LawfulMonad Analysis := LawfulMonad.mk' Analysis
  (by
    intro α first
    obtain ⟨events, outcome⟩ := first
    cases outcome <;> simp [Functor.map, andThen])
  (by intro α β value next; simp [Bind.bind, Pure.pure, andThen])
  (by
    intro α β γ first next last
    obtain ⟨events, outcome⟩ := first
    cases outcome with
    | error failure => simp [Bind.bind, andThen]
    | ok value =>
        simp only [Bind.bind, andThen]
        cases (next value).outcome <;> simp [List.append_assoc])

end Analysis

/-- Where an analysis stands: its vocabulary and how many levels it is inside
an expression. -/
structure Scope where
  vocabulary : Vocabulary
  depth : Nat

namespace Scope

/-- The scope outside every expression. -/
def outermost (vocabulary : Vocabulary) : Scope :=
  ⟨vocabulary, 0⟩

/-- Step one level further in, unless the ceiling is reached. -/
def descend (scope : Scope) : Except Failure Scope :=
  if scope.depth < scope.vocabulary.ceiling.height then
    .ok { scope with depth := scope.depth + 1 }
  else
    .error (.tooDeep scope.vocabulary.ceiling)

end Scope

end ViewOutline
