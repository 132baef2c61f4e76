import ViewOutline.Proofs.Notes.Member

/-!
# The end of the access chain

What a property is classified as is decided by the call at the end of the access
chain of its initial value, or of its delegate if it has no initial value, and by
its declared type only if it has neither.  Whatever is written before the end of
the chain does not matter.
-/

namespace ViewOutline

/-! ## Ends of access chains -/

/-- An expression ends in a call: it is the call, or an access whose right operand
ends in it. -/
inductive Node.EndsIn : Node → Call → Prop
  | call (ending : Call) : EndsIn (.call ending) ending
  | access {left right : Node} {operator : String} {ending : Call} :
      operator = "." ∨ operator = "?." → EndsIn right ending →
        EndsIn (.binary left operator right) ending

/-- An expression ends in a call of one of some names. -/
def Node.EndsAmong (node : Node) (names : List String) : Prop :=
  ∃ ending, node.EndsIn ending ∧ ending.name ∈ names

/-- An expression is a collection literal or ends in a collection builder. -/
def Node.MakesCollection (node : Node) (vocabulary : Vocabulary) : Prop :=
  (∃ text, node = .literal text .collection) ∨ node.EndsAmong vocabulary.collectionBuilders

/-- An expression that has a value of its own. -/
inductive Node.Evaluates : Node → Prop
  | literal (value : String) (kind : LiteralKind) : Evaluates (.literal value kind)
  | name (name : String) : Evaluates (.name name)
  | call (call : Call) : Evaluates (.call call)
  | binary (left : Node) (operator : String) (right : Node) :
      Evaluates (.binary left operator right)
  | reference (name : String) (receiver : Option String) : Evaluates (.reference name receiver)

theorem Node.tailCall?_eq_some_iff (node : Node) (ending : Call) :
    node.tailCall? = some ending ↔ node.EndsIn ending := by
  constructor
  · intro found
    fun_induction Node.tailCall? node with
    | case1 call => cases found; exact .call _
    | case2 left operator right access ih => exact .access access (ih found)
    | case3 => cases found
    | case4 => cases found
  · intro endsIn
    induction endsIn with
    | call ending => rfl
    | access access _ ih => rw [tailCall?, if_pos access, ih]

theorem Node.endsAmong_iff (node : Node) (names : List String) :
    node.EndsAmong names ↔ ∃ ending, node.tailCall? = some ending ∧ ending.name ∈ names := by
  simp only [EndsAmong, tailCall?_eq_some_iff]

theorem Node.evaluates_iff (node : Node) : node.Evaluates ↔ node.isValue = true := by
  constructor
  · intro evaluates
    cases evaluates <;> rfl
  · intro isValue
    cases node with
    | literal value kind => exact .literal value kind
    | name name => exact .name name
    | call call => exact .call call
    | binary left operator right => exact .binary left operator right
    | reference name receiver => exact .reference name receiver
    | _ => cases isValue

/-! ## What a declaration is -/

namespace PropertyDecl

/-- There is neither an initial value nor a delegate. -/
def IsBare (decl : PropertyDecl) : Prop :=
  decl.initializer = none ∧ decl.delegate = none

/-- The initial value ends in a reactive wrapper. -/
def IsObservable (decl : PropertyDecl) (vocabulary : Vocabulary) : Prop :=
  ∃ value, decl.initializer = some value ∧ value.EndsAmong vocabulary.reactiveWrappers

/-- The initial value is a collection literal or ends in a collection builder, or
nothing but the declared type says that there is a collection. -/
def IsCollection (decl : PropertyDecl) (vocabulary : Vocabulary) : Prop :=
  (∃ value, decl.initializer = some value ∧ value.MakesCollection vocabulary) ∨
  (decl.IsBare ∧ ∃ type, decl.type = some type ∧ baseType type ∈ collectionTypes)

/-- There is no initial value, and the delegate ends in an injection. -/
def IsInjected (decl : PropertyDecl) (vocabulary : Vocabulary) : Prop :=
  decl.initializer = none ∧
    ∃ delegate, decl.delegate = some delegate ∧
      delegate.EndsAmong vocabulary.injectionDelegates

/-- The initial value has a value of its own, or there is nothing but a declared
type. -/
def IsValue (decl : PropertyDecl) : Prop :=
  (∃ value, decl.initializer = some value ∧ value.Evaluates) ∨
  (decl.IsBare ∧ ∃ type, decl.type = some type ∧ type ≠ "")

/-- The kind of a property follows from what its declaration is, and the first of
several answers counts. -/
structure Classified (decl : PropertyDecl) (vocabulary : Vocabulary) (kind : PropertyKind) :
    Prop where
  observable : kind = .observable ↔ decl.IsObservable vocabulary
  collection : kind = .collection ↔
    ¬ decl.IsObservable vocabulary ∧ decl.IsCollection vocabulary
  injected : kind = .injected ↔ decl.IsInjected vocabulary
  value : kind = .value ↔
    ¬ decl.IsObservable vocabulary ∧ ¬ decl.IsCollection vocabulary ∧
      ¬ decl.IsInjected vocabulary ∧ decl.IsValue
  unclassified : kind = .unclassified ↔
    ¬ decl.IsObservable vocabulary ∧ ¬ decl.IsCollection vocabulary ∧
      ¬ decl.IsInjected vocabulary ∧ ¬ decl.IsValue

/-! ## Verdicts -/

/-- The kind of a property and the type that is inferred for it. -/
def verdict (decl : PropertyDecl) (vocabulary : Vocabulary) : PropertyKind × Option String :=
  let found :=
    match decl.initializer, decl.delegate with
    | some value, _ => value.classifyValue? vocabulary
    | none, some delegate => delegate.classifyDelegate? vocabulary
    | none, none => (Text.given decl.type).map fun type =>
        (if collectionTypes.contains (baseType type) then .collection else .value, none)
  found.getD (.unclassified, none)

theorem settle_verdict (decl : PropertyDecl) (summary : String)
    (found : Option (PropertyKind × Option String)) :
    (decl.settle summary found).Returns fun property _ =>
      property.kind = (found.getD (.unclassified, none)).1 ∧
      property.type = (Text.given decl.type).or (found.getD (.unclassified, none)).2 := by
  rcases found with _ | ⟨kind, inferred⟩
  · apply (Analysis.Returns.degrade _ _).bind
    intro _ _ _
    exact .pure ⟨rfl, rfl⟩
  · exact .pure ⟨rfl, rfl⟩

/-- Classifying a property gives the verdict on it, where a declared type counts
more than an inferred one. -/
theorem classify_verdict (scope : Scope) (decl : PropertyDecl) :
    (decl.classify scope).Returns fun property _ =>
      property.kind = (decl.verdict scope.vocabulary).1 ∧
      property.type = (Text.given decl.type).or (decl.verdict scope.vocabulary).2 := by
  rcases decl with ⟨name, type, value, delegate, mutable, text⟩
  rw [classify]
  split
  · constructor
    intro _ returned
    cases returned
  -- What is rendered goes into the summary only, never into the verdict.
  have any {α : Type} (analysis : Analysis α) : analysis.Returns fun _ _ => True :=
    ⟨fun _ _ => trivial⟩
  cases value with
  | some value =>
      apply (any (value.render scope)).bind
      intro content _ _
      exact settle_verdict _ content.text (value.classifyValue? scope.vocabulary)
  | none =>
      cases delegate with
      | some delegate =>
          apply (any (delegate.render scope)).bind
          intro content _ _
          exact settle_verdict _ ("by " ++ content.text)
            (delegate.classifyDelegate? scope.vocabulary)
      | none =>
          dsimp only [verdict]
          cases given : Text.given type with
          | some declared =>
              dsimp only [Option.map_some, Option.getD_some]
              split <;> exact .pure ⟨rfl, by rw [toProperty, given]⟩
          | none =>
              apply (Analysis.Returns.degrade _ _).bind
              intro _ _ _
              exact .pure ⟨rfl, by rw [toProperty, given]; rfl⟩

end PropertyDecl

/-! ## Kinds -/

theorem Node.filter_tailCall?_eq_none_iff (node : Node) (names : List String) :
    (node.tailCall?.filter fun ending => names.contains ending.name) = none ↔
      ¬ node.EndsAmong names := by
  rw [endsAmong_iff]
  cases node.tailCall? with
  | none => simp
  | some ending => simp

theorem Node.isCollectionLiteral_iff (node : Node) :
    node.isCollectionLiteral = true ↔ ∃ text, node = .literal text .collection := by
  constructor
  · intro literal
    unfold isCollectionLiteral at literal
    split at literal
    · exact ⟨_, rfl⟩
    · cases literal
  · rintro ⟨text, rfl⟩
    rfl

theorem Node.classifyValue?_of_reactive {vocabulary : Vocabulary} {value : Node}
    (reactive : value.EndsAmong vocabulary.reactiveWrappers) :
    ∃ type, value.classifyValue? vocabulary = some (.observable, type) := by
  rw [classifyValue?]
  split
  · exact ⟨_, rfl⟩
  · rename_i none
    exact absurd reactive ((filter_tailCall?_eq_none_iff _ _).mp none)

theorem Node.classifyValue?_of_collection {vocabulary : Vocabulary} {value : Node}
    (notReactive : ¬ value.EndsAmong vocabulary.reactiveWrappers)
    (collection : value.MakesCollection vocabulary) :
    ∃ type, value.classifyValue? vocabulary = some (.collection, type) := by
  rw [classifyValue?, (filter_tailCall?_eq_none_iff _ _).mpr notReactive]
  dsimp only
  split
  · exact ⟨_, rfl⟩
  · rename_i noLiteral
    split
    · exact ⟨_, rfl⟩
    · rename_i none
      rcases collection with literal | builder
      · exact absurd ((isCollectionLiteral_iff _).mpr literal) noLiteral
      · exact absurd builder ((filter_tailCall?_eq_none_iff _ _).mp none)

theorem Node.classifyValue?_of_plain {vocabulary : Vocabulary} {value : Node}
    (notReactive : ¬ value.EndsAmong vocabulary.reactiveWrappers)
    (noCollection : ¬ value.MakesCollection vocabulary) :
    value.classifyValue? vocabulary =
      if value.isValue then some (.value, value.shownType?) else none := by
  rw [MakesCollection, not_or, ← isCollectionLiteral_iff] at noCollection
  rw [classifyValue?, (filter_tailCall?_eq_none_iff _ _).mpr notReactive, if_neg noCollection.1,
    (filter_tailCall?_eq_none_iff _ _).mpr noCollection.2]

theorem Node.classifyDelegate?_of_injection {vocabulary : Vocabulary} {delegate : Node}
    (injects : delegate.EndsAmong vocabulary.injectionDelegates) :
    ∃ type, delegate.classifyDelegate? vocabulary = some (.injected, type) := by
  obtain ⟨ending, found, member⟩ := (endsAmong_iff _ _).mp injects
  simp [classifyDelegate?, found, member]

theorem Node.classifyDelegate?_of_other {vocabulary : Vocabulary} {delegate : Node}
    (other : ¬ delegate.EndsAmong vocabulary.injectionDelegates) :
    delegate.classifyDelegate? vocabulary = none := by
  rw [endsAmong_iff] at other
  cases found : delegate.tailCall? with
  | none => simp [classifyDelegate?, found]
  | some ending =>
      have notAmong : ending.name ∉ vocabulary.injectionDelegates :=
        fun member => other ⟨ending, found, member⟩
      simp [classifyDelegate?, found, notAmong]

namespace PropertyDecl

/-- The first answer that applies to a declaration. -/
inductive Answers (decl : PropertyDecl) (vocabulary : Vocabulary) : PropertyKind → Prop
  | observable : decl.IsObservable vocabulary → Answers decl vocabulary .observable
  | collection : ¬ decl.IsObservable vocabulary → decl.IsCollection vocabulary →
      Answers decl vocabulary .collection
  | injected : ¬ decl.IsObservable vocabulary → ¬ decl.IsCollection vocabulary →
      decl.IsInjected vocabulary → Answers decl vocabulary .injected
  | value : ¬ decl.IsObservable vocabulary → ¬ decl.IsCollection vocabulary →
      ¬ decl.IsInjected vocabulary → decl.IsValue → Answers decl vocabulary .value
  | unclassified : ¬ decl.IsObservable vocabulary → ¬ decl.IsCollection vocabulary →
      ¬ decl.IsInjected vocabulary → ¬ decl.IsValue → Answers decl vocabulary .unclassified

theorem IsInjected.not_observable {decl : PropertyDecl} {vocabulary : Vocabulary}
    (injected : decl.IsInjected vocabulary) : ¬ decl.IsObservable vocabulary := by
  rintro ⟨value, given, _⟩
  cases injected.1.symm.trans given

theorem IsInjected.not_collection {decl : PropertyDecl} {vocabulary : Vocabulary}
    (injected : decl.IsInjected vocabulary) : ¬ decl.IsCollection vocabulary := by
  obtain ⟨noValue, delegate, delegated, _⟩ := injected
  rintro (⟨value, given, _⟩ | ⟨bare, _⟩)
  · cases noValue.symm.trans given
  · cases bare.2.symm.trans delegated

theorem Answers.classified {decl : PropertyDecl} {vocabulary : Vocabulary} {kind : PropertyKind}
    (answers : decl.Answers vocabulary kind) : decl.Classified vocabulary kind := by
  cases answers with
  | observable observable =>
      have noInjection : ¬ decl.IsInjected vocabulary := fun injected =>
        injected.not_observable observable
      constructor <;> simp [observable, noInjection]
  | collection notObservable collection =>
      have noInjection : ¬ decl.IsInjected vocabulary := fun injected =>
        injected.not_collection collection
      constructor <;> simp [notObservable, collection, noInjection]
  | injected notObservable noCollection injected =>
      constructor <;> simp [notObservable, noCollection, injected]
  | value notObservable noCollection noInjection value =>
      constructor <;> simp [notObservable, noCollection, noInjection, value]
  | unclassified notObservable noCollection noInjection noValue =>
      constructor <;> simp [notObservable, noCollection, noInjection, noValue]

section

variable {vocabulary : Vocabulary} {name : String} {type : Option String}
  {delegate : Option Node} {mutable : Bool} {text : Option String}

/-- An initial value gives the answer. -/
theorem answers_of_value (value : Node) :
    Answers ⟨name, type, some value, delegate, mutable, text⟩ vocabulary
      ((value.classifyValue? vocabulary).getD (.unclassified, none)).1 := by
  by_cases reactive : value.EndsAmong vocabulary.reactiveWrappers
  · obtain ⟨inferred, found⟩ := Node.classifyValue?_of_reactive reactive
    rw [found]
    exact .observable ⟨value, rfl, reactive⟩
  by_cases collection : value.MakesCollection vocabulary
  · obtain ⟨inferred, found⟩ := Node.classifyValue?_of_collection reactive collection
    rw [found]
    refine .collection ?_ (.inl ⟨value, rfl, collection⟩)
    rintro ⟨_, ⟨⟩, otherwise⟩
    exact reactive otherwise
  have notObservable : ¬ IsObservable ⟨name, type, some value, delegate, mutable, text⟩
      vocabulary := by
    rintro ⟨_, ⟨⟩, otherwise⟩
    exact reactive otherwise
  have noCollection : ¬ IsCollection ⟨name, type, some value, delegate, mutable, text⟩
      vocabulary := by
    rintro (⟨_, ⟨⟩, otherwise⟩ | ⟨⟨⟨⟩, _⟩, _⟩)
    exact collection otherwise
  have noInjection : ¬ IsInjected ⟨name, type, some value, delegate, mutable, text⟩
      vocabulary := by
    rintro ⟨⟨⟩, _⟩
  rw [Node.classifyValue?_of_plain reactive collection]
  cases evaluates : value.isValue with
  | true =>
      exact .value notObservable noCollection noInjection
        (.inl ⟨value, rfl, value.evaluates_iff.mpr evaluates⟩)
  | false =>
      refine .unclassified notObservable noCollection noInjection ?_
      rintro (⟨_, ⟨⟩, otherwise⟩ | ⟨⟨⟨⟩, _⟩, _⟩)
      cases evaluates.symm.trans (value.evaluates_iff.mp otherwise)

/-- Without an initial value the delegate gives the answer. -/
theorem answers_of_delegate (delegate : Node) :
    Answers ⟨name, type, none, some delegate, mutable, text⟩ vocabulary
      ((delegate.classifyDelegate? vocabulary).getD (.unclassified, none)).1 := by
  have notObservable : ¬ IsObservable ⟨name, type, none, some delegate, mutable, text⟩
      vocabulary := by
    rintro ⟨_, ⟨⟩, _⟩
  have noCollection : ¬ IsCollection ⟨name, type, none, some delegate, mutable, text⟩
      vocabulary := by
    rintro (⟨_, ⟨⟩, _⟩ | ⟨⟨_, ⟨⟩⟩, _⟩)
  by_cases injects : delegate.EndsAmong vocabulary.injectionDelegates
  · obtain ⟨inferred, found⟩ := Node.classifyDelegate?_of_injection injects
    rw [found]
    exact .injected notObservable noCollection ⟨rfl, delegate, rfl, injects⟩
  · rw [Node.classifyDelegate?_of_other injects]
    refine .unclassified notObservable noCollection ?_ ?_
    · rintro ⟨_, _, ⟨⟩, otherwise⟩
      exact injects otherwise
    · rintro (⟨_, ⟨⟩, _⟩ | ⟨⟨_, ⟨⟩⟩, _⟩)

/-- Without either the declared type gives the answer. -/
theorem answers_of_type :
    Answers ⟨name, type, none, none, mutable, text⟩ vocabulary
      (((Text.given type).map fun type =>
        (if collectionTypes.contains (baseType type) then PropertyKind.collection else .value,
          (none : Option String))).getD (.unclassified, none)).1 := by
  have notObservable : ¬ IsObservable ⟨name, type, none, none, mutable, text⟩ vocabulary := by
    rintro ⟨_, ⟨⟩, _⟩
  have noInjection : ¬ IsInjected ⟨name, type, none, none, mutable, text⟩ vocabulary := by
    rintro ⟨_, _, ⟨⟩, _⟩
  cases given : Text.given type with
  | some declared =>
      obtain ⟨rfl, written⟩ := Text.given_eq_some_iff.mp given
      by_cases known : baseType declared ∈ collectionTypes
      · rw [Option.map_some, Option.getD_some, if_pos (List.contains_iff_mem.mpr known)]
        exact .collection notObservable (.inr ⟨⟨rfl, rfl⟩, declared, rfl, known⟩)
      · rw [Option.map_some, Option.getD_some, if_neg (mt List.contains_iff_mem.mp known)]
        refine .value notObservable ?_ noInjection (.inr ⟨⟨rfl, rfl⟩, declared, rfl, written⟩)
        rintro (⟨_, ⟨⟩, _⟩ | ⟨_, _, ⟨⟩, otherwise⟩)
        exact known otherwise
  | none =>
      have unwritten : ∀ declared, type = some declared → declared = "" := by
        intro declared typed
        by_contra written
        cases given.symm.trans (Text.given_eq_some_iff.mpr ⟨typed, written⟩)
      refine .unclassified notObservable ?_ noInjection ?_
      · rintro (⟨_, ⟨⟩, _⟩ | ⟨_, declared, typed, known⟩)
        rw [unwritten declared typed] at known
        exact absurd known (by decide)
      · rintro (⟨_, ⟨⟩, _⟩ | ⟨_, declared, typed, written⟩)
        exact written (unwritten declared typed)

end

theorem verdict_answers (vocabulary : Vocabulary) (decl : PropertyDecl) :
    decl.Answers vocabulary (decl.verdict vocabulary).1 := by
  rcases decl with ⟨name, type, value, delegate, mutable, text⟩
  cases value with
  | some value => exact answers_of_value value
  | none =>
      cases delegate with
      | some delegate => exact answers_of_delegate delegate
      | none => exact answers_of_type

end PropertyDecl

/-! ## Two declarations that end alike -/

/-- Two expressions end alike: they are the same, they end in the same call whatever
is written before it, or they are accesses whose right operands end alike. -/
inductive Node.EndsAlike : Node → Node → Prop
  | same (node : Node) : EndsAlike node node
  | call {first second : Node} {ending : Call} :
      first.EndsIn ending → second.EndsIn ending → EndsAlike first second
  | access {left right other last : Node} {operator next : String} :
      operator = "." ∨ operator = "?." → next = "." ∨ next = "?." → EndsAlike right last →
        EndsAlike (.binary left operator right) (.binary other next last)

namespace Node.EndsAlike

variable {first second : Node}

theorem tailCall?_eq (alike : first.EndsAlike second) : first.tailCall? = second.tailCall? := by
  induction alike with
  | same => rfl
  | call endsIn otherEndsIn =>
      rw [(tailCall?_eq_some_iff _ _).mpr endsIn, (tailCall?_eq_some_iff _ _).mpr otherEndsIn]
  | access operator next _ ih => rw [tailCall?, tailCall?, if_pos operator, if_pos next, ih]

theorem isValue_eq (alike : first.EndsAlike second) : first.isValue = second.isValue := by
  cases alike with
  | same => rfl
  | call endsIn otherEndsIn => cases endsIn <;> cases otherEndsIn <;> rfl
  | access => rfl

theorem isCollectionLiteral_eq (alike : first.EndsAlike second) :
    first.isCollectionLiteral = second.isCollectionLiteral := by
  cases alike with
  | same => rfl
  | call endsIn otherEndsIn => cases endsIn <;> cases otherEndsIn <;> rfl
  | access => rfl

theorem shownType?_eq (alike : first.EndsAlike second) :
    first.shownType? = second.shownType? := by
  have sameEnd := alike.tailCall?_eq
  cases alike with
  | same => rfl
  | call endsIn otherEndsIn =>
      cases endsIn <;> cases otherEndsIn <;> simp only [shownType?, sameEnd]
  | access => simp only [shownType?, sameEnd]

end Node.EndsAlike

/-- Two vocabularies say the same about a name at the end of an access chain. -/
structure Vocabulary.AgreeOn (vocabulary other : Vocabulary) (name : String) : Prop where
  reactive : name ∈ vocabulary.reactiveWrappers ↔ name ∈ other.reactiveWrappers
  collection : name ∈ vocabulary.collectionBuilders ↔ name ∈ other.collectionBuilders
  injection : name ∈ vocabulary.injectionDelegates ↔ name ∈ other.injectionDelegates

theorem Node.filter_tailCall?_congr {node : Node} {names others : List String}
    (agree : ∀ ending, node.EndsIn ending → (ending.name ∈ names ↔ ending.name ∈ others)) :
    (node.tailCall?.filter fun ending => names.contains ending.name) =
      node.tailCall?.filter fun ending => others.contains ending.name := by
  cases found : node.tailCall? with
  | none => rfl
  | some ending =>
      have agrees := agree ending ((tailCall?_eq_some_iff _ _).mp found)
      simp only [Option.filter, List.contains_iff_mem, agrees]

theorem Node.EndsAlike.classifyValue?_eq {first second : Node} {vocabulary other : Vocabulary}
    (alike : first.EndsAlike second)
    (agree : ∀ ending, first.EndsIn ending → vocabulary.AgreeOn other ending.name) :
    first.classifyValue? vocabulary = second.classifyValue? other := by
  rw [classifyValue?, classifyValue?,
    filter_tailCall?_congr fun ending endsIn => (agree ending endsIn).reactive,
    filter_tailCall?_congr fun ending endsIn => (agree ending endsIn).collection,
    alike.tailCall?_eq, alike.isValue_eq, alike.isCollectionLiteral_eq, alike.shownType?_eq]

theorem Node.EndsAlike.classifyDelegate?_eq {first second : Node} {vocabulary other : Vocabulary}
    (alike : first.EndsAlike second)
    (agree : ∀ ending, first.EndsIn ending → vocabulary.AgreeOn other ending.name) :
    first.classifyDelegate? vocabulary = second.classifyDelegate? other := by
  rw [classifyDelegate?, classifyDelegate?, ← alike.tailCall?_eq]
  cases found : first.tailCall? with
  | none => rfl
  | some ending =>
      have agrees := (agree ending ((tailCall?_eq_some_iff _ _).mp found)).injection
      simp only [List.contains_iff_mem, agrees]

namespace PropertyDecl

/-- The initial value of a declaration, or else its delegate, ends in a call. -/
def EndsIn (decl : PropertyDecl) (ending : Call) : Prop :=
  ∃ node, decl.initializer.or decl.delegate = some node ∧ node.EndsIn ending

/-- Two declarations have the same declared type, and their initial values end
alike, or else their delegates. -/
structure EndsAlike (decl other : PropertyDecl) : Prop where
  type : decl.type = other.type
  initializer : Option.Rel Node.EndsAlike decl.initializer other.initializer
  delegate : decl.initializer = none →
    Option.Rel Node.EndsAlike decl.delegate other.delegate

theorem EndsAlike.verdict_eq {decl other : PropertyDecl} {vocabulary otherVocabulary : Vocabulary}
    (alike : decl.EndsAlike other)
    (agree : ∀ ending, decl.EndsIn ending → vocabulary.AgreeOn otherVocabulary ending.name) :
    decl.verdict vocabulary = other.verdict otherVocabulary := by
  rcases decl with ⟨name, type, value, delegate, mutable, text⟩
  rcases other with ⟨otherName, otherType, otherValue, otherDelegate, otherMutable, otherText⟩
  obtain ⟨typeAlike, valueAlike, delegateAlike⟩ := alike
  cases valueAlike with
  | @some value otherValue ends =>
      have same := ends.classifyValue?_eq fun ending endsIn => agree ending ⟨value, rfl, endsIn⟩
      exact congrArg (Option.getD · _) same
  | none =>
      cases delegateAlike rfl with
      | @some delegate otherDelegate ends =>
          have same := ends.classifyDelegate?_eq fun ending endsIn =>
            agree ending ⟨delegate, rfl, endsIn⟩
          exact congrArg (Option.getD · _) same
      | none =>
          cases typeAlike
          rfl

/-! ## Declared types -/

/-- A declaration with another declared type. -/
def withType (decl : PropertyDecl) (type : Option String) : PropertyDecl :=
  { decl with type }

theorem settle_returns (decl : PropertyDecl) (summary : String)
    (found : Option (PropertyKind × Option String)) :
    ∃ property, (decl.settle summary found).outcome = .ok property := by
  rcases found with _ | ⟨kind, inferred⟩
  · exact ⟨_, rfl⟩
  · exact ⟨_, rfl⟩

/-- Where there is a value or a delegate, the verdict does not look at the declared
type. -/
theorem verdict_withType {decl : PropertyDecl} (sourced : ¬ decl.IsBare)
    (vocabulary : Vocabulary) (type : Option String) :
    (decl.withType type).verdict vocabulary = decl.verdict vocabulary := by
  rcases decl with ⟨name, declared, _ | value, _ | delegate, mutable, text⟩
  · exact absurd ⟨rfl, rfl⟩ sourced
  · rfl
  · rfl
  · rfl

theorem render_settle_returns_iff (scope : Scope) (decl : PropertyDecl) (node : Node)
    (summary : Rendered → String) (found : Option (PropertyKind × Option String)) :
    (∃ property, (node.render scope >>= fun content =>
        decl.settle (summary content) found).outcome = .ok property) ↔
      ∃ content, (node.render scope).outcome = .ok content := by
  simp only [Analysis.outcome_bind, bind_eq_ok_iff]
  constructor
  · rintro ⟨property, content, rendered, _⟩
    exact ⟨content, rendered⟩
  · rintro ⟨content, rendered⟩
    obtain ⟨property, returned⟩ := decl.settle_returns (summary content) found
    exact ⟨property, content, rendered, returned⟩

/-- A property is classified if it has a name and its value, or else its delegate,
can be rendered. -/
theorem classify_returns_iff (scope : Scope) (decl : PropertyDecl) :
    (∃ property, (decl.classify scope).outcome = .ok property) ↔
      decl.name ≠ "" ∧ ∀ node, decl.initializer.or decl.delegate = some node →
        ∃ content, (node.render scope).outcome = .ok content := by
  rcases decl with ⟨name, type, value, delegate, mutable, text⟩
  rw [classify]
  split
  · rename_i nameless
    exact iff_of_false (by rintro ⟨_, ⟨⟩⟩) fun named => named.1 nameless
  · rename_i named
    rw [and_iff_right named]
    cases value with
    | some value => simpa using render_settle_returns_iff scope _ value Rendered.text _
    | none =>
        cases delegate with
        | some delegate =>
            simpa using render_settle_returns_iff scope _ delegate ("by " ++ ·.text) _
        | none =>
            refine iff_of_true ?_ (by rintro _ ⟨⟩)
            dsimp only
            split
            · split <;> exact ⟨_, rfl⟩
            · exact ⟨_, rfl⟩

/-- Whether a property is classified does not depend on its declared type. -/
theorem classify_withType_returns {scope : Scope} {decl : PropertyDecl} {property : Property}
    (returns : (decl.classify scope).outcome = .ok property) (type : Option String) :
    ∃ other, ((decl.withType type).classify scope).outcome = .ok other :=
  (classify_returns_iff scope (decl.withType type)).mpr
    ((classify_returns_iff scope decl).mp ⟨property, returns⟩)

/-- The property of a declaration is decided by the end of its access chain. -/
structure DecidedByEnd (decl : PropertyDecl) (scope : Scope) (property : Property) : Prop where
  /-- The kind is the first that the declaration is found to be. -/
  classified : decl.Classified scope.vocabulary property.kind
  /-- A declared type is the type of the property. -/
  typed : ∀ type, decl.type = some type → type ≠ "" → property.type = some type
  /-- Beside a value or a delegate the declared type does not matter for the kind. -/
  retyped : ¬ decl.IsBare → ∀ type, ∃ other,
    ((decl.withType type).classify scope).outcome = .ok other ∧ other.kind = property.kind
  /-- Whatever else is changed, the kind and the type stay as they are while the
  ends and what the vocabulary says about them stay. -/
  sameEnd : ∀ otherScope other found, decl.EndsAlike other →
    (∀ ending, decl.EndsIn ending →
      scope.vocabulary.AgreeOn otherScope.vocabulary ending.name) →
    (other.classify otherScope).outcome = .ok found →
      found.kind = property.kind ∧ found.type = property.type

/-- A property is classified by the end of the access chain that it is initialised
or delegated to. -/
theorem classify_decidedByEnd (scope : Scope) (decl : PropertyDecl) (property : Property)
    (returns : (decl.classify scope).outcome = .ok property) :
    decl.DecidedByEnd scope property := by
  obtain ⟨kindEq, typeEq⟩ := (decl.classify_verdict scope).holds property returns
  constructor
  · rw [kindEq]
    exact (decl.verdict_answers scope.vocabulary).classified
  · intro type declared written
    rw [typeEq, Text.given_eq_some_iff.mpr ⟨declared, written⟩]
    rfl
  · intro sourced type
    obtain ⟨other, otherReturns⟩ := classify_withType_returns returns type
    refine ⟨other, otherReturns, ?_⟩
    rw [((decl.withType type).classify_verdict scope).holds other otherReturns |>.1,
      verdict_withType sourced, kindEq]
  · intro otherScope other found alike agree otherReturns
    obtain ⟨otherKindEq, otherTypeEq⟩ :=
      (other.classify_verdict otherScope).holds found otherReturns
    rw [kindEq, typeEq, otherKindEq, otherTypeEq, alike.verdict_eq agree, alike.type]
    exact ⟨rfl, rfl⟩

end PropertyDecl

/-- A property with a declared type whose value starts with a collection builder and
ends in a reactive wrapper. -/
def chainedProperty : PropertyDecl where
  name := "rows"
  type := some "List<String>"
  initializer := some (.binary (.call ⟨"listOf", [], none, none⟩) "."
    (.binary (.name "rows") "?." (.call ⟨"observable", [], none, none⟩)))
  delegate := none
  mutable := false
  text := none

theorem classify_chainedProperty : ∃ property,
    (chainedProperty.classify (.outermost .default)).outcome = .ok property ∧
      property.kind = .observable ∧ property.type = some "List<String>" ∧
      chainedProperty.DecidedByEnd (.outermost .default) property :=
  ⟨_, rfl, rfl, rfl, PropertyDecl.classify_decidedByEnd (.outermost .default) chainedProperty _ rfl⟩

end ViewOutline
