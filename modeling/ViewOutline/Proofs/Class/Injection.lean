import ViewOutline.Proofs.Class.Property
import ViewOutline.Proofs.Text.Trim

/-!
# Injected types

A property that is delegated to an injection and has no declared type takes its
type from the type arguments of the injection.  All angle brackets at the two ends
of the type arguments are taken away, not only the two that enclose them.  So the
type is the one that was written exactly if it neither starts nor ends with an angle
bracket, and a type with type arguments of its own loses its last bracket.
-/

namespace ViewOutline

/-! ## Angle brackets -/

/-- The brackets around type arguments. -/
def isAngle (c : Char) : Bool :=
  c == '<' || c == '>'

theorem isAngle_eq_false_iff (c : Char) : isAngle c = false ↔ c ≠ '<' ∧ c ≠ '>' := by
  rw [isAngle, Bool.or_eq_false_iff, beq_eq_false_iff_ne, beq_eq_false_iff_ne]

/-- Every closing angle bracket of a text has an opening one before it, and every
opening one is closed. -/
structure AngleBalanced (text : List Char) : Prop where
  opened : ∀ front, front <+: text → front.count '>' ≤ front.count '<'
  closed : text.count '<' = text.count '>'

theorem AngleBalanced.head?_ne {text : List Char} (balanced : AngleBalanced text) :
    text.head? ≠ some '>' := by
  intro first
  obtain ⟨rest, rfl⟩ := List.head?_eq_some_iff.mp first
  have opened := balanced.opened ['>'] ⟨rest, rfl⟩
  exact absurd opened (by decide)

theorem AngleBalanced.getLast?_ne {text : List Char} (balanced : AngleBalanced text) :
    text.getLast? ≠ some '<' := by
  intro last
  obtain ⟨front, rfl⟩ := List.getLast?_eq_some_iff.mp last
  have opened := balanced.opened front (List.prefix_append front _)
  have closed := balanced.closed
  rw [List.count_append, List.count_append] at closed
  have ends : List.count '<' ['<'] = 1 ∧ List.count '>' ['<'] = 0 := by decide
  omega

/-- A balanced text starts and ends with no angle bracket but the one that can open
or close it. -/
theorem AngleBalanced.trims_self_iff {text : List Char} (balanced : AngleBalanced text) :
    Text.Trims isAngle text text ↔ text.head? ≠ some '<' ∧ text.getLast? ≠ some '>' := by
  constructor
  · rintro ⟨tight, _⟩
    constructor
    · intro opens
      cases tight.first _ opens
    · intro closes
      cases tight.last _ closes
  · rintro ⟨unopened, unclosed⟩
    refine ⟨⟨?_, ?_⟩, [], [], by simp, by simp, by simp⟩
    · intro c first
      rw [isAngle_eq_false_iff]
      constructor
      · rintro rfl
        exact unopened first
      · rintro rfl
        exact balanced.head?_ne first
    · intro c last
      rw [isAngle_eq_false_iff]
      constructor
      · rintro rfl
        exact balanced.getLast?_ne last
      · rintro rfl
        exact unclosed last

/-! ## Injections -/

namespace PropertyDecl

/-- A declaration with no type and no initial value is delegated to an injection of
the type that is written. -/
structure Injects (decl : PropertyDecl) (vocabulary : Vocabulary) (written : String) : Prop where
  untyped : Text.given decl.type = none
  uninitialised : decl.initializer = none
  delegated : ∃ delegate ending, decl.delegate = some delegate ∧ delegate.EndsIn ending ∧
    ending.name ∈ vocabulary.injectionDelegates ∧ ending.typeArgs = some ("<" ++ written ++ ">")

theorem injectedType?_angled (written : String) :
    injectedType? (some ("<" ++ written ++ ">")) =
      some (String.ofList (Text.trim isAngle written.toList)) := by
  have nonempty : "<" ++ written ++ ">" ≠ "" := by
    intro nothing
    have letters := congrArg String.toList nothing
    simp at letters
  have trimmed : Text.trim isAngle (['<'] ++ written.toList ++ ['>']) =
      Text.trim isAngle written.toList :=
    Text.trim_enclosed _ rfl rfl
  rw [injectedType?, Text.given_eq_some_iff.mpr ⟨rfl, nonempty⟩, Option.map_some,
    String.toList_append, String.toList_append, ← trimmed]
  rfl

theorem Injects.verdict_eq {decl : PropertyDecl} {vocabulary : Vocabulary} {written : String}
    (injects : decl.Injects vocabulary written) :
    decl.verdict vocabulary =
      (.injected, some (String.ofList (Text.trim isAngle written.toList))) := by
  obtain ⟨_, noValue, delegate, ending, delegated, endsIn, injection, typed⟩ := injects
  have found := (Node.tailCall?_eq_some_iff _ _).mpr endsIn
  simp only [verdict, noValue, delegated, Node.classifyDelegate?, found,
    List.contains_iff_mem, injection, if_true, typed, injectedType?_angled, Option.getD_some]

/-- The type of an injected property against the type that is written. -/
structure InjectedAs (property : Property) (written : String) : Prop where
  kind : property.kind = .injected
  /-- The type is what is written without the angle brackets around it. -/
  type_iff : ∀ type : String, property.type = some type ↔
    Text.Trims isAngle written.toList type.toList
  /-- It is what is written if there are no such brackets. -/
  unchanged_iff : AngleBalanced written.toList →
    (property.type = some written ↔
      written.toList.head? ≠ some '<' ∧ written.toList.getLast? ≠ some '>')

/-- The type of an injected property is found in the type arguments of the
injection at the end of its access chain. -/
theorem classify_injectedAs (scope : Scope) (decl : PropertyDecl) (written : String)
    (injects : decl.Injects scope.vocabulary written) (property : Property)
    (returns : (decl.classify scope).outcome = .ok property) :
    InjectedAs property written := by
  obtain ⟨kindEq, typeEq⟩ := (decl.classify_verdict scope).holds property returns
  rw [injects.verdict_eq] at kindEq typeEq
  rw [injects.untyped] at typeEq
  have type_iff : ∀ type : String, property.type = some type ↔
      Text.Trims isAngle written.toList type.toList := by
    intro type
    rw [typeEq, Option.none_or, Option.some.injEq, ← String.toList_inj, String.toList_ofList,
      Text.trims_iff]
  refine ⟨kindEq, type_iff, fun balanced => ?_⟩
  rw [type_iff, balanced.trims_self_iff]

end PropertyDecl

/-- A property delegated to an injection at the end of an access chain. -/
def injection (written : String) : PropertyDecl where
  name := "rows"
  type := none
  initializer := none
  delegate := some (.binary (.name "app") "."
    (.binary (.name "services") "?." (.call ⟨"inject", [], none, some ("<" ++ written ++ ">")⟩)))
  mutable := false
  text := none

theorem injection_injects (written : String) : (injection written).Injects .default written where
  untyped := rfl
  uninitialised := rfl
  delegated := by
    have known : "inject" ∈ Vocabulary.default.injectionDelegates := by decide
    exact ⟨_, _, rfl, .access (.inl rfl) (.access (.inr rfl) (.call _)), known, rfl⟩

/-- A mark of nullability shields the type arguments in front of it. -/
theorem classify_injection_nullable : ∃ property,
    ((injection "Map<String, Row>?").classify (.outermost .default)).outcome = .ok property ∧
      property.type = some "Map<String, Row>?" ∧
      PropertyDecl.InjectedAs property "Map<String, Row>?" :=
  ⟨_, rfl, rfl, PropertyDecl.classify_injectedAs (.outermost .default)
    (injection "Map<String, Row>?") _ (injection_injects _) _ rfl⟩

/-- A type that ends with type arguments loses its last bracket. -/
theorem classify_injection_list : ∃ property,
    ((injection "List<String>").classify (.outermost .default)).outcome = .ok property ∧
      property.kind = .injected ∧ property.type = some "List<String" :=
  ⟨_, rfl, rfl, rfl⟩

end ViewOutline
