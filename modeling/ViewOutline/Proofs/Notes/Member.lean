import ViewOutline.Context
import ViewOutline.Proofs.Class.Handler
import ViewOutline.Proofs.Notes.Statement
import Mathlib.Data.List.Forall2

/-!
# Notes on the members of a class

The outline of a class leaves the notes on its members, member by member.  A
member that is no class member at all, or a property or function without a name,
leaves one note and is not looked into.  Any other leaves the notes on the
statements that stand in it; a property that could not be classified leaves one
more, after them.  A structure inside the class leaves none.
-/

namespace ViewOutline

/-- Whether a node is of a shape that a class can have as a member. -/
def Node.isClassMember : Node → Bool
  | .property _ => true
  | .function _ => true
  | .initializer _ => true
  | .structured _ => true
  | _ => false

/-- What is noted about a node that is no class member: its text, if it is unknown
and has one, and otherwise its shape. -/
def Node.strayText : Node → String
  | .unknown text _ => (Text.given text).getD "Unknown"
  | node => node.shapeName

/-- The note on a property that could not be classified. -/
def PropertyDecl.doubts (decl : PropertyDecl) (found : Property) : List String :=
  if found.kind = .unclassified then
    ["property " ++ decl.name ++ ": " ++
      found.summary.getD "no type, initializer, or delegate"]
  else []

/-- The notes that a member of a class leaves, where it adds something to the
outline of the class. -/
inductive Node.Leaves (className : String) : Node → MemberOutline → List String → Prop
  | namelessProperty {decl : PropertyDecl} {found : Property} :
      decl.name = "" →
        Leaves className (.property decl) (.property found)
          [className ++ " property" ++ ": " ++ "Property declaration has no name"]
  | property {decl : PropertyDecl} {found : Property} {notes : List String} :
      decl.name ≠ "" → NotesOn (Node.property decl).Holds notes →
        Leaves className (.property decl) (.property found) (notes ++ decl.doubts found)
  | namelessFunction {decl : FunctionDecl} {found : Method} :
      decl.name = "" →
        Leaves className (.function decl) (.method found)
          [className ++ " method" ++ ": " ++ "Function declaration has no name"]
  | function {decl : FunctionDecl} {found : Method} {notes : List String} :
      decl.name ≠ "" → NotesOn (Node.BodyHolds decl.body) notes →
        Leaves className (.function decl) (.method found) notes
  | initializer {statements : List Node} {found : Method} {notes : List String} :
      NotesOn (Node.block statements).Holds notes →
        Leaves className (.initializer statements) (.method found) notes
  | structured {decl : StructuredDecl} {text : String} :
      Leaves className (.structured decl) (.marker text) []
  | stray {member : Node} {found : Property} :
      member.isClassMember = false →
        Leaves className member (.property found)
          [className ++ " member" ++ ": " ++ member.strayText]

/-! ## Properties -/

theorem Node.classifyValue?_classified {vocabulary : Vocabulary} {value : Node}
    {kind : PropertyKind} {inferred : Option String}
    (found : value.classifyValue? vocabulary = some (kind, inferred)) : kind ≠ .unclassified := by
  rintro rfl
  simp only [classifyValue?] at found
  split at found
  · cases found
  · split at found
    · cases found
    · split at found
      · cases found
      · split at found <;> cases found

theorem Node.classifyDelegate?_classified {vocabulary : Vocabulary} {delegate : Node}
    {kind : PropertyKind} {inferred : Option String}
    (found : delegate.classifyDelegate? vocabulary = some (kind, inferred)) :
    kind ≠ .unclassified := by
  rintro rfl
  simp only [classifyDelegate?] at found
  split at found
  · split at found <;> cases found
  · cases found

theorem PropertyDecl.doubts_toProperty (decl : PropertyDecl) {kind : PropertyKind}
    (classified : kind ≠ .unclassified) (inferred summary : Option String) :
    decl.doubts (decl.toProperty kind inferred summary) = [] :=
  if_neg classified

theorem PropertyDecl.settle_notes (decl : PropertyDecl) (summary : String)
    {found : Option (PropertyKind × Option String)}
    (classified : ∀ kind inferred, found = some (kind, inferred) → kind ≠ .unclassified) :
    (decl.settle summary found).Returns fun property notes => notes = decl.doubts property := by
  rcases found with _ | ⟨kind, inferred⟩
  · apply (Analysis.Returns.degrade _ _).bind
    rintro _ _ rfl
    exact .pure rfl
  · apply Analysis.Returns.pure
    rw [doubts_toProperty decl (classified kind inferred rfl)]

/-- The statements that stand in the value or delegate of a declaration that is
rendered stand in the declaration. -/
theorem PropertyDecl.notesOn_operand {decl : PropertyDecl} {step : Step} {rendered : Node}
    (operand : decl.operands = [(step, rendered)]) :
    NotesOn (Node.property decl).Holds (notesAt rendered.held) := by
  have noted := (Node.property decl).notesOn_held
  rwa [Node.held_eq rfl, Node.operands, operand, notesAt_below, List.flatMap_singleton] at noted

/-- A value or delegate is rendered and then classified. -/
theorem PropertyDecl.settled_notes (scope : Scope) {decl : PropertyDecl} {step : Step}
    {rendered : Node} (operand : decl.operands = [(step, rendered)]) (summary : String → String)
    {found : Option (PropertyKind × Option String)}
    (classified : ∀ kind inferred, found = some (kind, inferred) → kind ≠ .unclassified) :
    (rendered.render scope >>= fun content =>
        decl.settle (summary content.text) found).Returns fun property notes =>
      ∃ before, NotesOn (Node.property decl).Holds before ∧
        notes = before ++ decl.doubts property := by
  apply (rendered.render_notes scope).bind
  rintro content _ rfl
  constructor
  intro property returned
  have doubts := (decl.settle_notes (summary content.text) classified).holds property returned
  exact ⟨_, notesOn_operand operand, by rw [doubts]⟩

/-- Classifying a property leaves the notes on the statements in its value or
delegate, and then its own note if it could not be classified. -/
theorem PropertyDecl.classify_notes (scope : Scope) (decl : PropertyDecl) :
    (decl.classify scope).Returns fun property notes =>
      ∃ before, NotesOn (Node.property decl).Holds before ∧
        notes = before ++ decl.doubts property := by
  rcases decl with ⟨name, type, value, delegate, mutable, text⟩
  rw [classify]
  split
  · exact .fail _
  cases value with
  | some value =>
      exact settled_notes scope rfl id fun _ _ => value.classifyValue?_classified
  | none =>
      cases delegate with
      | some delegate =>
          exact settled_notes scope rfl ("by " ++ ·) fun _ _ =>
            delegate.classifyDelegate?_classified
      | none =>
          have nothing :
              NotesOn (Node.property ⟨name, type, none, none, mutable, text⟩).Holds [] := by
            have noted :=
              (Node.property ⟨name, type, none, none, mutable, text⟩).notesOn_held
            rwa [Node.held_eq rfl] at noted
          dsimp only
          split
          · split
            · exact .pure ⟨[], nothing, rfl⟩
            · exact .pure ⟨[], nothing, rfl⟩
          · apply (Analysis.Returns.degrade _ _).bind
            rintro _ _ rfl
            exact .pure ⟨[], nothing, rfl⟩

/-! ## Members -/

theorem Node.referenceText?_notes (scope : Scope) (body : Option Node) :
    (Node.referenceText? scope body).Returns fun _ notes => notes = [] := by
  rw [referenceText?.eq_def]
  split
  · apply (render_notes scope _).bind
    rintro _ _ rfl
    apply Analysis.Returns.pure
    rw [held_eq rfl]
    rfl
  · exact .pure rfl

theorem FunctionDecl.outline_notes (scope : Scope) (decl : FunctionDecl) :
    (decl.outline scope).Returns fun _ notes => NotesOn (Node.BodyHolds decl.body) notes := by
  rw [outline]
  split
  · exact .fail _
  · apply (Node.referenceText?_notes scope decl.body).bind
    rintro _ _ rfl
    apply (Node.bodyRecords_notes scope decl.body).bind
    intro records notes noted
    apply Analysis.Returns.pure
    rw [List.append_nil]
    exact noted

theorem Node.outlineMember_notes (scope : Scope) (className : String) (member : Node) :
    (member.outlineMember scope className).Returns fun found notes =>
      member.Leaves className found notes := by
  cases member with
  | property decl =>
      rw [outlineMember_property]
      split
      · rename_i nameless
        apply (Analysis.Returns.degrade _ _).bind
        rintro _ _ rfl
        exact .pure (.namelessProperty nameless)
      · rename_i named
        apply (decl.classify_notes scope).bind
        rintro property _ ⟨before, noted, rfl⟩
        apply Analysis.Returns.pure
        rw [List.append_nil]
        exact .property named noted
  | function decl =>
      rw [outlineMember_function]
      split
      · rename_i nameless
        apply (Analysis.Returns.degrade _ _).bind
        rintro _ _ rfl
        exact .pure (.namelessFunction nameless)
      · rename_i named
        apply (decl.outline_notes scope).bind
        rintro method notes noted
        apply Analysis.Returns.pure
        rw [List.append_nil]
        exact .function named noted
  | initializer statements =>
      apply (blockRecords_notes scope statements).bind
      rintro records notes noted
      apply Analysis.Returns.pure
      rw [List.append_nil]
      exact .initializer noted
  | structured decl => exact .pure .structured
  | _ =>
      apply (Analysis.Returns.degrade _ _).bind
      rintro _ _ rfl
      exact .pure (.stray rfl)

/-- What the outline of a class lists is what its members add, in order. -/
structure ClassOutline.Gathers (outline : ClassOutline) (members : List MemberOutline) : Prop where
  properties : outline.properties = members.filterMap MemberOutline.property?
  methods : outline.methods = members.filterMap MemberOutline.method?
  structures : outline.structures = members.filterMap MemberOutline.marker?

theorem Node.outlineMembers_notes (scope : Scope) (className : String) (members : List Node) :
    (Node.outlineMembers scope className members).Returns fun outlines notes =>
      ∃ left : List (MemberOutline × List String),
        List.Forall₂ (fun member part => member.Leaves className part.1 part.2) members left ∧
        outlines = left.map Prod.fst ∧ notes = left.flatMap Prod.snd := by
  induction members with
  | nil => exact .pure ⟨[], .nil, rfl, rfl⟩
  | cons member rest ih =>
      apply (member.outlineMember_notes scope className).bind
      intro outline notes leaves
      apply ih.bind
      rintro _ _ ⟨left, others, rfl, rfl⟩
      apply Analysis.Returns.pure
      exact ⟨(outline, notes) :: left, .cons leaves others, rfl, by simp⟩

theorem StructuredDecl.outline_notes (scope : Scope) (decl : StructuredDecl)
    (className : Option String) :
    (decl.outline scope className).Returns fun outline notes =>
      ∃ left : List (MemberOutline × List String),
        List.Forall₂ (fun member part =>
          member.Leaves ((Text.given className).getD decl.name) part.1 part.2) decl.members left ∧
        outline.Gathers (left.map Prod.fst) ∧ notes = left.flatMap Prod.snd := by
  rw [outline]
  split
  · exact .fail _
  · apply (Node.outlineMembers_notes scope _ decl.members).bind
    rintro _ _ ⟨left, each, rfl, rfl⟩
    apply (Analysis.Returns.log rfl).bind
    rintro _ _ rfl
    apply Analysis.Returns.pure
    exact ⟨left, each, ⟨rfl, rfl, rfl⟩, by simp⟩

/-- The notes that the outline of a class adds to those of the context are those of
its members, in the order of the members. -/
theorem outline_leaves_notes (context : Context) (decl : StructuredDecl)
    (className : Option String) (outline : ClassOutline)
    (returns : (context.run fun scope => decl.outline scope className).2 = .ok outline) :
    ∃ left : List (MemberOutline × List String),
      List.Forall₂ (fun member part =>
        member.Leaves ((Text.given className).getD decl.name) part.1 part.2) decl.members left ∧
      outline.Gathers (left.map Prod.fst) ∧
      (context.run fun scope => decl.outline scope className).1.notes =
        context.notes ++ left.flatMap Prod.snd := by
  obtain ⟨left, each, gathers, written⟩ :=
    (decl.outline_notes context.scope className).holds outline returns
  refine ⟨left, each, gathers, ?_⟩
  rw [← written]
  rfl

/-- A class with a property without a name, a property that is a lambda, a
function that is an unknown expression, an initialisation with a block among its
statements, and a structure and a call among its members. -/
def notedClass : StructuredDecl where
  name := "Screen"
  form := "class"
  supertypes := []
  members := [
    .property ⟨"", none, some (.unknown (some "seen") none), none, false, none⟩,
    .property ⟨"rows", none, some (.lambda ⟨[], [.call ⟨"each", [],
      some ⟨[], [.unknown (some "loop") none]⟩, none⟩, .unknown none none]⟩), none, false, none⟩,
    .function ⟨"main", [], none, some (.unknown (some "when") none), none⟩,
    .initializer [.block [.unknown (some "unseen") none]],
    .structured ⟨"Model", "class", [], [.unknown (some "unseen") none], none⟩,
    .call ⟨"button", [], none, none⟩]
  text := none

/-- The notes on statements come in the order of writing and before the note on
the property that they stand in. -/
theorem outline_notedClass :
    ∃ outline,
      ((Context.mk ⟨.default, 3⟩ ["earlier"]).run fun scope => notedClass.outline scope none).2 =
        .ok outline ∧
      ((Context.mk ⟨.default, 3⟩ ["earlier"]).run fun scope =>
          notedClass.outline scope none).1.notes =
        ["earlier", "Screen property: Property declaration has no name", "statement: loop",
          "statement: <unknown>",
          "property rows: \x7b each \x7b loop \x7d; <unknown> \x7d",
          "statement: when", "statement: <unknown>", "Screen member: Call"] ∧
      ∃ left : List (MemberOutline × List String),
        List.Forall₂ (fun member part => member.Leaves "Screen" part.1 part.2)
          notedClass.members left ∧
        outline.Gathers (left.map Prod.fst) ∧
        ((Context.mk ⟨.default, 3⟩ ["earlier"]).run fun scope =>
            notedClass.outline scope none).1.notes =
          ["earlier"] ++ left.flatMap Prod.snd :=
  ⟨_, rfl, rfl, outline_leaves_notes ⟨⟨.default, 3⟩, ["earlier"]⟩ notedClass none _ rfl⟩

end ViewOutline
