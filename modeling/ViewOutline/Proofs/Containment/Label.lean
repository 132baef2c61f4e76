import ViewOutline.Proofs.Containment.Discovery
import ViewOutline.Proofs.Text.Trim
import Mathlib.Data.List.Chain

/-!
# The labels of controls

A control is labelled with the first string literal that its call passes without a
name, whatever is passed before it, and else with the name of the call.  All
quotation marks at the two ends of the literal are taken away, not only the two that
enclose it.  In a literal on one line the marks inside are escaped, so none of them
stands at the start of its content, but one may stand at the end.  The label is the
content exactly if none does, and else it lacks the last character.
-/

namespace ViewOutline

/-! ## The content of a literal -/

/-- The mark around a string literal. -/
def isQuote (c : Char) : Bool :=
  c == '"'

theorem isQuote_eq_false_iff (c : Char) : isQuote c = false ↔ c ≠ '"' :=
  beq_eq_false_iff_ne

/-- Every quotation mark in the content of a literal comes right behind a backslash.
In front of the content stands the mark that opens the literal. -/
def QuotesEscaped (content : List Char) : Prop :=
  ('"' :: content).IsChain fun c next => next = '"' → c = '\\'

instance (content : List Char) : Decidable (QuotesEscaped content) :=
  inferInstanceAs (Decidable (List.IsChain _ _))

namespace QuotesEscaped

theorem head?_ne {content : List Char} (escaped : QuotesEscaped content) :
    content.head? ≠ some '"' := by
  intro quoted
  have opening := (List.isChain_cons.mp escaped).1 '"' quoted rfl
  exact absurd opening (by decide)

theorem left_of_append {front rest : List Char} (escaped : QuotesEscaped (front ++ rest)) :
    QuotesEscaped front := by
  rw [QuotesEscaped, ← List.cons_append] at escaped
  exact List.IsChain.left_of_append escaped

theorem getLast?_of_concat {front : List Char} (escaped : QuotesEscaped (front ++ ['"'])) :
    front.getLast? = some '\\' := by
  have marked := (List.isChain_append.mp (List.isChain_cons.mp escaped).2).2.2
  cases last : front.getLast? with
  | none =>
      rw [List.getLast?_eq_none_iff.mp last] at escaped
      exact absurd rfl escaped.head?_ne
  | some c => rw [marked c last '"' rfl rfl]

/-- Content that ends without a quotation mark is not trimmed. -/
theorem trim_eq_self {content : List Char} (escaped : QuotesEscaped content)
    (unquoted : content.getLast? ≠ some '"') : Text.trim isQuote content = content := by
  apply Text.Tight.trim_eq_self
  constructor
  · intro c first
    rw [isQuote_eq_false_iff]
    rintro rfl
    exact escaped.head?_ne first
  · intro c last
    rw [isQuote_eq_false_iff]
    rintro rfl
    exact unquoted last

/-- Content that ends with a quotation mark loses it, and no more than that. -/
theorem trim_concat {front : List Char} (escaped : QuotesEscaped (front ++ ['"'])) :
    Text.trim isQuote (front ++ ['"']) = front := by
  have backslash := escaped.getLast?_of_concat
  have shortened : QuotesEscaped front := escaped.left_of_append
  have trimmed : Text.trim isQuote ([] ++ front ++ ['"']) = Text.trim isQuote front :=
    Text.trim_append_append front (by rintro _ ⟨⟩) (List.forall_mem_singleton.mpr rfl)
  rw [List.nil_append] at trimmed
  rw [trimmed, shortened.trim_eq_self]
  rw [backslash]
  decide

end QuotesEscaped

/-! ## The label of a call -/

/-- An argument is a string literal that is passed without a name. -/
def Argument.IsPlainString (argument : Argument) (value : String) : Prop :=
  argument.name = none ∧ argument.value = .literal value .string

/-- The first string literal that a call passes without a name. -/
def Call.FirstString (call : Call) (value : String) : Prop :=
  ∃ before argument after, call.args = before ++ argument :: after ∧
    argument.IsPlainString value ∧ ∀ other ∈ before, ∀ text, ¬ other.IsPlainString text

theorem Argument.IsPlainString.label?_eq {argument : Argument} {value : String}
    (isString : argument.IsPlainString value) :
    argument.label? = some (String.ofList (Text.trim isQuote value.toList)) := by
  obtain ⟨unnamed, literal⟩ := isString
  simp only [Argument.label?, unnamed, literal]
  rfl

theorem Argument.label?_eq_none {argument : Argument}
    (other : ∀ value, ¬ argument.IsPlainString value) : argument.label? = none := by
  rw [Argument.label?]
  split
  · rename_i value unnamed literal
    exact absurd ⟨unnamed, literal⟩ (other value)
  · rfl

theorem Call.FirstString.label_eq {call : Call} {value : String}
    (first : call.FirstString value) :
    call.label = String.ofList (Text.trim isQuote value.toList) := by
  obtain ⟨before, argument, after, args, isString, others⟩ := first
  have skipped : before.findSome? Argument.label? = none :=
    List.findSome?_eq_none_iff.mpr fun other member => Argument.label?_eq_none (others other member)
  rw [Call.label, args, List.findSome?_append, skipped, Option.none_or, List.findSome?_cons,
    isString.label?_eq]
  rfl

theorem Call.label_eq_name {call : Call}
    (none : ∀ argument ∈ call.args, ∀ value, ¬ argument.IsPlainString value) :
    call.label = call.name := by
  have skipped : call.args.findSome? Argument.label? = Option.none :=
    List.findSome?_eq_none_iff.mpr fun argument member =>
      Argument.label?_eq_none (none argument member)
  rw [Call.label, skipped, Option.getD_none]

/-- What a label says about the call that it stands for. -/
structure Call.LabelledAs (call : Call) (label : String) : Prop where
  /-- The label is the first plain string without the quotation marks around it. -/
  trims : ∀ value, call.FirstString value → Text.Trims isQuote value.toList label.toList
  /-- It is the content of a literal if this does not end with a quotation mark. -/
  content_iff : ∀ content : String, call.FirstString ("\"" ++ content ++ "\"") →
    QuotesEscaped content.toList →
      (label = content ↔ content.toList.getLast? ≠ some '"')
  /-- Else it is the content without this mark. -/
  shortened : ∀ front : String, call.FirstString ("\"" ++ (front ++ "\"") ++ "\"") →
    QuotesEscaped (front ++ "\"").toList → label = front
  /-- Without a plain string the label is the name of the call. -/
  name : (∀ argument ∈ call.args, ∀ value, ¬ argument.IsPlainString value) → label = call.name

/-- The marks that enclose a literal are trimmed with all others at the ends of its
content. -/
theorem Call.FirstString.label_of_enclosed {call : Call} {content : String}
    (first : call.FirstString ("\"" ++ content ++ "\"")) :
    call.label = String.ofList (Text.trim isQuote content.toList) := by
  have trimmed : Text.trim isQuote (['"'] ++ content.toList ++ ['"']) =
      Text.trim isQuote content.toList :=
    Text.trim_enclosed _ rfl rfl
  rw [first.label_eq, String.toList_append, String.toList_append, ← trimmed]
  rfl

theorem Call.FirstString.label_shortened {call : Call} {front : String}
    (first : call.FirstString ("\"" ++ (front ++ "\"") ++ "\""))
    (escaped : QuotesEscaped (front ++ "\"").toList) : call.label = front := by
  rw [String.toList_append] at escaped
  have trimmed : Text.trim isQuote (front ++ "\"").toList = front.toList := by
    rw [String.toList_append]
    exact escaped.trim_concat
  rw [first.label_of_enclosed, trimmed, String.ofList_toList]

theorem Call.FirstString.label_eq_content_iff {call : Call} {content : String}
    (first : call.FirstString ("\"" ++ content ++ "\""))
    (escaped : QuotesEscaped content.toList) :
    call.label = content ↔ content.toList.getLast? ≠ some '"' := by
  constructor
  · intro unchanged quoted
    rw [first.label_of_enclosed, ← String.toList_inj, String.toList_ofList] at unchanged
    have last := (Text.trims_iff.mpr unchanged).last '"' quoted
    cases last
  · intro unquoted
    rw [first.label_of_enclosed, escaped.trim_eq_self unquoted, String.ofList_toList]

theorem Call.labelledAs_label (call : Call) : call.LabelledAs call.label where
  trims value first := by
    rw [first.label_eq, String.toList_ofList]
    exact Text.trims_trim value.toList
  content_iff _ first := first.label_eq_content_iff
  shortened _ first := first.label_shortened
  name := Call.label_eq_name

/-! ## The labels of a class -/

/-- The controls of a class are labelled by the widget calls that build them. -/
structure Labels (vocabulary : Vocabulary) (members : List Node) (places : List Way)
    (harvest : Harvest) : Prop where
  /-- The sites are those of the widget calls. -/
  mem_iff : ∀ site, site ∈ places ↔ ∃ call, WidgetAt vocabulary members site call
  /-- They come in the order of writing. -/
  ordered : places.Pairwise Way.Before
  /-- Each control is labelled by the call at its site. -/
  labelled : List.Forall₂ (fun site control => ∃ call, WidgetAt vocabulary members site call ∧
    control.kind = call.name ∧ call.LabelledAs control.label) places harvest.controls
  /-- The graph holds the controls with these labels. -/
  nodes : harvest.graph.nodes.values = harvest.controls

/-- The label of every control that a search finds is the one its call passes. -/
theorem findControls_labels (scope : Scope) (members : List Node) (harvest : Harvest)
    (returns : (Node.findControls scope members).outcome = .ok harvest) :
    ∃ places, Labels scope.vocabulary members places harvest := by
  obtain ⟨finds, tracks, findSites⟩ := exists_tracks_of_findControls returns
  refine ⟨finds.map Find.site, ?_, ?_, ?_, ?_⟩
  · intro site
    rw [findSites, mem_widgetWays_iff]
    simp only [mem_sites_iff, WidgetAt]
  · rw [findSites]
    exact widgetWays_ordered scope.vocabulary members
  · rw [tracks.controls, List.forall₂_map_left_iff, List.forall₂_map_right_iff, List.forall₂_same]
    intro find member
    obtain ⟨call, widget, kind, label⟩ := tracks.built find member
    exact ⟨call, widget, kind, label ▸ call.labelledAs_label⟩
  · rw [Table.values, tracks.grown.nodes, tracks.controls, List.map_map, List.map_map]
    rfl

/-- A call with a number, a named string and then a string of the given content. -/
def captioned (content : String) : Call where
  name := "label"
  args := [⟨.literal "12" .int, none, false⟩, ⟨.literal "\"title\"" .string, some "id", false⟩,
    ⟨.literal ("\"" ++ content ++ "\"") .string, none, false⟩]
  trailing := none
  typeArgs := none

theorem captioned_firstString (content : String) :
    (captioned content).FirstString ("\"" ++ content ++ "\"") := by
  refine ⟨(captioned content).args.take 2, _, [], rfl, ⟨rfl, rfl⟩, ?_⟩
  rintro other member text ⟨unnamed, literal⟩
  rcases List.mem_pair.mp member with rfl | rfl
  · cases literal
  · cases unnamed

/-- A mark at the start of the content stays, behind its backslash. -/
theorem findControls_captioned_start :
    ∃ harvest, (Node.findControls (.outermost .default)
        [.initializer [.call (captioned "\\\"Hi\\\", they said")]]).outcome = .ok harvest ∧
      harvest.controls.map Control.label = ["\\\"Hi\\\", they said"] ∧
      ∃ places, Labels .default [.initializer [.call (captioned "\\\"Hi\\\", they said")]] places
        harvest :=
  ⟨_, rfl, by decide, findControls_labels (.outermost .default) _ _ rfl⟩

/-- A mark at the end of the content is lost, and its backslash is left. -/
theorem findControls_captioned_end :
    (captioned "say \\\"hi\\\"").FirstString ("\"" ++ "say \\\"hi\\\"" ++ "\"") ∧
      QuotesEscaped "say \\\"hi\\\"".toList ∧
      ∃ harvest, (Node.findControls (.outermost .default)
          [.initializer [.call (captioned "say \\\"hi\\\"")]]).outcome = .ok harvest ∧
        harvest.controls.map Control.label = ["say \\\"hi\\"] :=
  ⟨captioned_firstString _, by decide, _, rfl, by decide⟩

end ViewOutline
