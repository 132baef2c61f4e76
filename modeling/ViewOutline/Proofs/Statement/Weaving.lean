import ViewOutline.Proofs.Statement.RecordTree

/-!
# Texts of folded statements

A record keeps the records of what was folded into it, and it keeps their texts
as well: its own text is put together from theirs, in their order, with other
texts before, between and after them.  The same holds at every record of a tree.
-/

namespace ViewOutline

/-- Pieces are woven into a text: it is put together from them in their order,
with some text before each and after the last. -/
inductive Text.Woven : List String → String → Prop
  | nil (rest : String) : Woven [] rest
  | cons (before piece : String) {pieces : List String} {rest : String} :
      Woven pieces rest → Woven (piece :: pieces) (before ++ piece ++ rest)

namespace Text.Woven

variable {pieces others : List String} {text rest : String}

theorem self (piece : String) : Woven [piece] piece := by
  have woven := Woven.cons "" piece (.nil "")
  rwa [String.empty_append, String.append_empty] at woven

/-- Text may be written in front. -/
theorem after (before : String) (woven : Woven pieces text) : Woven pieces (before ++ text) := by
  cases woven with
  | nil => exact .nil _
  | cons gap piece woven =>
      rw [← String.append_assoc, ← String.append_assoc]
      exact .cons (before ++ gap) piece woven

/-- What is woven into one text and what is woven into the next is woven into
both together. -/
theorem append (woven : Woven pieces text) (next : Woven others rest) :
    Woven (pieces ++ others) (text ++ rest) := by
  induction woven with
  | nil text => exact next.after text
  | cons gap piece _ ih =>
      rw [List.cons_append, String.append_assoc]
      exact .cons gap piece ih

/-- Text may be written behind. -/
theorem before (woven : Woven pieces text) (rest : String) : Woven pieces (text ++ rest) := by
  have followed := woven.append (.nil rest)
  rwa [List.append_nil] at followed

/-- What is woven into the empty text is woven into any. -/
theorem of_empty (woven : Woven pieces "") (text : String) : Woven pieces text := by
  have followed := woven.before text
  rwa [String.empty_append] at followed

/-- What is woven into texts is woven into them with separators between them. -/
theorem intercalate {α : Type} (separator : String) {values : List α} {parts : α → List String}
    {texts : α → String} (each : ∀ value ∈ values, Woven (parts value) (texts value)) :
    Woven (values.flatMap parts) (separator.intercalate (values.map texts)) := by
  induction values with
  | nil => exact .nil _
  | cons value rest ih =>
      obtain ⟨first, others⟩ := List.forall_mem_cons.mp each
      cases rest with
      | nil =>
          rw [List.flatMap_singleton, List.map_singleton, String.intercalate_singleton]
          exact first
      | cons next rest =>
          rw [List.flatMap_cons, List.map_cons, List.map_cons, String.intercalate_cons_cons]
          exact (first.before separator).append (ih others)

end Text.Woven

open Text (Woven)

/-! ## Joined texts -/

theorem joinOperands_woven {left right : String} {first second : List String} (operator : String)
    (leftWoven : Woven first left) (rightWoven : Woven second right) :
    Woven (first ++ second) (joinOperands left operator right) := by
  rw [joinOperands]
  split
  · exact (leftWoven.before operator).append rightWoven
  · exact (((leftWoven.before " ").before operator).before " ").append rightWoven

theorem argumentText_woven {value : String} {pieces : List String} (name : Option String)
    (spread : Bool) (woven : Woven pieces value) :
    Woven pieces (argumentText name spread value) := by
  have starred : Woven pieces (if spread then "*" ++ value else value) := by
    split
    · exact woven.after "*"
    · exact woven
  rw [argumentText]
  split
  · exact starred.after _
  · exact starred

theorem callHead_woven {values : List Rendered} (name : String) (typeArgs : Option String)
    (hasTrailing : Bool)
    (each : ∀ value ∈ values, Woven (value.nested.map Record.text) value.text) :
    Woven ((values.flatMap Rendered.nested).map Record.text)
      (callHead name typeArgs (values.map Rendered.text) hasTrailing) := by
  rw [callHead]
  split
  · -- Without arguments there is nothing to weave.
    rename_i omitted
    rw [Bool.and_eq_true, List.isEmpty_iff, List.map_eq_nil_iff] at omitted
    rw [omitted.1]
    exact .nil _
  · rw [List.map_flatMap]
    exact ((Woven.intercalate ", " each).after _).before ")"

/-- The parts of a text that are not empty are written with blanks between them. -/
theorem spaced_woven {body : String} {pieces : List String} (head : String)
    (woven : Woven pieces body) :
    Woven pieces (" ".intercalate ([head, body].filter (· ≠ ""))) := by
  by_cases noBody : body = ""
  · subst noBody
    exact woven.of_empty _
  · by_cases noHead : head = ""
    · simpa [noHead, noBody] using woven
    · simpa [noHead, noBody] using woven.after (head ++ " ")

theorem inBraces_woven {inner : String} {pieces : List String} (woven : Woven pieces inner) :
    Woven pieces (if inner = "" then "\x7b \x7d" else "\x7b " ++ inner ++ " \x7d") := by
  split
  · rename_i nothing
    rw [nothing] at woven
    exact woven.of_empty _
  · exact (woven.after _).before _

/-- The texts of the statements of a block are woven into the text of the block. -/
theorem braced_woven (params : List String) (records : List Record) :
    Woven (records.map Record.text) (braced params records) := by
  have body : Woven (records.flatMap fun record => [record.text])
      ("; ".intercalate (records.map Record.text)) :=
    Woven.intercalate "; " fun record _ => .self record.text
  rw [← List.map_eq_flatMap] at body
  exact inBraces_woven (spaced_woven _ body)

/-! ## Contents -/

/-- At every record of a tree, the texts of the records directly below are woven
into its text. -/
def Record.Weaves (record : Record) : Prop :=
  ∀ inner ∈ record.all, Woven (inner.nested.map Record.text) inner.text

/-- The texts of the records folded into a rendering are woven into its text, and
so on below. -/
structure Rendered.Weaves (rendered : Rendered) : Prop where
  here : Woven (rendered.nested.map Record.text) rendered.text
  below : ∀ record ∈ rendered.nested, record.Weaves

theorem Rendered.weaves_leaf (text : String) : Rendered.Weaves ⟨text, []⟩ :=
  ⟨.nil text, by rintro _ ⟨⟩⟩

theorem Rendered.Weaves.join {left right : Rendered} (leftWeaves : left.Weaves)
    (operator : String) (rightWeaves : right.Weaves) :
    Rendered.Weaves ⟨joinOperands left.text operator right.text, left.nested ++ right.nested⟩ where
  here := by
    rw [List.map_append]
    exact joinOperands_woven operator leftWeaves.here rightWeaves.here
  below := List.forall_mem_append.mpr ⟨leftWeaves.below, rightWeaves.below⟩

theorem Rendered.weaves_call {values : List Rendered} (name : String) (typeArgs : Option String)
    (hasTrailing : Bool) (weave : ∀ value ∈ values, value.Weaves) :
    Rendered.Weaves ⟨callHead name typeArgs (values.map Rendered.text) hasTrailing,
      values.flatMap Rendered.nested⟩ where
  here := callHead_woven name typeArgs hasTrailing fun value member => (weave value member).here
  below := by
    intro record member
    obtain ⟨value, valueMem, member⟩ := List.mem_flatMap.mp member
    exact (weave value valueMem).below record member

theorem Rendered.Weaves.trailing {head closure : Rendered} (headWeaves : head.Weaves)
    (weaves : closure.Weaves) :
    Rendered.Weaves ⟨head.text ++ " " ++ closure.text, head.nested ++ closure.nested⟩ where
  here := by
    rw [List.map_append]
    exact (headWeaves.here.before " ").append weaves.here
  below := List.forall_mem_append.mpr ⟨headWeaves.below, weaves.below⟩

/-- A record weaves if its content does. -/
theorem Rendered.Weaves.record {rendered : Rendered} (weaves : rendered.Weaves)
    (kind : RecordKind) : Record.Weaves ⟨kind, rendered.text, rendered.nested⟩ := by
  intro inner member
  rw [Record.all_eq, List.mem_cons, List.mem_flatMap] at member
  rcases member with rfl | ⟨nested, nestedMem, member⟩
  · exact weaves.here
  · exact weaves.below nested nestedMem inner member

theorem Node.recordOf_weaves (statement : Node) {content : Unit → Analysis Rendered}
    (weaves : (content ()).Returns fun rendered _ => rendered.Weaves) :
    (statement.recordOf content).Returns fun record _ => record.Weaves := by
  rw [recordOf]
  split
  · apply weaves.bind
    intro rendered _ weaves
    exact .pure (weaves.record _)
  · apply (Analysis.Returns.degrade _ _).bind
    intro _ _ _
    exact .pure ((Rendered.weaves_leaf _).record _)

mutual

theorem Node.content_weaves (inside : Scope) : ∀ node : Node,
    (node.content inside).Returns fun rendered _ => rendered.Weaves
  | .property decl => decl.content_weaves inside
  | .binary left operator right => by
      rw [Node.content]
      apply Analysis.Returns.liftBind
      intro leftScope
      apply (left.content_weaves leftScope).bind
      intro leftContent _ leftWeaves
      apply Analysis.Returns.liftBind
      intro rightScope
      apply (right.content_weaves rightScope).bind
      intro rightContent _ rightWeaves
      exact .pure (leftWeaves.join operator rightWeaves)
  | .call call => call.content_weaves inside
  | .lambda lambda => lambda.content_weaves inside
  | .block statements => by
      rw [Node.content]
      apply (Node.records_weave inside statements).bind
      intro records _ weave
      exact .pure ⟨braced_woven [] records, weave⟩
  | .name _ | .literal _ _ | .reference _ _ | .file _ | .structured _ | .function _
  | .initializer _ | .unknown _ _ => .pure (Rendered.weaves_leaf _)

theorem PropertyDecl.content_weaves (inside : Scope) : ∀ decl : PropertyDecl,
    (decl.content inside).Returns fun rendered _ => rendered.Weaves
  | ⟨name, _, some value, _, _, _⟩ => by
      rw [PropertyDecl.content]
      apply Analysis.Returns.liftBind
      intro within
      apply (value.content_weaves within).bind
      intro content _ weaves
      exact .pure ⟨weaves.here.after _, weaves.below⟩
  | ⟨name, _, none, some delegate, _, _⟩ => by
      rw [PropertyDecl.content]
      apply Analysis.Returns.liftBind
      intro within
      apply (delegate.content_weaves within).bind
      intro content _ weaves
      exact .pure ⟨weaves.here.after _, weaves.below⟩
  | ⟨name, type, none, none, _, _⟩ => by
      rw [PropertyDecl.content]
      split
      · exact .pure (Rendered.weaves_leaf _)
      · exact .pure (Rendered.weaves_leaf _)

theorem Call.content_weaves (inside : Scope) : ∀ call : Call,
    (call.content inside).Returns fun rendered _ => rendered.Weaves
  | ⟨name, args, none, typeArgs⟩ => by
      rw [Call.content]
      apply (Argument.contents_weave inside args).bind
      intro values _ weave
      exact .pure (Rendered.weaves_call name typeArgs false weave)
  | ⟨name, args, some trailing, typeArgs⟩ => by
      rw [Call.content]
      apply (Argument.contents_weave inside args).bind
      intro values _ weave
      apply Analysis.Returns.liftBind
      intro within
      apply (trailing.content_weaves within).bind
      intro content _ weaves
      exact .pure ((Rendered.weaves_call name typeArgs true weave).trailing weaves)

theorem Argument.contents_weave (inside : Scope) : ∀ args : List Argument,
    (Argument.contents inside args).Returns fun values _ => ∀ value ∈ values, value.Weaves
  | [] => .pure (by rintro _ ⟨⟩)
  | ⟨value, name, spread⟩ :: rest => by
      rw [Argument.contents]
      apply Analysis.Returns.liftBind
      intro within
      apply (value.content_weaves within).bind
      intro content _ weaves
      apply (Argument.contents_weave inside rest).bind
      intro values _ weave
      apply Analysis.Returns.pure
      exact List.forall_mem_cons.mpr
        ⟨⟨argumentText_woven name spread weaves.here, weaves.below⟩, weave⟩

theorem Lambda.content_weaves (inside : Scope) : ∀ lambda : Lambda,
    (lambda.content inside).Returns fun rendered _ => rendered.Weaves
  | ⟨params, body⟩ => by
      rw [Lambda.content]
      apply Analysis.Returns.liftBind
      intro within
      apply (Node.records_weave within body).bind
      intro records _ weave
      exact .pure ⟨braced_woven params records, weave⟩

theorem Node.records_weave (inside : Scope) : ∀ statements : List Node,
    (Node.records inside statements).Returns fun records _ => ∀ record ∈ records, record.Weaves
  | [] => .pure (by rintro _ ⟨⟩)
  | statement :: rest => by
      rw [Node.records]
      apply Analysis.Returns.liftBind
      intro within
      apply (statement.recordOf_weaves (statement.content_weaves within)).bind
      intro record _ weaves
      apply (Node.records_weave inside rest).bind
      intro records _ weave
      exact .pure (List.forall_mem_cons.mpr ⟨weaves, weave⟩)

end

/-- The record of a statement, and every record below it, has a text into which the
texts of the records directly below are woven, in their order. -/
theorem Node.record_weavesNested (scope : Scope) (statement : Node) (record : Record)
    (returns : (statement.record scope).outcome = .ok record) :
    ∀ inner ∈ record.all, Text.Woven (inner.nested.map Record.text) inner.text := by
  have weaves : (statement.record scope).Returns fun record _ => record.Weaves := by
    apply Analysis.Returns.liftBind
    intro within
    exact statement.recordOf_weaves (statement.content_weaves within)
  exact weaves.holds record returns

/-- Three texts are woven into that of the whole declaration and, further in, one
into that of the statement of its second lambda. -/
theorem record_foldingStatement : ∃ record last,
    (foldingStatement.record (.outermost .default)).outcome = .ok record ∧
      record.nested.map Record.text = ["size", "<unknown>", "show \x7b item \x7d"] ∧
      record.text =
        "rows = items(\x7b size; <unknown> \x7d).forEach \x7b item -> show \x7b item \x7d \x7d" ∧
      record.nested.getLast? = some last ∧ last.nested.map Record.text = ["item"] ∧
      ∀ inner ∈ record.all, Text.Woven (inner.nested.map Record.text) inner.text :=
  ⟨_, _, rfl, rfl, rfl, rfl, rfl,
    Node.record_weavesNested (.outermost .default) foldingStatement _ rfl⟩

end ViewOutline
