import ViewOutline.Proofs.Statement.Listing
import Mathlib.Data.List.Forall2

/-!
# Statements folded into a statement

A lambda that is written in an expression is folded into the text of the
statement around it, and the records of its statements are kept below the record
of that statement.  What comes there is fixed by the source text: in the order of
writing, the records of the statements of the outermost lambda bodies and blocks
that are reached through the rendered operands of the statement.
-/

namespace ViewOutline

/-- A statement that is folded into a node stands in a block, which the steps
before the last reach through rendered operands.  The block is the outermost one
on the way: the steps to it do not pass through another. -/
def Node.Folds : Node → Way → Node → Prop :=
  Meets fun _ => false

/-- The statements that are folded into a node, in the order of writing. -/
def Node.folded : Node → List (Way × Node) :=
  met fun _ => false

theorem Node.folded_block (statements : List Node) :
    (Node.block statements).folded =
      (Step.toEach .statement statements 0).map fun part => ([part.1], part.2) := by
  rw [folded, met_block, below]
  exact List.flatMap_pure_eq_map _ _

theorem Node.folded_eq {node : Node} (noBlock : node.isBlock = false) :
    node.folded = below folded node.operands :=
  met_eq _ noBlock

/-- The folded statements are listed in the order of writing, and none lies inside
another. -/
theorem Node.folded_apart (node : Node) :
    node.folded.Pairwise fun first second => Way.Apart first.1 second.1 :=
  met_pairwise (fun _ _ _ _ => .here) (fun _ _ _ => .later) (by rintro _ ⟨⟩) node

/-! ## Records and statements -/

/-- Whether a statement can have statements folded into it.  All other shapes
are recorded as they stand. -/
def Node.isCompound : Node → Bool
  | .property _ => true
  | .binary .. => true
  | .call _ => true
  | .lambda _ => true
  | _ => false

/-- A record shows the text of a statement, as it is rendered in the same scope.
A block that stands as a statement is not rendered. -/
def Record.Shows (record : Record) (scope : Scope) (statement : Node) : Prop :=
  statement.isBlock = false →
    (Node.renderText scope (some statement)).outcome = .ok record.text

/-- A record stands for a statement in a scope: it shows the statement, and its
nested records stand one to one for the statements that are folded into it, in
the order of writing, each as many levels further in as there are steps to it. -/
inductive Mirrors : Scope → Node → Record → Prop
  | plain {scope : Scope} {statement : Node} {record : Record} :
      statement.isCompound = false →
      record.Shows scope statement →
      record.nested = [] →
        Mirrors scope statement record
  | compound {scope : Scope} {statement : Node} {record : Record}
      (places : List (Way × Node)) :
      statement.isCompound = true →
      record.Shows scope statement →
      (∀ way inner, (way, inner) ∈ places ↔ statement.Folds way inner) →
      places.Pairwise (fun first second => Way.Apart first.1 second.1) →
      places.length = record.nested.length →
      (∀ way inner nested, ((way, inner), nested) ∈ places.zip record.nested →
        Mirrors (scope.deeper way.length) inner nested) →
        Mirrors scope statement record

/-- The records that are folded into a node stand for its folded statements. -/
def Node.Mirrored (node : Node) : Prop :=
  ∀ (scope : Scope) (rendered : Rendered),
    (node.content (scope.deeper 1)).outcome = .ok rendered →
      List.Forall₂ (fun place record => Mirrors (scope.deeper place.1.length) place.2 record)
        node.folded rendered.nested

theorem Node.operands_eq_nil {statement : Node} (plain : statement.isCompound = false) :
    statement.operands = [] := by
  cases statement with
  | property _ | binary _ _ _ | call _ | lambda _ => cases plain
  | _ => rfl

theorem Node.renderText_eq_ok {scope : Scope} {node : Node} {rendered : Rendered}
    (descends : scope.descend = .ok (scope.deeper 1))
    (returns : (node.content (scope.deeper 1)).outcome = .ok rendered) :
    (Node.renderText scope (some node)).outcome = .ok rendered.text := by
  simp only [renderText, render, Analysis.outcome_bind, bind_eq_ok_iff]
  exact ⟨rendered, ⟨scope.deeper 1, descends, returns⟩, rfl⟩

theorem mirrors_of_recordOf {scope : Scope} {statement : Node} {record : Record}
    (mirrored : statement.Mirrored) (descends : scope.descend = .ok (scope.deeper 1))
    (returns : (statement.recordOf fun _ => statement.content (scope.deeper 1)).outcome =
      .ok record) :
    Mirrors scope statement record := by
  cases block : statement.isBlock with
  | true =>
      cases statement <;> cases block
      cases returns
      exact .plain rfl (by rintro ⟨⟩) rfl
  | false =>
      obtain ⟨kind, recorded⟩ := statement.outcome_recordOf (scope.deeper 1) block
      rw [recorded] at returns
      obtain ⟨rendered, content, recordEq⟩ := (bind_eq_ok_iff _ _ _).mp returns
      cases recordEq
      have shows : Record.Shows ⟨kind, rendered.text, rendered.nested⟩ scope statement :=
        fun _ => Node.renderText_eq_ok descends content
      have folds := mirrored scope rendered content
      cases compound : statement.isCompound with
      | true =>
          obtain ⟨lengths, each⟩ := List.forall₂_iff_zip.mp folds
          exact Mirrors.compound statement.folded compound shows statement.mem_met_iff
            statement.folded_apart lengths fun _ _ _ => each
      | false =>
          apply Mirrors.plain compound shows
          rw [Node.folded_eq block, Node.operands_eq_nil compound, below_nil,
            List.forall₂_nil_left_iff] at folds
          exact folds

theorem contents_mirrored {scope : Scope} {parts : List (Step × Node)} {values : List Rendered}
    (each : ∀ step child, (step, child) ∈ parts → child.Mirrored)
    (returns : (Node.contents (scope.deeper 1) parts).outcome = .ok values) :
    List.Forall₂ (fun place record => Mirrors (scope.deeper place.1.length) place.2 record)
      (below Node.folded parts) (values.flatMap Rendered.nested) := by
  induction parts generalizing values with
  | nil =>
      cases returns
      exact .nil
  | cons part rest ih =>
      rcases part with ⟨step, child⟩
      simp only [Node.contents, Analysis.outcome_bind, bind_eq_ok_iff] at returns
      obtain ⟨within, descends, first, content, others, contents, valuesEq⟩ := returns
      cases valuesEq
      obtain ⟨_, rfl⟩ := (Scope.descend_eq_ok_iff _ _).mp descends
      rw [below_cons, List.flatMap_cons]
      apply List.rel_append
      · -- The step to the child and the level it costs are counted together.
        rw [List.forall₂_map_left_iff]
        have folds := each step child List.mem_cons_self _ _ content
        simpa only [Scope.deeper_deeper, List.length_cons, Nat.add_comm] using folds
      · exact ih (fun other node member => each other node (List.mem_cons_of_mem _ member)) contents

theorem records_mirrored {scope : Scope} {statements : List Node} {records : List Record}
    (each : ∀ statement ∈ statements, statement.Mirrored)
    (returns : (Node.records scope statements).outcome = .ok records) :
    List.Forall₂ (Mirrors scope) statements records := by
  induction statements generalizing records with
  | nil =>
      cases returns
      exact .nil
  | cons statement rest ih =>
      simp only [Node.records, Analysis.outcome_bind, bind_eq_ok_iff] at returns
      obtain ⟨within, descends, record, recorded, others, recordedRest, recordsEq⟩ := returns
      cases recordsEq
      obtain ⟨_, rfl⟩ := (Scope.descend_eq_ok_iff _ _).mp descends
      apply List.Forall₂.cons
      · exact mirrors_of_recordOf (each statement List.mem_cons_self) descends recorded
      · exact ih (fun other member => each other (List.mem_cons_of_mem _ member)) recordedRest

theorem forall₂_toEach {step : Nat → Step} {related : Node → Record → Prop}
    {statements : List Node} {records : List Record}
    (all : List.Forall₂ related statements records) (start : Nat) :
    List.Forall₂ (fun part record => related part.2 record) (Step.toEach step statements start)
      records := by
  induction all generalizing start with
  | nil => exact .nil
  | cons first _ ih => exact .cons first (ih (start + 1))

/-- Rendering any node folds its statements into it. -/
theorem Node.mirrored (node : Node) : node.Mirrored := by
  induction node using Node.operands_induction with
  | block statements ih =>
      intro scope rendered returns
      simp only [content, Analysis.outcome_bind, bind_eq_ok_iff] at returns
      obtain ⟨records, recorded, renderedEq⟩ := returns
      cases renderedEq
      rw [folded_block, List.forall₂_map_left_iff]
      exact forall₂_toEach (records_mirrored ih recorded) 0
  | expression node noBlock ih =>
      intro scope rendered returns
      obtain ⟨join, contentEq⟩ := node.content_eq noBlock
      rw [contentEq, Analysis.outcome_bind] at returns
      obtain ⟨values, contents, renderedEq⟩ := (bind_eq_ok_iff _ _ _).mp returns
      cases renderedEq
      rw [folded_eq noBlock]
      exact contents_mirrored ih contents

end ViewOutline
