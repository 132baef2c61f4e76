import ViewOutline.FileOutline
import ViewOutline.Proofs.Class.Handler

/-!
# Analyses as traversals

An analysis goes through a syntax tree step by step.  All that it learns about
its scope is whether there is room to go one level further in, and what the
vocabulary says about names; the height of the ceiling itself is never asked for.
This is said once for every analysis, following its recursion, and what holds of
all traversals is then proved by going through the kinds of steps.
-/

namespace ViewOutline

variable {α β : Type}

/-- Whether an event is about one file that is outlined. -/
def Event.isRemark : Event → Bool
  | .degraded _ => true
  | .outlinedClass .. => true
  | .foundControls .. => true
  | .unknownDialect _ => true
  | .skippedDeclaration _ => true
  | .outlinedFile .. => true
  | _ => false

/-- An analysis that is put together from steps. -/
inductive Traversal : {α : Type} → (Scope → Analysis α) → Prop
  /-- An outcome that is known. -/
  | lift {α : Type} (outcome : Except Failure α) :
      Traversal fun _ => (liftM outcome : Analysis α)
  /-- A remark that is no note. -/
  | log {event : Event} (noNote : event.note? = none) (remark : event.isRemark = true) :
      Traversal fun _ => Analysis.log event
  /-- A note. -/
  | degrade (subject detail : String) : Traversal fun _ => Analysis.degrade subject detail
  /-- One step after another. -/
  | bind {α β : Type} {first : Scope → Analysis α} {next : α → Scope → Analysis β} :
      Traversal first → (∀ value, Traversal (next value)) →
        Traversal fun scope => first scope >>= fun value => next value scope
  /-- A step further in. -/
  | descend {α : Type} {body : Scope → Analysis α} :
      Traversal body → Traversal fun scope => (liftM scope.descend : Analysis Scope) >>= body
  /-- A question to the vocabulary that is not about its ceiling. -/
  | consult {α β : Type} (question : Vocabulary → β) (next : β → Scope → Analysis α) :
      (∀ vocabulary ceiling, question { vocabulary with ceiling } = question vocabulary) →
      (∀ answer, Traversal (next answer)) →
        Traversal fun scope => next (question scope.vocabulary) scope

namespace Traversal

theorem pure (value : α) : Traversal fun _ => (Pure.pure value : Analysis α) :=
  lift (.ok value)

theorem fail (failure : Failure) : Traversal fun _ => (Analysis.fail failure : Analysis α) :=
  lift (.error failure)

theorem ite {condition : Prop} [Decidable condition] {first second : Scope → Analysis α}
    (yes : Traversal first) (no : Traversal second) :
    Traversal fun scope => if condition then first scope else second scope := by
  by_cases holds : condition
  · simpa only [holds, if_true] using yes
  · simpa only [holds, if_false] using no

theorem map {analysis : Scope → Analysis α} (traversal : Traversal analysis) (work : α → β) :
    Traversal fun scope => work <$> analysis scope := by
  simp only [map_eq_pure_bind]
  exact traversal.bind fun value => pure (work value)

/-- A step further in, and what follows outside. -/
theorem descendThen {body : Scope → Analysis α} {next : α → Scope → Analysis β}
    (traversal : Traversal body) (rest : ∀ value, Traversal (next value)) :
    Traversal fun scope => (do
      let within ← scope.descend
      let value ← body within
      next value scope) := by
  have inTurn := traversal.descend.bind rest
  simpa only [bind_assoc] using inTurn

end Traversal

/-! ## Texts and records -/

theorem Node.recordOf_traversal (statement : Node) {content : Scope → Analysis Rendered}
    (traversal : Traversal content) :
    Traversal fun inside => statement.recordOf fun _ => content inside := by
  cases kind : statement.recordKind? with
  | some kind =>
      simp only [recordOf, kind]
      exact traversal.bind fun rendered => .pure _
  | none =>
      simp only [recordOf, kind]
      exact (Traversal.degrade _ _).bind fun _ => .pure _

theorem Node.records_traversal {statements : List Node}
    (each : ∀ statement ∈ statements, Traversal fun inside => statement.content inside) :
    Traversal fun inside => Node.records inside statements := by
  induction statements with
  | nil => exact .pure []
  | cons statement rest ih =>
      have first := statement.recordOf_traversal (each statement List.mem_cons_self)
      have others := ih fun other member => each other (List.mem_cons_of_mem _ member)
      simp only [records]
      exact first.descendThen fun record => others.bind fun records => .pure (record :: records)

theorem Node.contents_traversal {parts : List (Step × Node)}
    (each : ∀ step child, (step, child) ∈ parts → Traversal fun inside => child.content inside) :
    Traversal fun inside => Node.contents inside parts := by
  induction parts with
  | nil => exact .pure []
  | cons part rest ih =>
      rcases part with ⟨step, child⟩
      have first := each step child List.mem_cons_self
      have others := ih fun other node member => each other node (List.mem_cons_of_mem _ member)
      simp only [contents]
      exact first.descendThen fun value => others.bind fun values => .pure (value :: values)

theorem Node.content_traversal (node : Node) : Traversal fun inside => node.content inside := by
  induction node using Node.operands_induction with
  | block statements ih =>
      simp only [content]
      exact (records_traversal ih).bind fun records => .pure _
  | expression node noBlock ih =>
      obtain ⟨join, contentEq⟩ := node.content_eq noBlock
      simp only [contentEq]
      exact (contents_traversal ih).bind fun parts => .pure _

theorem Node.render_traversal (node : Node) : Traversal fun scope => node.render scope :=
  node.content_traversal.descend

theorem Node.renderText_traversal (expression : Option Node) :
    Traversal fun scope => Node.renderText scope expression := by
  cases expression with
  | none => exact .pure ""
  | some node => exact node.render_traversal.bind fun rendered => .pure rendered.text

theorem PropertyDecl.renderText_traversal (decl : PropertyDecl) :
    Traversal fun scope => decl.renderText scope :=
  (Node.property decl).content_traversal.descendThen fun rendered => .pure rendered.text

theorem Node.record_traversal (statement : Node) :
    Traversal fun scope => statement.record scope :=
  (statement.recordOf_traversal statement.content_traversal).descend

theorem Node.blockRecords_traversal (statements : List Node) :
    Traversal fun scope => Node.blockRecords scope statements :=
  (records_traversal fun statement _ => statement.content_traversal).descend

theorem Node.bodyRecords_traversal (body : Option Node) :
    Traversal fun scope => Node.bodyRecords scope body := by
  cases body with
  | none => exact .pure []
  | some body =>
      cases body with
      | reference _ _ => exact .pure []
      | block statements => exact blockRecords_traversal statements
      | _ => exact (record_traversal _).bind fun record => .pure [record]

/-! ## Outlines -/

theorem PropertyDecl.settle_traversal (decl : PropertyDecl) (summary : String)
    (found : Option (PropertyKind × Option String)) :
    Traversal fun _ => decl.settle summary found := by
  cases found with
  | some found => exact .pure _
  | none => exact (Traversal.degrade _ _).bind fun _ => .pure _

/-- A value or delegate is rendered and then classified by the vocabulary. -/
theorem PropertyDecl.settled_traversal (decl : PropertyDecl) (value : Node)
    (summary : String → String) (found : Vocabulary → Option (PropertyKind × Option String))
    (unlimited : ∀ vocabulary ceiling, found { vocabulary with ceiling } = found vocabulary) :
    Traversal fun scope => (do
      let rendered ← value.render scope
      decl.settle (summary rendered.text) (found scope.vocabulary)) :=
  .consult found (fun answer scope => value.render scope >>= fun rendered =>
    decl.settle (summary rendered.text) answer) unlimited fun answer =>
      value.render_traversal.bind fun _ => decl.settle_traversal _ answer

theorem PropertyDecl.classify_traversal (decl : PropertyDecl) :
    Traversal fun scope => decl.classify scope := by
  apply Traversal.ite (.fail .namelessProperty)
  cases decl.initializer with
  | some value =>
      exact decl.settled_traversal value id value.classifyValue? fun _ _ => rfl
  | none =>
      cases decl.delegate with
      | some delegate =>
          exact decl.settled_traversal delegate ("by " ++ ·) delegate.classifyDelegate?
            fun _ _ => rfl
      | none =>
          cases Text.given decl.type with
          | some type => exact .ite (.pure _) (.pure _)
          | none => exact (Traversal.degrade _ _).bind fun _ => .pure _

theorem Node.referenceText?_traversal (body : Option Node) :
    Traversal fun scope => Node.referenceText? scope body := by
  cases body with
  | none => exact .pure none
  | some body =>
      cases body with
      | reference _ _ =>
          exact (render_traversal _).bind fun rendered => .pure (some rendered.text)
      | _ => exact .pure none

theorem FunctionDecl.outline_traversal (decl : FunctionDecl) :
    Traversal fun scope => decl.outline scope := by
  apply Traversal.ite (.fail .namelessFunction)
  exact (Node.referenceText?_traversal decl.body).bind fun reference =>
    (Node.bodyRecords_traversal decl.body).bind fun statements => .pure _

theorem Node.outlineMember_traversal (className : String) (member : Node) :
    Traversal fun scope => member.outlineMember scope className := by
  cases member with
  | property decl =>
      simp only [outlineMember_property]
      apply Traversal.ite
      · exact (Traversal.degrade _ _).bind fun _ => .pure _
      · exact decl.classify_traversal.bind fun property => .pure (MemberOutline.property property)
  | function decl =>
      simp only [outlineMember_function]
      apply Traversal.ite
      · exact (Traversal.degrade _ _).bind fun _ => .pure _
      · exact decl.outline_traversal.bind fun method => .pure (MemberOutline.method method)
  | initializer statements =>
      exact (blockRecords_traversal statements).bind fun records => .pure _
  | structured decl => exact .pure _
  | _ => exact (Traversal.degrade _ _).bind fun _ => .pure _

theorem Node.outlineMembers_traversal (className : String) (members : List Node) :
    Traversal fun scope => Node.outlineMembers scope className members := by
  induction members with
  | nil => exact .pure []
  | cons member rest ih =>
      exact (member.outlineMember_traversal className).bind fun first =>
        ih.bind fun others => .pure (first :: others)

theorem StructuredDecl.outline_traversal (decl : StructuredDecl) (className : Option String) :
    Traversal fun scope => decl.outline scope className := by
  apply Traversal.ite (.fail .namelessClass)
  exact (Node.outlineMembers_traversal _ decl.members).bind fun members =>
    (Traversal.log rfl rfl).bind fun _ => .pure _

/-! ## The search for controls -/

theorem Analysis.lift_bind (first : Except Failure α) (next : α → Except Failure β) :
    (liftM (first >>= next) : Analysis β) =
      (liftM first : Analysis α) >>= fun value => (liftM (next value) : Analysis β) := by
  cases first with
  | error failure => rfl
  | ok value => rfl

/-- A search is a traversal, whatever was found before. -/
def SearchTraversal (search : Scope → Harvest → Except Failure Harvest) : Prop :=
  ∀ harvest, Traversal fun scope => (liftM (search scope harvest) : Analysis Harvest)

theorem Node.scanParts_traversal {parts : List (Step × Node)}
    (each : ∀ step child, (step, child) ∈ parts →
      ∀ parent, SearchTraversal fun inside harvest => child.scan inside parent harvest)
    (container : Step → Option String) :
    SearchTraversal fun inside harvest => Node.scanParts inside container parts harvest := by
  induction parts with
  | nil => exact fun harvest => .pure harvest
  | cons part rest ih =>
      rcases part with ⟨step, child⟩
      have others := ih fun other node member => each other node (List.mem_cons_of_mem _ member)
      intro harvest
      simp only [scanParts, Analysis.lift_bind]
      exact (each step child List.mem_cons_self _ harvest).descendThen others

/-- Search a node that builds a control, or none. -/
def Node.scanWith (inside : Scope) (parent : Option String) (harvest : Harvest) (node : Node) :
    Option Call → Except Failure Harvest
  | some invoked => do
      let next ← harvest.add (invoked.control harvest) parent
      Node.scanParts inside (Step.containerIn parent (invoked.control harvest).uid) node.parts next
  | none => Node.scanParts inside (fun _ => parent) node.parts harvest

theorem Node.scan_traversal (node : Node) :
    ∀ parent, SearchTraversal fun inside harvest => node.scan inside parent harvest := by
  induction node using Node.parts_induction with
  | step node ih =>
      intro parent harvest
      -- Which control the node builds is found in the vocabulary.
      have consults := Traversal.consult (fun vocabulary => node.widget? vocabulary)
        (fun answer inside =>
          (liftM (node.scanWith inside parent harvest answer) : Analysis Harvest))
        fun _ _ => by cases node <;> rfl
      simp only [scan_eq]
      apply consults
      intro answer
      cases answer with
      | none => exact scanParts_traversal ih _ harvest
      | some invoked =>
          simp only [scanWith, Analysis.lift_bind]
          exact (Traversal.lift _).bind (scanParts_traversal ih _)

theorem Node.scanMembers_traversal (members : List Node) :
    SearchTraversal fun scope harvest => Node.scanMembers scope members harvest := by
  induction members with
  | nil => exact fun harvest => .pure harvest
  | cons member rest ih =>
      intro harvest
      simp only [scanMembers, scanMember_eq, Analysis.lift_bind]
      exact (scanParts_traversal (fun _ child _ => child.scan_traversal) _ harvest).bind ih

theorem Node.findControls_traversal (members : List Node) :
    Traversal fun scope => Node.findControls scope members :=
  (scanMembers_traversal members .empty).bind fun harvest =>
    (Traversal.log rfl rfl).bind fun _ => .pure harvest

/-! ## Files -/

end ViewOutline
