import ViewOutline.Containment.Scan
import ViewOutline.Proofs.Analysis
import ViewOutline.Proofs.Containment.History
import ViewOutline.Proofs.Way

/-!
# The search for controls, part by part

Searching a node means taking in the control it builds, if it builds one, and
then searching its parts in the order in which they are written.  Only the
trailing lambda of a control lies inside it.
-/

namespace ViewOutline

/-- A harvest that takes in a control lists it last and counts it among its kind. -/
theorem Harvest.add_eq_ok {harvest next : Harvest} {control : Control} {parent : Option String}
    (added : harvest.add control parent = .ok next) :
    harvest.graph.add control parent = (next.graph, .ok ()) ∧
      next.controls = harvest.controls ++ [control] ∧
      next.ordinals =
        harvest.ordinals.insert control.kind (harvest.nextOrdinal control.kind) := by
  rw [add] at added
  split at added
  · rename_i graph accepted
    cases added
    exact ⟨accepted, rfl, rfl⟩
  · cases added

/-- The graph of a harvest records the control that is taken in. -/
theorem Harvest.of_add {harvest next : Harvest} {history : List Addition} {control : Control}
    {parent : Option String} (grown : harvest.graph.GrownBy history)
    (added : harvest.add control parent = .ok next) :
    next.controls = harvest.controls ++ [control] ∧
      next.graph.GrownBy (history ++ [⟨control, parent⟩]) := by
  rcases add_eq_ok added with ⟨accepted, controlsEq, _⟩
  refine ⟨controlsEq, ?_⟩
  rcases grown.add_cases control parent with
    ⟨_, refused⟩ | ⟨_, _, _, _, refused⟩ | ⟨_, _, graph, grows, graphGrown⟩
  · cases congrArg Prod.snd (refused.symm.trans accepted)
  · cases congrArg Prod.snd (refused.symm.trans accepted)
  · have same : graph = next.graph := congrArg Prod.fst (grows.symm.trans accepted)
    exact same ▸ graphGrown

/-- The call a node is, if it builds a widget. -/
def Node.widget? (vocabulary : Vocabulary) : Node → Option Call
  | .call invoked => if vocabulary.isWidget invoked.name then some invoked else none
  | _ => none

theorem Node.widget?_eq_some_iff (vocabulary : Vocabulary) (node : Node) (call : Call) :
    node.widget? vocabulary = some call ↔
      node = .call call ∧ vocabulary.isWidget call.name = true := by
  cases node with
  | call invoked =>
      simp only [widget?, Option.ite_none_right_eq_some, Option.some.injEq, Node.call.injEq]
      constructor
      · rintro ⟨widget, rfl⟩
        exact ⟨rfl, widget⟩
      · rintro ⟨rfl, widget⟩
        exact ⟨widget, rfl⟩
  | _ => simp [widget?]

/-- Collect the controls of parts in order, each with its own container. -/
def Node.scanParts (inside : Scope) (container : Step → Option String) :
    List (Step × Node) → Harvest → Except Failure Harvest
  | [], harvest => return harvest
  | (step, child) :: rest, harvest => do
      let harvest ← child.scan (← inside.descend) (container step) harvest
      Node.scanParts inside container rest harvest

/-- The container of the parts of a call that builds a control. -/
def Step.containerIn (parent : Option String) (uid : String) (step : Step) : Option String :=
  if step = .trailing then some uid else parent

theorem Node.scanParts_append (inside : Scope) (container : Step → Option String)
    (first second : List (Step × Node)) (harvest : Harvest) :
    Node.scanParts inside container (first ++ second) harvest =
      Node.scanParts inside container first harvest >>= fun next =>
        Node.scanParts inside container second next := by
  induction first generalizing harvest with
  | nil => rfl
  | cons part rest ih =>
      rcases part with ⟨step, child⟩
      simp only [List.cons_append, scanParts, bind_assoc, ih]

theorem Argument.scanAll_eq (inside : Scope) (parent : Option String)
    (container : Step → Option String) (beside : ∀ index, container (.argument index) = parent)
    (args : List Argument) (start : Nat) (harvest : Harvest) :
    Argument.scanAll inside parent args harvest =
      Node.scanParts inside container (Step.toEach .argument (args.map Argument.value) start)
        harvest := by
  induction args generalizing start harvest with
  | nil => rfl
  | cons argument rest ih =>
      rcases argument with ⟨value, name, spread⟩
      simp only [Argument.scanAll, List.map_cons, Step.toEach_cons, Node.scanParts, beside,
        ih (start + 1)]

theorem Node.scanAll_eq (inside : Scope) (parent : Option String) (statements : List Node)
    (start : Nat) (harvest : Harvest) :
    Node.scanAll inside parent statements harvest =
      Node.scanParts inside (fun _ => parent) (Step.toEach .statement statements start)
        harvest := by
  induction statements generalizing start harvest with
  | nil => rfl
  | cons statement rest ih =>
      simp only [Node.scanAll, Step.toEach_cons, Node.scanParts, ih (start + 1)]

theorem Lambda.scanOption_eq (inside : Scope) (container : Step → Option String)
    (trailing : Option Lambda) (harvest : Harvest) :
    Lambda.scanOption inside (container .trailing) trailing harvest =
      Node.scanParts inside container (trailing.map (Step.trailing, Node.lambda ·)).toList
        harvest := by
  cases trailing with
  | none => rfl
  | some closure =>
      simp only [Lambda.scanOption, Option.map_some, Option.toList_some, Node.scanParts,
        Node.scan, bind_pure]

theorem Node.scanOption_eq (inside : Scope) (container : Step → Option String) (step : Step)
    (expression : Option Node) (harvest : Harvest) :
    Node.scanOption inside (container step) expression harvest =
      Node.scanParts inside container (expression.map (step, ·)).toList harvest := by
  cases expression with
  | none => rfl
  | some node =>
      simp only [Node.scanOption, Option.map_some, Option.toList_some, Node.scanParts, bind_pure]

theorem PropertyDecl.scan_eq (inside : Scope) (parent : Option String) (decl : PropertyDecl)
    (harvest : Harvest) :
    decl.scan inside parent harvest =
      Node.scanParts inside (fun _ => parent) decl.parts harvest := by
  rcases decl with ⟨name, type, value, delegate, mutable, text⟩
  simp only [PropertyDecl.scan, PropertyDecl.parts, Node.scanParts_append,
    ← Node.scanOption_eq inside (fun _ => parent)]

/-- Searching a node, part by part. -/
theorem Node.scan_eq (inside : Scope) (parent : Option String) (node : Node)
    (harvest : Harvest) :
    node.scan inside parent harvest =
      match node.widget? inside.vocabulary with
      | some invoked => do
          let next ← harvest.add (invoked.control harvest) parent
          Node.scanParts inside (Step.containerIn parent (invoked.control harvest).uid)
            node.parts next
      | none => Node.scanParts inside (fun _ => parent) node.parts harvest := by
  cases node with
  | call invoked =>
      rcases invoked with ⟨name, args, trailing, typeArgs⟩
      by_cases widget : inside.vocabulary.isWidget name = true
      · simp only [scan, Call.scan, widget, widget?, parts, Call.parts, scanParts_append, if_true,
          ← Argument.scanAll_eq inside parent (Step.containerIn parent _) (fun _ => rfl),
          ← Lambda.scanOption_eq]
        rfl
      · simp only [scan, Call.scan, widget, widget?, parts, Call.parts, scanParts_append,
          ← Argument.scanAll_eq inside parent (fun _ => parent) (fun _ => rfl),
          ← Lambda.scanOption_eq inside (fun _ => parent)]
        rfl
  | binary left operator right => simp only [scan, widget?, parts, scanParts, bind_pure]
  | lambda closure =>
      rcases closure with ⟨params, body⟩
      simp only [scan, Lambda.scan, widget?, parts, scanParts, bind_pure]
  | block statements =>
      simp only [scan, widget?, parts]
      exact scanAll_eq inside parent statements 0 harvest
  | property decl =>
      simp only [scan, widget?, parts]
      exact decl.scan_eq inside parent harvest
  | _ => rfl

/-! ## The members of a class -/

/-- The expressions in which the search of a member starts. -/
def Node.entries : Node → List (Step × Node)
  | .property decl => decl.parts
  | .function decl => (decl.body.map (Step.body, ·)).toList
  | .initializer statements => [(.body, .block statements)]
  | _ => []

theorem Node.scanMember_eq (scope : Scope) (member : Node) (harvest : Harvest) :
    member.scanMember scope harvest =
      Node.scanParts scope (fun _ => none) member.entries harvest := by
  cases member with
  | property decl =>
      simp only [scanMember, entries, PropertyDecl.parts, scanParts_append,
        ← scanOption_eq scope (fun _ => none)]
  | function decl =>
      exact scanOption_eq scope (fun _ => none) .body decl.body harvest
  | initializer statements =>
      exact scanOption_eq scope (fun _ => none) .body (some (.block statements)) harvest
  | _ => rfl

/-- What is found in a class is what the search of its members finds. -/
theorem Node.findControls_eq_ok_iff (scope : Scope) (members : List Node) (harvest : Harvest) :
    (Node.findControls scope members).outcome = .ok harvest ↔
      Node.scanMembers scope members .empty = .ok harvest := by
  simp only [findControls, Analysis.outcome_bind, Analysis.outcome_lift, bind_eq_ok_iff]
  constructor
  · rintro ⟨found, scanned, _, _, returned⟩
    cases returned
    exact scanned
  · intro scanned
    exact ⟨harvest, scanned, (), rfl, rfl⟩

end ViewOutline
