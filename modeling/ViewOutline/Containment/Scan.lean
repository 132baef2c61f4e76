import ViewOutline.Analysis
import ViewOutline.Containment.Graph
import ViewOutline.SyntaxTree

/-!
# Finding the controls of a class

A call of a widget name builds a control.  What is written in the trailing
lambda of such a call lies inside the control, however many other calls,
operators, blocks or local declarations stand in between; what is written in
its parentheses does not.  Structures declared inside a class are not searched.

Every node costs one level of nesting, and the body of a lambda one more.
-/

namespace ViewOutline

/-- The controls found so far, in the order of discovery, the last ordinal of each
kind, and their graph. -/
structure Harvest where
  controls : List Control
  ordinals : Table Nat
  graph : Containment

namespace Harvest

/-- Nothing found yet. -/
def empty : Harvest :=
  ⟨[], .empty, .empty⟩

/-- The ordinal of the next control of a kind. -/
def nextOrdinal (harvest : Harvest) (kind : String) : Nat :=
  (harvest.ordinals.find? kind).getD 0 + 1

/-- The identifier of the next control of a kind: the kind and its ordinal. -/
def nextUid (harvest : Harvest) (kind : String) : String :=
  s!"{kind}#{harvest.nextOrdinal kind}"

/-- Take in a control, with the next ordinal of its kind. -/
def add (harvest : Harvest) (control : Control) (parent : Option String) :
    Except Failure Harvest :=
  match harvest.graph.add control parent with
  | (graph, .ok ()) => .ok {
      controls := harvest.controls ++ [control]
      ordinals := harvest.ordinals.insert control.kind (harvest.nextOrdinal control.kind)
      graph }
  | (_, .error error) => .error (.containment error)

end Harvest

/-- The content of a string literal passed without a name. -/
def Argument.label? (argument : Argument) : Option String :=
  match argument.name, argument.value with
  | none, .literal value .string =>
      some (String.ofList (Text.trim (· == '"') value.toList))
  | _, _ => none

/-- The label of a control: its first unnamed string literal, or the name of
the call. -/
def Call.label (call : Call) : String :=
  (call.args.findSome? Argument.label?).getD call.name

/-- The control a call builds. -/
def Call.control (call : Call) (harvest : Harvest) : Control :=
  ⟨harvest.nextUid call.name, call.name, call.label⟩

mutual

/-- Collect the controls below a node, seen from one level inside it. -/
def Node.scan (inside : Scope) (parent : Option String) :
    Node → Harvest → Except Failure Harvest
  | .call call, harvest => call.scan inside parent harvest
  | .binary left _ right, harvest => do
      let harvest ← left.scan (← inside.descend) parent harvest
      right.scan (← inside.descend) parent harvest
  | .lambda lambda, harvest => lambda.scan inside parent harvest
  | .block statements, harvest => Node.scanAll inside parent statements harvest
  | .property decl, harvest => decl.scan inside parent harvest
  | _, harvest => .ok harvest

/-- Collect the controls of a declaration: its initial value, then its
delegate. -/
def PropertyDecl.scan (inside : Scope) (parent : Option String) :
    PropertyDecl → Harvest → Except Failure Harvest
  | ⟨_, _, value, delegate, _, _⟩, harvest => do
      let harvest ← Node.scanOption inside parent value harvest
      Node.scanOption inside parent delegate harvest

/-- Collect the controls of an expression that may be missing. -/
def Node.scanOption (scope : Scope) (parent : Option String) :
    Option Node → Harvest → Except Failure Harvest
  | none, harvest => .ok harvest
  | some node, harvest => do node.scan (← scope.descend) parent harvest

/-- Collect the controls of a call: the control it builds, then those of its
arguments beside it, then those of its trailing lambda inside it. -/
def Call.scan (inside : Scope) (parent : Option String) :
    Call → Harvest → Except Failure Harvest
  | ⟨name, args, trailing, typeArgs⟩, harvest => do
      if inside.vocabulary.isWidget name then
        let control := Call.control ⟨name, args, trailing, typeArgs⟩ harvest
        let harvest ← harvest.add control parent
        let harvest ← Argument.scanAll inside parent args harvest
        Lambda.scanOption inside (some control.uid) trailing harvest
      else
        let harvest ← Argument.scanAll inside parent args harvest
        Lambda.scanOption inside parent trailing harvest

/-- Collect the controls of the arguments of a call, in order. -/
def Argument.scanAll (inside : Scope) (parent : Option String) :
    List Argument → Harvest → Except Failure Harvest
  | [], harvest => .ok harvest
  | ⟨value, _, _⟩ :: rest, harvest => do
      let harvest ← value.scan (← inside.descend) parent harvest
      Argument.scanAll inside parent rest harvest

/-- Collect the controls of a trailing lambda, if there is one. -/
def Lambda.scanOption (inside : Scope) (parent : Option String) :
    Option Lambda → Harvest → Except Failure Harvest
  | none, harvest => .ok harvest
  | some lambda, harvest => do lambda.scan (← inside.descend) parent harvest

/-- Collect the controls of the body of a lambda, one level further in. -/
def Lambda.scan (inside : Scope) (parent : Option String) :
    Lambda → Harvest → Except Failure Harvest
  | ⟨_, body⟩, harvest => do Node.scanAll (← inside.descend) parent body harvest

/-- Collect the controls of the statements of a block, in order. -/
def Node.scanAll (inside : Scope) (parent : Option String) :
    List Node → Harvest → Except Failure Harvest
  | [], harvest => .ok harvest
  | statement :: rest, harvest => do
      let harvest ← statement.scan (← inside.descend) parent harvest
      Node.scanAll inside parent rest harvest

end

/-- Collect the controls of one member of a class. -/
def Node.scanMember (scope : Scope) (member : Node) (harvest : Harvest) :
    Except Failure Harvest :=
  match member with
  | .property decl => do
      let harvest ← Node.scanOption scope none decl.initializer harvest
      Node.scanOption scope none decl.delegate harvest
  | .function decl => Node.scanOption scope none decl.body harvest
  | .initializer statements => Node.scanOption scope none (some (.block statements)) harvest
  | _ => .ok harvest

/-- Collect the controls of the members of a class, in order. -/
def Node.scanMembers (scope : Scope) : List Node → Harvest → Except Failure Harvest
  | [], harvest => .ok harvest
  | member :: rest, harvest => do
      let harvest ← member.scanMember scope harvest
      Node.scanMembers scope rest harvest

/-- Find the controls of a class and how they contain each other. -/
def Node.findControls (scope : Scope) (members : List Node) : Analysis Harvest := do
  let harvest ← Node.scanMembers scope members .empty
  Analysis.log (.foundControls harvest.controls.length harvest.graph.roots.length)
  return harvest

end ViewOutline
