import ViewOutline.Analysis
import ViewOutline.SyntaxTree

/-!
# Statement records

The body of a method becomes an ordered list of records, one per statement.  A
record has a kind, a one-line text, and the records of the statements of every
lambda that was folded into the text.

Every node costs one level of nesting, and the body of a lambda one more.  The
content of a node is computed one level inside it, so that rendering a node and
recording it differ only in what they do with its content.
-/

namespace ViewOutline

/-- What kind of statement a record stands for. -/
inductive RecordKind where
  | declaration
  | binaryOperation
  | call
  | literal
  | unclassified
  deriving DecidableEq

/-- The name of a record kind. -/
def RecordKind.name : RecordKind → String
  | .declaration => "declaration"
  | .binaryOperation => "binary_operation"
  | .call => "call"
  | .literal => "literal"
  | .unclassified => "unclassified"

/-- One statement: its kind, its text, and the records of the lambda bodies
folded into the text, in source order. -/
structure Record where
  kind : RecordKind
  text : String
  nested : List Record

/-- A rendered expression: its text and the records folded into it. -/
structure Rendered where
  text : String
  nested : List Record

/-- The text that stands for a shape of which nothing is known. -/
def unknownText : String :=
  "<unknown>"

/-- Whether an operator is written without spaces around it. -/
def isAccessOperator (operator : String) : Bool :=
  operator == "." || operator == "?." || operator == "::"

/-- Two operands joined by an operator. -/
def joinOperands (left operator right : String) : String :=
  if isAccessOperator operator then left ++ operator ++ right
  else left ++ " " ++ operator ++ " " ++ right

/-- A lambda or block in braces: its parameters, then the texts of its
statements. -/
def braced (params : List String) (records : List Record) : String :=
  let head := if params.isEmpty then "" else ", ".intercalate params ++ " ->"
  let body := "; ".intercalate (records.map Record.text)
  let inner := " ".intercalate ([head, body].filter (· ≠ ""))
  if inner = "" then "\x7b \x7d" else "\x7b " ++ inner ++ " \x7d"

/-- The text of a statement that is not analysed further. -/
def Node.fallbackText : Node → String
  | .unknown text _ => (Text.given text).getD unknownText
  | .function decl => (Text.given decl.text).getD s!"fun {decl.name}()"
  | .structured decl => (Text.given decl.text).getD s!"{decl.form} {decl.name}"
  | .initializer _ => "init"
  | _ => unknownText

/-- The kind of record a statement gives, for the shapes that are analysed. -/
def Node.recordKind? : Node → Option RecordKind
  | .property _ => some .declaration
  | .binary .. => some .binaryOperation
  | .call _ => some .call
  | .literal .. => some .literal
  | .name _ => some .literal
  | .reference .. => some .literal
  | .lambda _ => some .unclassified
  | _ => none

/-- The record of a statement with the given content.  A shape that is not
analysed is noted, and its content is not asked for. -/
def Node.recordOf (node : Node) (content : Unit → Analysis Rendered) : Analysis Record :=
  match node.recordKind? with
  | some kind => do
      let rendered ← content ()
      return ⟨kind, rendered.text, rendered.nested⟩
  | none => do
      Analysis.degrade "statement" node.fallbackText
      return ⟨.unclassified, node.fallbackText, []⟩

/-- The text of an argument with the given value. -/
def argumentText (name : Option String) (spread : Bool) (value : String) : String :=
  let starred := if spread then "*" ++ value else value
  match Text.given name with
  | some name => name ++ " = " ++ starred
  | none => starred

/-- The head of a call: its name, its type arguments, and its arguments in
parentheses, which are left out if there are none and a lambda follows. -/
def callHead (name : String) (typeArgs : Option String) (arguments : List String)
    (hasTrailing : Bool) : String :=
  let head := name ++ typeArgs.getD ""
  if arguments.isEmpty && hasTrailing then head
  else head ++ "(" ++ ", ".intercalate arguments ++ ")"

mutual

/-- The content of a node, seen from one level inside it. -/
def Node.content (inside : Scope) : Node → Analysis Rendered
  | .property decl => decl.content inside
  | .binary left operator right => do
      let left ← left.content (← inside.descend)
      let right ← right.content (← inside.descend)
      return ⟨joinOperands left.text operator right.text, left.nested ++ right.nested⟩
  | .call call => call.content inside
  | .lambda lambda => lambda.content inside
  | .block statements => do
      let records ← Node.records inside statements
      return ⟨braced [] records, records⟩
  | .name name => return ⟨name, []⟩
  | .literal value _ => return ⟨value, []⟩
  | .reference name receiver => return ⟨receiver.getD "" ++ "::" ++ name, []⟩
  | node => return ⟨node.fallbackText, []⟩

/-- The content of a declaration: its initial value, else its delegate, else
its type. -/
def PropertyDecl.content (inside : Scope) : PropertyDecl → Analysis Rendered
  | ⟨name, _, some value, _, _, _⟩ => do
      let value ← value.content (← inside.descend)
      return ⟨name ++ " = " ++ value.text, value.nested⟩
  | ⟨name, _, none, some delegate, _, _⟩ => do
      let delegate ← delegate.content (← inside.descend)
      return ⟨name ++ " by " ++ delegate.text, delegate.nested⟩
  | ⟨name, type, none, none, _, _⟩ =>
      match Text.given type with
      | some type => return ⟨name ++ ": " ++ type, []⟩
      | none => return ⟨name, []⟩

/-- The content of a call: its arguments in order, then its trailing lambda. -/
def Call.content (inside : Scope) : Call → Analysis Rendered
  | ⟨name, args, none, typeArgs⟩ => do
      let args ← Argument.contents inside args
      return ⟨callHead name typeArgs (args.map Rendered.text) false,
        args.flatMap Rendered.nested⟩
  | ⟨name, args, some trailing, typeArgs⟩ => do
      let args ← Argument.contents inside args
      let trailing ← trailing.content (← inside.descend)
      return ⟨callHead name typeArgs (args.map Rendered.text) true ++ " " ++ trailing.text,
        args.flatMap Rendered.nested ++ trailing.nested⟩

/-- The rendered arguments of a call, in order. -/
def Argument.contents (inside : Scope) : List Argument → Analysis (List Rendered)
  | [] => return []
  | ⟨value, name, spread⟩ :: rest => do
      let value ← value.content (← inside.descend)
      let rest ← Argument.contents inside rest
      return ⟨argumentText name spread value.text, value.nested⟩ :: rest

/-- The content of a lambda: its body is one level further in. -/
def Lambda.content (inside : Scope) : Lambda → Analysis Rendered
  | ⟨params, body⟩ => do
      let records ← Node.records (← inside.descend) body
      return ⟨braced params records, records⟩

/-- The records of the statements of a block, seen from inside the block. -/
def Node.records (inside : Scope) : List Node → Analysis (List Record)
  | [] => return []
  | statement :: rest => do
      let within ← inside.descend
      let record ← statement.recordOf fun _ => statement.content within
      let rest ← Node.records inside rest
      return record :: rest

end

/-- Render an expression. -/
def Node.render (scope : Scope) (node : Node) : Analysis Rendered := do
  node.content (← scope.descend)

/-- Record a statement. -/
def Node.record (scope : Scope) (statement : Node) : Analysis Record := do
  let within ← scope.descend
  statement.recordOf fun _ => statement.content within

/-- Record the statements of a block in order. -/
def Node.blockRecords (scope : Scope) (statements : List Node) : Analysis (List Record) := do
  Node.records (← scope.descend) statements

/-- The one-line text of an expression; a missing expression has none. -/
def Node.renderText (scope : Scope) : Option Node → Analysis String
  | none => return ""
  | some node => return (← node.render scope).text

/-- The one-line text of a declaration. -/
def PropertyDecl.renderText (scope : Scope) (decl : PropertyDecl) : Analysis String := do
  return (← decl.content (← scope.descend)).text

/-- How the body of a method is written. -/
inductive MethodShape where
  | block
  | expression
  | reference
  deriving DecidableEq

/-- The name of a method shape. -/
def MethodShape.name : MethodShape → String
  | .block => "block"
  | .expression => "expression"
  | .reference => "reference"

/-- The shape of a method body.  A missing body counts as a reference. -/
def MethodShape.ofBody : Option Node → MethodShape
  | none => .reference
  | some (.reference ..) => .reference
  | some (.block _) => .block
  | some _ => .expression

/-- The records of a method body, in source order. -/
def Node.bodyRecords (scope : Scope) : Option Node → Analysis (List Record)
  | none => return []
  | some (.reference ..) => return []
  | some (.block statements) => Node.blockRecords scope statements
  | some expression => return [← expression.record scope]

end ViewOutline
