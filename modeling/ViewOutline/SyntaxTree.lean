/-!
# The syntax tree

A front-end turns the source text of one language into these nodes, and the
analysis sees nothing else.  Whatever a front-end cannot express arrives as an
unknown node that carries its source text.

Texts that may be missing are optional, and an empty text counts as missing
wherever the analysis asks whether there is one.
-/

namespace ViewOutline

/-- What a literal denotes. -/
inductive LiteralKind where
  | int
  | double
  | string
  | boolean
  | char
  | null
  | collection
  /-- A kind outside the documented ones. -/
  | other (name : String)
  deriving DecidableEq

/-- The documented literal kinds. -/
def LiteralKind.documented : List LiteralKind :=
  [.int, .double, .string, .boolean, .char, .null, .collection]

mutual

/-- A node of the syntax tree. -/
inductive Node where
  /-- One source file. -/
  | file (file : SourceFile)
  /-- A class, interface, enumeration or object. -/
  | structured (decl : StructuredDecl)
  /-- A property of a class, or a local variable. -/
  | property (decl : PropertyDecl)
  /-- A function. -/
  | function (decl : FunctionDecl)
  /-- The statements run when an object is made. -/
  | initializer (statements : List Node)
  /-- A sequence of statements. -/
  | block (statements : List Node)
  /-- A lambda expression. -/
  | lambda (lambda : Lambda)
  /-- A call of a simple name. -/
  | call (call : Call)
  /-- Two operands and what is written between them, member access included. -/
  | binary (left : Node) (operator : String) (right : Node)
  /-- A name. -/
  | name (name : String)
  /-- A literal as it is written, a string with its quotation marks. -/
  | literal (value : String) (kind : LiteralKind)
  /-- A reference to a function or property. -/
  | reference (name : String) (receiver : Option String)
  /-- Anything else. -/
  | unknown (text : Option String) (kind : Option String)

/-- The root of a file: its declarations, package, imports and path. -/
structure SourceFile where
  decls : List Node
  package : Option String
  imports : List String
  path : Option String

/-- A declaration with members.  The form is the word that introduces it, such
as `class` or `companion object`. -/
structure StructuredDecl where
  name : String
  form : String
  supertypes : List String
  members : List Node
  text : Option String

/-- A property with its declared type, initial value and delegate. -/
structure PropertyDecl where
  name : String
  type : Option String
  initializer : Option Node
  delegate : Option Node
  mutable : Bool
  text : Option String

/-- A function.  Its body is a block, another expression, or missing. -/
structure FunctionDecl where
  name : String
  params : List Param
  returnType : Option String
  body : Option Node
  text : Option String

/-- A declared parameter. -/
structure Param where
  name : String
  type : Option String
  default : Option Node

/-- A lambda: the names of its parameters and the statements of its body. -/
structure Lambda where
  params : List String
  body : List Node

/-- A call with its arguments in parentheses, the lambda written after them,
and the type arguments as they are written. -/
structure Call where
  name : String
  args : List Argument
  trailing : Option Lambda
  typeArgs : Option String

/-- A value passed in a call. -/
structure Argument where
  value : Node
  name : Option String
  spread : Bool

end

instance : Inhabited Node :=
  ⟨.unknown none none⟩

instance : Inhabited SourceFile :=
  ⟨⟨[], none, [], none⟩⟩

instance : Inhabited Param :=
  ⟨⟨"", none, none⟩⟩

instance : Inhabited Lambda :=
  ⟨⟨[], []⟩⟩

instance : Inhabited Argument :=
  ⟨⟨default, none, false⟩⟩

/-- The name of a node's shape, as notes and messages give it. -/
def Node.shapeName : Node → String
  | .file _ => "SourceFile"
  | .structured _ => "StructuredDecl"
  | .property _ => "PropertyDecl"
  | .function _ => "FuncDecl"
  | .initializer _ => "InitBlock"
  | .block _ => "Block"
  | .lambda _ => "Lambda"
  | .call _ => "Call"
  | .binary .. => "BinaryOp"
  | .name _ => "NameRef"
  | .literal .. => "Literal"
  | .reference .. => "CallableRef"
  | .unknown .. => "Unknown"

/-- The form of a companion object. -/
def StructuredDecl.companionForm : String :=
  "companion object"

/-- The call an access chain ends in: the last right operand along `.` and
`?.`, if it is a call. -/
def Node.tailCall? : Node → Option Call
  | .call ending => some ending
  | .binary _ operator right =>
      if operator = "." ∨ operator = "?." then right.tailCall? else none
  | _ => none

end ViewOutline
