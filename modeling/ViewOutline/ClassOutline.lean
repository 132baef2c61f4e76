import ViewOutline.Property

/-!
# Class outlines

The outline of a class lists its supertypes, its properties, its methods with
their statements, and markers of the structures declared inside it.  Every
member goes to exactly one of these lists.  A member that is malformed is noted
and recorded without details; it does not disturb the others.
-/

namespace ViewOutline

/-- A parameter of a method. -/
structure MethodParam where
  name : String
  type : Option String
  deriving DecidableEq

/-- A method with its statements.  A method that refers to another function
names it instead. -/
structure Method where
  name : String
  shape : MethodShape
  params : List MethodParam
  returnType : String
  statements : List Record
  reference : Option String

/-- The outline of one class. -/
structure ClassOutline where
  name : String
  form : String
  superclasses : List String
  properties : List Property
  methods : List Method
  structures : List String

namespace ClassOutline

/-- The first property of a name. -/
def property? (outline : ClassOutline) (name : String) : Option Property :=
  outline.properties.find? (·.name == name)

/-- The first method of a name. -/
def method? (outline : ClassOutline) (name : String) : Option Method :=
  outline.methods.find? (·.name == name)

end ClassOutline

/-- A supertype without its type arguments and constructor arguments. -/
def simplifySupertype (type : String) : String :=
  let plain := Text.eraseSpans '<' '>' type.toList
  String.ofList (Text.trim Text.isBlank (Text.eraseSpans '(' ')' plain))

/-- The marker of a structure declared inside a class. -/
def StructuredDecl.marker (decl : StructuredDecl) : String :=
  if decl.form = StructuredDecl.companionForm ∧ (decl.name = "" ∨ decl.name = "Companion") then
    decl.form
  else
    Text.strip (decl.form ++ " " ++ decl.name)

/-- The return type of a function: declared, or `Unit` where nothing can be
returned, or open. -/
def FunctionDecl.outlineReturnType (decl : FunctionDecl) : String :=
  match Text.given decl.returnType with
  | some type => type
  | none =>
      match decl.body with
      | none => "Unit"
      | some (.block _) => "Unit"
      | some _ => "expression"

/-- The function a method body refers to, if it is a reference. -/
def Node.referenceText? (scope : Scope) : Option Node → Analysis (Option String)
  | some (.reference target receiver) => do
      return some (← (Node.reference target receiver).render scope).text
  | _ => return none

/-- Outline a method. -/
def FunctionDecl.outline (scope : Scope) (decl : FunctionDecl) : Analysis Method :=
  if decl.name = "" then Analysis.fail .namelessFunction
  else do
    let reference ← Node.referenceText? scope decl.body
    let statements ← Node.bodyRecords scope decl.body
    return {
      name := decl.name
      shape := .ofBody decl.body
      params := decl.params.map fun param => ⟨param.name, param.type⟩
      returnType := decl.outlineReturnType
      statements
      reference }

/-- What one member adds to the outline of its class. -/
inductive MemberOutline where
  | property (outline : Property)
  | method (outline : Method)
  | marker (text : String)

namespace MemberOutline

/-- The property of a member that is one. -/
def property? : MemberOutline → Option Property
  | .property outline => some outline
  | _ => none

/-- The method of a member that is one. -/
def method? : MemberOutline → Option Method
  | .method outline => some outline
  | _ => none

/-- The marker of a member that is a structure. -/
def marker? : MemberOutline → Option String
  | .marker text => some text
  | _ => none

end MemberOutline

/-- The name under which the initialisation of a class is recorded. -/
def initMethodName : String :=
  "<init>"

/-- The name under which something is recorded that may have none. -/
def recordedName (name : String) : String :=
  (Text.given (some name)).getD unknownText

/-- Outline one member of a class.  A property or function that is malformed is
noted and recorded without details. -/
def Node.outlineMember (scope : Scope) (className : String) :
    Node → Analysis MemberOutline
  | .property decl =>
      Analysis.orNoted (do return .property (← decl.classify scope)) s!"{className} property"
        (.property ⟨recordedName decl.name, .unclassified, decl.type, decl.text⟩)
  | .function decl =>
      Analysis.orNoted (do return .method (← decl.outline scope)) s!"{className} method"
        (.method ⟨recordedName decl.name, .ofBody decl.body, [], "Unit", [], none⟩)
  | .initializer statements => do
      let records ← Node.blockRecords scope statements
      return .method ⟨initMethodName, .block, [], "Unit", records, none⟩
  | .structured decl => return .marker decl.marker
  | .unknown text kind => do
      let shape := (Node.unknown text kind).shapeName
      Analysis.degrade s!"{className} member" ((Text.given text).getD shape)
      return .property ⟨unknownText, .unclassified, none, text⟩
  | other => do
      Analysis.degrade s!"{className} member" other.shapeName
      return .property ⟨unknownText, .unclassified, none, none⟩

/-- Outline the members of a class in order. -/
def Node.outlineMembers (scope : Scope) (className : String) :
    List Node → Analysis (List MemberOutline)
  | [] => return []
  | member :: rest => do
      let first ← member.outlineMember scope className
      let others ← Node.outlineMembers scope className rest
      return first :: others

/-- Outline a class, under the given name or else its own. -/
def StructuredDecl.outline (scope : Scope) (decl : StructuredDecl)
    (className : Option String) : Analysis ClassOutline :=
  let name := (Text.given className).getD decl.name
  if name = "" then Analysis.fail .namelessClass
  else do
    let members ← Node.outlineMembers scope name decl.members
    let outline : ClassOutline := {
      name
      form := decl.form
      superclasses := decl.supertypes.map simplifySupertype
      properties := members.filterMap MemberOutline.property?
      methods := members.filterMap MemberOutline.method?
      structures := members.filterMap MemberOutline.marker? }
    Analysis.log (.outlinedClass name decl.supertypes.length outline.properties.length
      outline.methods.length)
    return outline

end ViewOutline
