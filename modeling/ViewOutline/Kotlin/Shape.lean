import ViewOutline.Kotlin.ParseTree
import ViewOutline.Kotlin.Token
import ViewOutline.Text.Word

/-!
# Shapes of Kotlin nodes

The type of a parse-tree node says which shape of declaration or expression it
has.  This module reads the shapes and the parts of a node that need no
conversion: names, types, parameter names, modifiers and operators.
-/

namespace ViewOutline.Kotlin

/-- How a node is read as an expression. -/
inductive ExprShape where
  | identifier
  | selfReference
  | number
  | literal (kind : LiteralKind)
  | parenthesized
  | call
  | navigation
  | reference
  | lambda
  | annotatedLambda
  | binary
  | typeName
  | other

/-- The literals that are known by their type alone. -/
def literalKinds : List (String × LiteralKind) :=
  [("float_literal", .double), ("character_literal", .char), ("string_literal", .string),
   ("multiline_string_literal", .string), ("collection_literal", .collection)]

/-- Types of nodes with two operands. -/
def binaryTypes : List String :=
  ["binary_expression", "as_expression", "is_expression", "in_expression", "infix_expression",
   "range_expression", "assignment"]

/-- Types of nodes that are types. -/
def typeNodeTypes : List String :=
  ["type", "user_type", "nullable_type", "non_nullable_type", "function_type",
   "parenthesized_type"]

/-- The shape of an expression by its type. -/
def ExprShape.ofType (type : String) : ExprShape :=
  if type = "identifier" then .identifier
  else if type = "this_expression" ∨ type = "super_expression" then .selfReference
  else if type = "number_literal" then .number
  else
    match literalKinds.lookup type with
    | some kind => .literal kind
    | none =>
        if type = "parenthesized_expression" then .parenthesized
        else if type = "call_expression" then .call
        else if type = "navigation_expression" then .navigation
        else if type = "callable_reference" then .reference
        else if type = "lambda_literal" then .lambda
        else if type = "annotated_lambda" then .annotatedLambda
        else if binaryTypes.contains type then .binary
        else if typeNodeTypes.contains type then .typeName
        else .other

/-- How a node is read as a declaration. -/
inductive DeclShape where
  | classLike
  | object
  | companion
  | function
  | property
  | initializer
  | constructor
  /-- Not a declaration: read as an expression. -/
  | expression

/-- The shape of a declaration by its type. -/
def DeclShape.ofType (type : String) : DeclShape :=
  if type = "class_declaration" then .classLike
  else if type = "object_declaration" then .object
  else if type = "companion_object" then .companion
  else if type = "function_declaration" then .function
  else if type = "property_declaration" then .property
  else if type = "anonymous_initializer" then .initializer
  else if type = "secondary_constructor" then .constructor
  else .expression

/-- Whether a declaration of this shape may stand among statements. -/
def DeclShape.isLocal : DeclShape → Bool
  | .classLike | .object | .function | .property => true
  | _ => false

namespace ParseTree

/-- The text of a node that may be missing. -/
def textOf? (source : Source) (tree : Option ParseTree) : Option String :=
  tree.map (text source)

/-- The word that introduces a class: `interface`, `enum` or `class`. -/
def classForm (source : Source) (tree : ParseTree) : String :=
  if tree.hasChild "interface" then "interface"
  else
    match tree.child? "modifiers" with
    | some modifiers =>
        if Text.hasWord "enum".toList (modifiers.chars source) then "enum" else "class"
    | none => "class"

/-- The name of a class or object: its name field, or its first identifier. -/
def structuredName (source : Source) (tree : ParseTree) : String :=
  (textOf? source ((tree.atField? tree.nameField).or (tree.child? "identifier"))).getD ""

/-- The supertypes of a class, each by its first type name where it has one. -/
def supertypes (source : Source) (tree : ParseTree) : List String :=
  match tree.child? "delegation_specifiers" with
  | some specifiers =>
      specifiers.namedChildren.map fun specifier =>
        ((specifier.find? "user_type").getD specifier).text source
  | none => []

/-- The declared type of a parameter or variable. -/
def declaredType? (source : Source) (tree : ParseTree) : Option String :=
  textOf? source (tree.firstOf? typeNodeTypes)

/-- The word that declares a property: `val` or `var`, whichever comes first. -/
def binding? (tree : ParseTree) : Option String :=
  (tree.firstOf? ["val", "var"]).map type

/-- Whether a property can be assigned to. -/
def isMutable (tree : ParseTree) : Bool :=
  tree.binding? == some "var"

/-- The children before the first of a type, and those after it. -/
def splitAtChild (tree : ParseTree) (type : String) : List ParseTree × List ParseTree :=
  let differs := fun child : ParseTree => child.type != type
  (tree.children.takeWhile differs, (tree.children.dropWhile differs).drop 1)

/-- The name of a function: its name field, or the last identifier before its
parameters. -/
def functionName (source : Source) (tree : ParseTree) : String :=
  match tree.atField? tree.nameField with
  | some name => name.text source
  | none =>
      let before := (tree.splitAtChild "function_value_parameters").1
      (textOf? source (before.reverse.find? (·.type == "identifier"))).getD ""

/-- The declared return type of a function: the first type after its
parameters. -/
def returnType? (source : Source) (tree : ParseTree) : Option String :=
  let after := (tree.splitAtChild "function_value_parameters").2
  textOf? source (after.find? fun child => typeNodeTypes.contains child.type)

/-- The name of a property.  Several names declared at once are kept as they
are written. -/
def propertyName (source : Source) (tree : ParseTree) : String :=
  match tree.child? "variable_declaration" with
  | some declared => (textOf? source (declared.child? "identifier")).getD ""
  | none => (textOf? source (tree.child? "multi_variable_declaration")).getD ""

/-- The declared type of a property. -/
def propertyType? (source : Source) (tree : ParseTree) : Option String :=
  (tree.child? "variable_declaration").bind fun declared => declared.declaredType? source

/-- The members of a class body that are declarations. -/
def memberTrees (tree : ParseTree) : List ParseTree :=
  match (tree.child? "class_body").or (tree.child? "enum_class_body") with
  | some body =>
      body.namedChildren.filter fun member =>
        !(["enum_entry", "modifiers", "annotation"].contains member.type)
  | none => []

/-- The parameters of a primary constructor. -/
def constructorParameters (tree : ParseTree) : List ParseTree :=
  match tree.child? "primary_constructor" with
  | some primary => primary.descendants "class_parameter"
  | none => []

/-- The statements of a block, or of the first block of a node. -/
def blockStatements (tree : ParseTree) : List ParseTree :=
  if tree.type = "block" then tree.namedChildren
  else
    match tree.child? "block" with
    | some block => block.namedChildren
    | none => []

/-- The names of the parameters of a lambda. -/
def lambdaParams (source : Source) (tree : ParseTree) : List String :=
  match tree.namedChildren.reverse.find? (·.type == "lambda_parameters") with
  | some params => params.namedChildren.map (text source)
  | none => []

/-- The statements of a lambda. -/
def lambdaStatements (tree : ParseTree) : List ParseTree :=
  tree.namedChildren.filter (·.type != "lambda_parameters")

/-- The two operands of a node: those its fields point to, or else its first
and last child that count. -/
def operands? (tree : ParseTree) : Option (ParseTree × ParseTree) :=
  match tree.atField? tree.leftField, tree.atField? tree.rightField with
  | some left, some right => some (left, right)
  | _, _ =>
      match tree.namedChildren with
      | first :: second :: rest => some (first, rest.getLastD second)
      | _ => none

/-- A member access: the receiver, the operator and the name of the member. -/
def access? (source : Source) (tree : ParseTree) : Option (ParseTree × String × String) :=
  match tree.namedChildren with
  | receiver :: second :: rest =>
      let member := rest.getLastD second
      if member.type = "identifier" then
        let operator := between source tree receiver member
        some (receiver, if operator = "" then "." else operator, member.text source)
      else none
  | _ => none

/-- A passed argument: its name, the tree of its value, and whether it is
spread. -/
structure ArgumentParts where
  name : Option ParseTree
  value : ParseTree
  spread : Bool

/-- The value of an argument and whether it is spread: the inside of a spread
expression takes the place of the expression. -/
def spreadValue (value : ParseTree) (spread : Bool) : ParseTree × Bool :=
  if value.type = "spread_expression" then (value.namedChildren.getLast?.getD value, true)
  else (value, spread)

/-- The parts of a passed argument, if it has a value. -/
def argumentParts? (tree : ParseTree) : Option ArgumentParts :=
  match tree.namedChildren.filter (·.type != "annotation") with
  | [] => none
  | first :: rest =>
      let passed := spreadValue (rest.getLastD first) (tree.hasToken "*")
      some {
        name := if tree.hasToken "=" && !rest.isEmpty then some first else none
        value := passed.1
        spread := passed.2 }

/-! ## Sizes of the parts -/

theorem sizeOf_operands?_lt {tree left right : ParseTree}
    (found : tree.operands? = some (left, right)) :
    sizeOf left < sizeOf tree ∧ sizeOf right < sizeOf tree := by
  unfold operands? at found
  split at found
  · rename_i first second leftFound rightFound
    cases found
    exact ⟨sizeOf_atField?_lt leftFound, sizeOf_atField?_lt rightFound⟩
  · split at found
    · rename_i first second rest children
      cases found
      constructor
      · exact sizeOf_lt_of_mem_namedChildren (children ▸ List.mem_cons_self)
      · exact sizeOf_lt_of_mem_namedChildren
          (children ▸ List.mem_cons_of_mem _ (List.getLastD_mem_cons))
    · cases found

theorem sizeOf_access?_lt {source : Source} {tree receiver : ParseTree}
    {operator member : String} (found : tree.access? source = some (receiver, operator, member)) :
    sizeOf receiver < sizeOf tree := by
  unfold access? at found
  split at found
  · rename_i first second rest children
    simp only at found
    split at found
    · cases found
      exact sizeOf_lt_of_mem_namedChildren (children ▸ List.mem_cons_self)
    · cases found
  · cases found

theorem sizeOf_spreadValue_le (value : ParseTree) (spread : Bool) :
    sizeOf (spreadValue value spread).1 ≤ sizeOf value := by
  unfold spreadValue
  split
  · cases last : value.namedChildren.getLast? with
    | none => exact Nat.le_refl _
    | some inner =>
        exact Nat.le_of_lt (sizeOf_lt_of_mem_namedChildren (List.mem_of_getLast? last))
  · exact Nat.le_refl _

theorem sizeOf_argumentParts?_lt {tree : ParseTree} {parts : ArgumentParts}
    (found : tree.argumentParts? = some parts) : sizeOf parts.value < sizeOf tree := by
  unfold argumentParts? at found
  split at found
  · cases found
  · rename_i first rest children
    cases found
    have member : rest.getLastD first ∈ tree.namedChildren := by
      have listed : rest.getLastD first ∈ first :: rest := List.getLastD_mem_cons
      rw [← children] at listed
      exact (List.mem_filter.mp listed).1
    exact Nat.lt_of_le_of_lt (sizeOf_spreadValue_le _ _)
      (sizeOf_lt_of_mem_namedChildren member)

theorem sizeOf_memberTrees_lt (tree : ParseTree) : sizeOf tree.memberTrees < sizeOf tree := by
  unfold memberTrees
  split
  · rename_i body found
    have smaller : sizeOf body < sizeOf tree := by
      cases class? : tree.child? "class_body" with
      | some inner =>
          rw [class?] at found
          cases found
          exact sizeOf_child?_lt class?
      | none =>
          rw [class?] at found
          exact sizeOf_child?_lt found
    have filtered := sizeOf_filter_le (fun member : ParseTree =>
      !(["enum_entry", "modifiers", "annotation"].contains member.type)) body.namedChildren
    have children := body.sizeOf_namedChildren_lt
    omega
  · exact tree.sizeOf_nil_lt

theorem sizeOf_constructorParameters_lt (tree : ParseTree) :
    sizeOf tree.constructorParameters < sizeOf tree := by
  unfold constructorParameters
  split
  · rename_i primary found
    exact Nat.lt_trans (sizeOf_descendants_lt _ primary) (sizeOf_child?_lt found)
  · exact tree.sizeOf_nil_lt

theorem sizeOf_blockStatements_lt (tree : ParseTree) :
    sizeOf tree.blockStatements < sizeOf tree := by
  unfold blockStatements
  split
  · exact tree.sizeOf_namedChildren_lt
  · split
    · rename_i block found
      exact Nat.lt_trans block.sizeOf_namedChildren_lt (sizeOf_child?_lt found)
    · exact tree.sizeOf_nil_lt

theorem sizeOf_lambdaStatements_lt (tree : ParseTree) :
    sizeOf tree.lambdaStatements < sizeOf tree :=
  Nat.lt_of_le_of_lt (sizeOf_filter_le _ _) tree.sizeOf_namedChildren_lt

end ParseTree

end ViewOutline.Kotlin
