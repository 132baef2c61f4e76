import ViewOutline.Analysis
import ViewOutline.Kotlin.Shape

/-!
# From Kotlin parse trees to the syntax tree

Every parse tree has a syntax tree: what is not understood becomes an unknown
node with its source text.  Member access is a binary operation, so a call on a
receiver is an operation whose right operand is the call.  Comments never
count, and wrappers with a single child give way to it.

A conversion only ever goes on to smaller trees, or from a node to the reading
of the same node in a narrower role: statement, declaration, expression, and
then one shape of these.
-/

namespace ViewOutline.Kotlin

open ParseTree

/-- What follows the callee of a call: the arguments, the trailing lambda and
the type arguments, the last of each kind that is written. -/
structure CallSuffix where
  args : List Argument
  trailing : Option Lambda
  typeArgs : Option String

/-- A call without anything after its callee. -/
def CallSuffix.none : CallSuffix :=
  ⟨[], .none, .none⟩

/-- The call of a name with what follows it. -/
def CallSuffix.callOf (suffix : CallSuffix) (name : String) : Node :=
  .call ⟨name, suffix.args, suffix.trailing, suffix.typeArgs⟩

/-- A node that is not understood. -/
def unknownNode (source : Source) (tree : ParseTree) : Node :=
  .unknown (some (tree.text source)) (some tree.type)

/-- A name, or the literal a keyword denotes. -/
def identifierNode (source : Source) (tree : ParseTree) : Node :=
  let text := tree.text source
  match keywordKind? text with
  | some kind => .literal text kind
  | none => .name text

/-- A reference to a function, with or without a receiver. -/
def referenceNode (source : Source) (tree : ParseTree) : Node :=
  let parts := Text.splitLast "::".toList (tree.chars source)
  .reference (String.ofList (Text.trim Text.isBlank parts.2))
    (Text.given (some (String.ofList (Text.trim Text.isBlank parts.1))))

/-- The member access that is the callee of a call, if it is one. -/
def calleeAccess? (source : Source) (callee : ParseTree) :
    Option (ParseTree × String × String) :=
  if callee.type = "navigation_expression" then callee.access? source else none

/-- The parts of a node that should be an argument, if it is one. -/
def passedArgument? (tree : ParseTree) : Option ArgumentParts :=
  if tree.type = "value_argument" then tree.argumentParts? else none

/-- A parameter with the given default value. -/
def paramOf (source : Source) (tree : ParseTree) (value : Option Node) : Param :=
  ⟨(textOf? source (tree.child? "identifier")).getD "", tree.declaredType? source, value⟩

theorem sizeOf_calleeAccess?_lt {source : Source} {callee receiver : ParseTree}
    {operator member : String}
    (found : calleeAccess? source callee = some (receiver, operator, member)) :
    sizeOf receiver < sizeOf callee := by
  unfold calleeAccess? at found
  split at found
  · exact sizeOf_access?_lt found
  · cases found

theorem sizeOf_passedArgument?_lt {tree : ParseTree} {parts : ArgumentParts}
    (found : passedArgument? tree = some parts) : sizeOf parts.value < sizeOf tree := by
  unfold passedArgument? at found
  split at found
  · exact sizeOf_argumentParts?_lt found
  · cases found

/-- A smaller tree comes first, whatever its role. -/
theorem lex_of_lt {a b : Nat} (role role' : Nat) (smaller : a < b) :
    Prod.Lex (· < ·) (· < ·) (a, role) (b, role') :=
  Prod.Lex.left role role' smaller

/-- Of two trees in order of size, the one in the narrower role comes first. -/
theorem lex_of_le {a b role role' : Nat} (small : a ≤ b) (narrower : role < role') :
    Prod.Lex (· < ·) (· < ·) (a, role) (b, role') := by
  cases Nat.lt_or_eq_of_le small with
  | inl smaller => exact Prod.Lex.left role role' smaller
  | inr equal => exact equal ▸ Prod.Lex.right a narrower

mutual

/-- Convert a node that stands where an expression is expected. -/
def expression (source : Source) (tree : ParseTree) : Logged Node :=
  expressionAt source tree.unwrap
termination_by (sizeOf tree, 3)
decreasing_by exact lex_of_le tree.sizeOf_unwrap_le (by decide)

/-- Convert an unwrapped node that stands where an expression is expected. -/
def expressionAt (source : Source) (tree : ParseTree) : Logged Node :=
  match ExprShape.ofType tree.type with
  | .identifier => return identifierNode source tree
  | .selfReference => return .name (tree.text source)
  | .number => return .literal (tree.text source) (numberKind (tree.chars source))
  | .literal kind => return .literal (tree.text source) kind
  | .parenthesized =>
      match _listed : tree.namedChildren with
      | [child] => expression source child
      | _ => return unknownNode source tree
  | .call => call source tree
  | .navigation =>
      match _found : tree.access? source with
      | some (receiver, operator, member) => do
          let receiver ← expression source receiver
          return .binary receiver operator (.name member)
      | none => return unknownNode source tree
  | .reference => return referenceNode source tree
  | .lambda => return .lambda (← lambda source tree)
  | .annotatedLambda =>
      match _found : tree.child? "lambda_literal" with
      | some literal => return .lambda (← lambda source literal)
      | none => return unknownNode source tree
  | .binary =>
      match _found : tree.operands? with
      | some (left, right) =>
          let operator := between source tree left right
          if operator = "" then return unknownNode source tree
          else do
            let left ← expression source left
            let right ← expression source right
            return .binary left operator right
      | none => return unknownNode source tree
  | .typeName => return .name (tree.text source)
  | .other => return unknownNode source tree
termination_by (sizeOf tree, 2)
decreasing_by
  · exact lex_of_lt _ _ (sizeOf_lt_of_mem_namedChildren (_listed ▸ List.mem_singleton_self _))
  · exact lex_of_le (Nat.le_refl _) (by decide)
  · exact lex_of_lt _ _ (sizeOf_access?_lt _found)
  · exact lex_of_le (Nat.le_refl _) (by decide)
  · exact lex_of_lt _ _ (sizeOf_child?_lt _found)
  · exact lex_of_lt _ _ (sizeOf_operands?_lt _found).1
  · exact lex_of_lt _ _ (sizeOf_operands?_lt _found).2

/-- Convert a call.  A callee that is a member becomes an access to the call;
any other callee than a name is kept as a text and reported. -/
def call (source : Source) (tree : ParseTree) : Logged Node :=
  match _listed : tree.namedChildren with
  | [] => return unknownNode source tree
  | first :: rest => do
      let suffix ← callSuffix source .none rest
      let callee := first.unwrap
      if callee.type = "identifier" then
        return suffix.callOf (callee.text source)
      else
        match _found : calleeAccess? source callee with
        | some (receiver, operator, member) =>
            let receiver ← expression source receiver
            return .binary receiver operator (suffix.callOf member)
        | none =>
            Logged.log (.unsupportedCallee callee.type (callee.text source))
            return suffix.callOf (callee.text source)
termination_by (sizeOf tree, 1)
decreasing_by
  · have bound := tree.sizeOf_namedChildren_lt
    rw [_listed, List.cons.sizeOf_spec] at bound
    exact lex_of_lt _ _ (by omega)
  · have bound := sizeOf_calleeAccess?_lt _found
    have inner : sizeOf callee ≤ sizeOf first := first.sizeOf_unwrap_le
    have outer : sizeOf first < sizeOf tree :=
      sizeOf_lt_of_mem_namedChildren (_listed ▸ List.mem_cons_self)
    exact lex_of_lt _ _ (by omega)

/-- Convert what follows the callee of a call. -/
def callSuffix (source : Source) (suffix : CallSuffix) :
    List ParseTree → Logged CallSuffix
  | [] => return suffix
  | child :: rest =>
      if child.type = "value_arguments" then do
        let args ← arguments source child.namedChildren
        callSuffix source { suffix with args } rest
      else if child.type = "annotated_lambda" then do
        let trailing ← trailingLambda source child
        callSuffix source { suffix with trailing } rest
      else if child.type = "type_arguments" then
        callSuffix source { suffix with typeArgs := some (child.text source) } rest
      else
        callSuffix source suffix rest
termination_by trees => (sizeOf trees, 0)
decreasing_by
  · have bound := child.sizeOf_namedChildren_lt
    exact lex_of_lt _ _ (by simp only [List.cons.sizeOf_spec]; omega)
  all_goals exact lex_of_lt _ _ (by simp only [List.cons.sizeOf_spec]; omega)

/-- Convert the lambda written after the arguments of a call. -/
def trailingLambda (source : Source) (tree : ParseTree) : Logged (Option Lambda) :=
  match _found : tree.child? "lambda_literal" with
  | some literal => return some (← lambda source literal)
  | none => return none
termination_by (sizeOf tree, 1)
decreasing_by exact lex_of_lt _ _ (sizeOf_child?_lt _found)

/-- Convert the arguments of a call. -/
def arguments (source : Source) : List ParseTree → Logged (List Argument)
  | [] => return []
  | tree :: rest =>
      match _found : passedArgument? tree with
      | some parts => do
          let value ← expression source parts.value
          let others ← arguments source rest
          return ⟨value, textOf? source parts.name, parts.spread⟩ :: others
      | none => arguments source rest
termination_by trees => (sizeOf trees, 0)
decreasing_by
  · have bound := sizeOf_passedArgument?_lt _found
    exact lex_of_lt _ _ (by simp only [List.cons.sizeOf_spec]; omega)
  all_goals exact lex_of_lt _ _ (by simp only [List.cons.sizeOf_spec]; omega)

/-- Convert a lambda. -/
def lambda (source : Source) (tree : ParseTree) : Logged Lambda := do
  let body ← statements source tree.lambdaStatements
  return ⟨tree.lambdaParams source, body⟩
termination_by (sizeOf tree, 1)
decreasing_by exact lex_of_lt _ _ tree.sizeOf_lambdaStatements_lt

/-- Convert statements in order. -/
def statements (source : Source) : List ParseTree → Logged (List Node)
  | [] => return []
  | tree :: rest => do
      let first ← statement source tree
      let others ← statements source rest
      return first :: others
termination_by trees => (sizeOf trees, 0)
decreasing_by all_goals exact lex_of_lt _ _ (by simp only [List.cons.sizeOf_spec]; omega)

/-- Convert a node that stands where a statement is expected. -/
def statement (source : Source) (tree : ParseTree) : Logged Node :=
  if (DeclShape.ofType tree.unwrap.type).isLocal then declarationAt source tree.unwrap
  else expressionAt source tree.unwrap
termination_by (sizeOf tree, 5)
decreasing_by all_goals exact lex_of_le tree.sizeOf_unwrap_le (by decide)

/-- Convert declarations in order. -/
def declarations (source : Source) : List ParseTree → Logged (List Node)
  | [] => return []
  | tree :: rest => do
      let first ← declaration source tree
      let others ← declarations source rest
      return first :: others
termination_by trees => (sizeOf trees, 0)
decreasing_by all_goals exact lex_of_lt _ _ (by simp only [List.cons.sizeOf_spec]; omega)

/-- Convert a node that stands where a declaration is expected. -/
def declaration (source : Source) (tree : ParseTree) : Logged Node :=
  declarationAt source tree.unwrap
termination_by (sizeOf tree, 5)
decreasing_by exact lex_of_le tree.sizeOf_unwrap_le (by decide)

/-- Convert an unwrapped node that stands where a declaration is expected. -/
def declarationAt (source : Source) (tree : ParseTree) : Logged Node :=
  match DeclShape.ofType tree.type with
  | .classLike => return .structured (← structured source (tree.classForm source) tree)
  | .object => return .structured (← structured source "object" tree)
  | .companion => return .structured (← structured source StructuredDecl.companionForm tree)
  | .function => return .function (← function source tree)
  | .property => return .property (← property source tree)
  | .initializer => return .initializer (← statements source tree.blockStatements)
  | .constructor => return .function (← secondaryConstructor source tree)
  | .expression => expressionAt source tree
termination_by (sizeOf tree, 4)
decreasing_by
  case _ => exact lex_of_le (Nat.le_refl _) (by decide)
  case _ => exact lex_of_le (Nat.le_refl _) (by decide)
  case _ => exact lex_of_le (Nat.le_refl _) (by decide)
  case _ => exact lex_of_le (Nat.le_refl _) (by decide)
  case _ => exact lex_of_le (Nat.le_refl _) (by decide)
  case _ => exact lex_of_lt _ _ tree.sizeOf_blockStatements_lt
  case _ => exact lex_of_le (Nat.le_refl _) (by decide)
  case _ => exact lex_of_le (Nat.le_refl _) (by decide)

/-- Convert a class or object.  The properties declared in its primary
constructor come before the members of its body. -/
def structured (source : Source) (form : String) (tree : ParseTree) :
    Logged StructuredDecl := do
  let properties ← constructorProperties source tree.constructorParameters
  let members ← declarations source tree.memberTrees
  return {
    name := tree.structuredName source
    form
    supertypes := tree.supertypes source
    members := properties ++ members
    text := none }
termination_by (sizeOf tree, 1)
decreasing_by
  · exact lex_of_lt _ _ tree.sizeOf_constructorParameters_lt
  · exact lex_of_lt _ _ tree.sizeOf_memberTrees_lt

/-- Convert the parameters of a primary constructor that declare properties. -/
def constructorProperties (source : Source) : List ParseTree → Logged (List Node)
  | [] => return []
  | param :: rest =>
      match param.binding?, param.child? "identifier" with
      | some binding, some name => do
          let value ← optionalExpression source (param.afterToken? "=")
          let others ← constructorProperties source rest
          return .property {
            name := name.text source
            type := param.declaredType? source
            initializer := value
            delegate := none
            mutable := binding == "var"
            text := some (param.text source) } :: others
      | _, _ => constructorProperties source rest
termination_by trees => (sizeOf trees, 0)
decreasing_by
  · have bound := param.sizeOf_afterToken?_option_lt "="
    exact lex_of_lt _ _ (by simp only [List.cons.sizeOf_spec]; omega)
  all_goals exact lex_of_lt _ _ (by simp only [List.cons.sizeOf_spec]; omega)

/-- Convert an expression that may be missing. -/
def optionalExpression (source : Source) : Option ParseTree → Logged (Option Node)
  | none => return none
  | some tree => return some (← expression source tree)
termination_by tree => (sizeOf tree, 0)
decreasing_by exact lex_of_lt _ _ (by simp only [Option.some.sizeOf_spec]; omega)

/-- Convert a function. -/
def function (source : Source) (tree : ParseTree) : Logged FunctionDecl := do
  let body ← functionBody source tree
  let params ← functionParams source tree
  return {
    name := tree.functionName source
    params
    returnType := tree.returnType? source
    body
    text := some (tree.text source) }
termination_by (sizeOf tree, 2)
decreasing_by all_goals exact lex_of_le (Nat.le_refl _) (by decide)

/-- Convert the body of a function: an expression after `=`, or a block. -/
def functionBody (source : Source) (tree : ParseTree) : Logged (Option Node) :=
  match _found : tree.child? "function_body" with
  | none => return none
  | some body =>
      if body.hasChild "=" then
        match _listed : body.namedChildren with
        | value :: _ => return some (← expression source value)
        | [] => return some (.unknown (some (body.text source)) none)
      else
        return some (.block (← statements source body.blockStatements))
termination_by (sizeOf tree, 1)
decreasing_by
  · have inner : sizeOf value < sizeOf body :=
      sizeOf_lt_of_mem_namedChildren (_listed ▸ List.mem_cons_self)
    exact lex_of_lt _ _ (Nat.lt_trans inner (sizeOf_child?_lt _found))
  · exact lex_of_lt _ _ (Nat.lt_trans body.sizeOf_blockStatements_lt (sizeOf_child?_lt _found))

/-- Convert the parameters of a function or secondary constructor. -/
def functionParams (source : Source) (tree : ParseTree) : Logged (List Param) :=
  match _found : tree.child? "function_value_parameters" with
  | some list => params source list.namedChildren
  | none => return []
termination_by (sizeOf tree, 1)
decreasing_by
  exact lex_of_lt _ _ (Nat.lt_trans list.sizeOf_namedChildren_lt (sizeOf_child?_lt _found))

/-- Convert parameters in order.  A default value follows its parameter. -/
def params (source : Source) : List ParseTree → Logged (List Param)
  | [] => return []
  | [tree] => return if tree.type = "parameter" then [paramOf source tree none] else []
  | tree :: next :: rest =>
      if tree.type = "parameter" then
        if next.type = "parameter" ∨ next.type = "parameter_modifiers" then do
          let others ← params source (next :: rest)
          return paramOf source tree none :: others
        else do
          let value ← expression source next
          let others ← params source (next :: rest)
          return paramOf source tree (some value) :: others
      else
        params source (next :: rest)
termination_by trees => (sizeOf trees, 0)
decreasing_by all_goals exact lex_of_lt _ _ (by simp only [List.cons.sizeOf_spec]; omega)

/-- Convert a secondary constructor. -/
def secondaryConstructor (source : Source) (tree : ParseTree) : Logged FunctionDecl := do
  let params ← functionParams source tree
  let body ← statements source tree.blockStatements
  return {
    name := "<init>"
    params
    returnType := none
    body := some (.block body)
    text := some (tree.text source) }
termination_by (sizeOf tree, 2)
decreasing_by
  · exact lex_of_le (Nat.le_refl _) (by decide)
  · exact lex_of_lt _ _ tree.sizeOf_blockStatements_lt

/-- Convert a property. -/
def property (source : Source) (tree : ParseTree) : Logged PropertyDecl := do
  let delegate ← propertyDelegate source tree
  let value ← optionalExpression source (tree.afterToken? "=")
  return {
    name := tree.propertyName source
    type := tree.propertyType? source
    initializer := value
    delegate
    mutable := tree.isMutable
    text := some (tree.text source) }
termination_by (sizeOf tree, 2)
decreasing_by
  · exact lex_of_le (Nat.le_refl _) (by decide)
  · exact lex_of_lt _ _ (tree.sizeOf_afterToken?_option_lt "=")

/-- Convert the delegate of a property. -/
def propertyDelegate (source : Source) (tree : ParseTree) : Logged (Option Node) :=
  match _found : tree.child? "property_delegate" with
  | some delegate =>
      match _listed : delegate.namedChildren with
      | value :: _ => return some (← expression source value)
      | [] => return none
  | none => return none
termination_by (sizeOf tree, 1)
decreasing_by
  have inner : sizeOf value < sizeOf delegate :=
    sizeOf_lt_of_mem_namedChildren (_listed ▸ List.mem_cons_self)
  exact lex_of_lt _ _ (Nat.lt_trans inner (sizeOf_child?_lt _found))

end

/-- The name on the last package line, if there is one. -/
def packageName? (source : Source) (trees : List ParseTree) : Option String :=
  (trees.reverse.find? (·.type == "package_header")).map fun header =>
    String.ofList (headerName "package".toList (header.chars source))

/-- The names on the import lines. -/
def importNames (source : Source) (trees : List ParseTree) : List String :=
  (trees.filter (·.type == "import")).map fun line =>
    String.ofList (headerName "import".toList (line.chars source))

/-- Whether a top-level node is a declaration and not part of the header. -/
def isTopLevelDecl (tree : ParseTree) : Bool :=
  !(["package_header", "import", "shebang", "file_annotation"].contains tree.type)

/-- Convert a file. -/
def sourceFile (source : Source) (root : ParseTree) (path : Option String) :
    Logged SourceFile := do
  let parts := root.namedChildren
  let decls ← declarations source (parts.filter isTopLevelDecl)
  return {
    decls
    package := packageName? source parts
    imports := importNames source parts
    path }

/-- Convert a parsed file, reporting whether the parser met errors. -/
def convert (source : Source) (root : ParseTree) (hasError : Bool) (path : Option String) :
    Logged SourceFile := do
  if hasError then
    Logged.log (.parseErrors path)
  sourceFile source root path

end ViewOutline.Kotlin
