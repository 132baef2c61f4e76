import ViewOutline.Kotlin.Conversion
import ViewOutline.Proofs.Kotlin.Comment

/-!
# Comments do not show in a converted file

Every part of a node that conversion reads is the same with and without comments,
and what is converted further is a smaller tree of the same kind.  So a file is
converted to the same syntax tree whatever comments its parse tree holds.
-/

namespace ViewOutline.Kotlin

open ParseTree

namespace ParseTree

variable {source : Source} {tree child : ParseTree}

/-! ## Parts of tidy trees -/

namespace Tidy

theorem ofNamed (tidy : tree.Tidy) (member : child ∈ tree.namedChildren) : child.Tidy :=
  tidy.ofChild (List.mem_filter.mp member).1

theorem ofChild? (tidy : tree.Tidy) {type : String} (found : tree.child? type = some child) :
    child.Tidy :=
  tidy.ofChild (List.mem_of_find?_eq_some found)

theorem ofField (tidy : tree.Tidy) {field : Option Nat} (found : tree.atField? field = some child) :
    child.Tidy := by
  cases field with
  | none => cases found
  | some index => exact tidy.ofChild (List.mem_of_getElem? found)

theorem nameField (tidy : tree.Tidy) :
    ∀ child, tree.atField? tree.nameField = some child → child.isCode = true :=
  fun _ found => tidy.field (by simp [fields]) found

theorem leftField (tidy : tree.Tidy) :
    ∀ child, tree.atField? tree.leftField = some child → child.isCode = true :=
  fun _ found => tidy.field (by simp [fields]) found

theorem rightField (tidy : tree.Tidy) :
    ∀ child, tree.atField? tree.rightField = some child → child.isCode = true :=
  fun _ found => tidy.field (by simp [fields]) found

theorem ofAfterToken? (tidy : tree.Tidy) {token : String}
    (found : tree.afterToken? token = some child) : child.Tidy :=
  tidy.ofChild ((List.dropWhile_sublist _).mem (List.mem_of_find?_eq_some found))

theorem unwrap (tidy : tree.Tidy) : tree.unwrap.Tidy := by
  fun_induction ParseTree.unwrap tree with
  | case1 tree _ child only ih => exact ih (tidy.ofNamed (only ▸ List.mem_singleton_self child))
  | case2 => exact tidy
  | case3 => exact tidy

end Tidy

mutual

theorem tidy_descendants (type : String) :
    ∀ tree : ParseTree, tree.Tidy → ∀ part ∈ descendants type tree, part.Tidy
  | ⟨_, _, _, _, children, _, _, _⟩, tidy =>
      tidy_descendantsAmong type children fun _ => tidy.ofChild

theorem tidy_descendantsAmong (type : String) :
    ∀ trees : List ParseTree, (∀ tree ∈ trees, tree.Tidy) →
      ∀ part ∈ descendantsAmong type trees, part.Tidy
  | [], _ => by
      rintro _ ⟨⟩
  | tree :: rest, tidy => by
      rw [List.forall_mem_cons] at tidy
      have later := tidy_descendantsAmong type rest tidy.2
      rw [descendantsAmong]
      split
      · exact List.forall_mem_cons.mpr ⟨tidy.1, later⟩
      · exact List.forall_mem_append.mpr ⟨tidy_descendants type tree tidy.1, later⟩

end

/-! ## Parts that are read off -/

@[simp]
theorem textOf?_bare (source : Source) (tree : Option ParseTree) :
    textOf? source (tree.map bare) = textOf? source tree := by
  cases tree <;> simp [textOf?]

theorem classForm_bare (source : Source) (tree : ParseTree) :
    tree.bare.classForm source = tree.classForm source := by
  rw [classForm, classForm, hasChild_bare tree rfl, child?_bare tree rfl]
  cases tree.child? "modifiers" <;> simp

theorem structuredName_bare (source : Source) (tidy : tree.Tidy) :
    tree.bare.structuredName source = tree.structuredName source := by
  rw [structuredName, structuredName, nameField_bare, atField?_bare tidy.nameField,
    child?_bare tree rfl, ← Option.map_or, textOf?_bare]

theorem supertypes_bare (source : Source) (tidy : tree.Tidy) :
    tree.bare.supertypes source = tree.supertypes source := by
  rw [supertypes, supertypes, child?_bare tree rfl]
  cases found : tree.child? "delegation_specifiers" with
  | none => rfl
  | some specifiers =>
      simp only [Option.map_some, namedChildren_bare, List.map_map]
      apply List.map_congr_left
      intro specifier member
      have tidySpecifier := (tidy.ofChild? found).ofNamed member
      rw [Function.comp_apply, find?_bare rfl tidySpecifier]
      cases specifier.find? "user_type" <;> simp

theorem declaredType?_bare (source : Source) (tree : ParseTree) :
    tree.bare.declaredType? source = tree.declaredType? source := by
  rw [declaredType?, firstOf?_bare tree (by decide), textOf?_bare, declaredType?]

theorem binding?_bare (tree : ParseTree) : tree.bare.binding? = tree.binding? := by
  rw [binding?, firstOf?_bare tree (by decide), binding?, Option.map_map]
  simp [Function.comp_def]

theorem functionName_bare (source : Source) (tidy : tree.Tidy) :
    tree.bare.functionName source = tree.functionName source := by
  rw [functionName, functionName, nameField_bare, atField?_bare tidy.nameField,
    splitAtChild_bare tree rfl]
  cases tree.atField? tree.nameField with
  | some name => simp
  | none =>
      simp only [Option.map_none, ← List.map_reverse, ← List.filter_reverse]
      rw [(seesCode_type rfl).find?, textOf?_bare]

theorem returnType?_bare (source : Source) (tree : ParseTree) :
    tree.bare.returnType? source = tree.returnType? source := by
  rw [returnType?, returnType?, splitAtChild_bare tree rfl]
  rw [(seesCode_types (by decide)).find?, textOf?_bare]

theorem propertyName_bare (source : Source) (tree : ParseTree) :
    tree.bare.propertyName source = tree.propertyName source := by
  rw [propertyName, propertyName, child?_bare tree rfl, child?_bare tree rfl, textOf?_bare]
  cases tree.child? "variable_declaration" with
  | none => rfl
  | some declared =>
      simp only [Option.map_some]
      rw [child?_bare declared rfl, textOf?_bare]

theorem propertyType?_bare (source : Source) (tree : ParseTree) :
    tree.bare.propertyType? source = tree.propertyType? source := by
  rw [propertyType?, propertyType?, child?_bare tree rfl]
  cases tree.child? "variable_declaration" <;> simp [declaredType?_bare]

theorem isMutable_bare (tree : ParseTree) : tree.bare.isMutable = tree.isMutable := by
  rw [isMutable, isMutable, binding?_bare]

theorem unknownNode_bare (source : Source) (tree : ParseTree) :
    unknownNode source tree.bare = unknownNode source tree := by
  rw [unknownNode, unknownNode, text_bare, type_bare]

theorem paramOf_bare (source : Source) (tree : ParseTree) (value : Option Node) :
    paramOf source tree.bare value = paramOf source tree value := by
  rw [paramOf, paramOf, child?_bare tree rfl, textOf?_bare, declaredType?_bare]

/-! ## Parts that are converted further -/

theorem memberTrees_bare (tree : ParseTree) :
    tree.bare.memberTrees = tree.memberTrees.map bare := by
  rw [memberTrees, memberTrees, child?_bare tree rfl, child?_bare tree rfl, ← Option.map_or]
  cases (tree.child? "class_body").or (tree.child? "enum_class_body") with
  | none => rfl
  | some body => simp [List.filter_map, Function.comp_def]

theorem constructorParameters_bare (tidy : tree.Tidy) :
    tree.bare.constructorParameters = tree.constructorParameters.map bare := by
  rw [constructorParameters, constructorParameters, child?_bare tree rfl]
  cases found : tree.child? "primary_constructor" with
  | none => rfl
  | some primary => exact descendants_bare rfl primary (tidy.ofChild? found)

theorem blockStatements_bare (tree : ParseTree) :
    tree.bare.blockStatements = tree.blockStatements.map bare := by
  rw [blockStatements, blockStatements, type_bare, child?_bare tree rfl]
  split
  · exact namedChildren_bare tree
  · cases tree.child? "block" <;> simp

theorem lambdaParams_bare (source : Source) (tree : ParseTree) :
    tree.bare.lambdaParams source = tree.lambdaParams source := by
  rw [lambdaParams, lambdaParams, namedChildren_bare, ← List.map_reverse, List.find?_map]
  simp only [Function.comp_def, type_bare]
  cases tree.namedChildren.reverse.find? (·.type == "lambda_parameters") <;>
    simp [Function.comp_def]

theorem lambdaStatements_bare (tree : ParseTree) :
    tree.bare.lambdaStatements = tree.lambdaStatements.map bare := by
  simp [lambdaStatements, List.filter_map, Function.comp_def]

theorem getLastD_map_bare (first : ParseTree) (rest : List ParseTree) :
    (rest.map bare).getLastD first.bare = (rest.getLastD first).bare := by
  rw [List.getLastD_eq_getLast?, List.getLast?_map, List.getLastD_eq_getLast?]
  cases rest.getLast? <;> rfl

theorem operands?_bare (tidy : tree.Tidy) :
    tree.bare.operands? = tree.operands?.map fun pair => (pair.1.bare, pair.2.bare) := by
  rw [operands?, operands?, leftField_bare, rightField_bare, atField?_bare tidy.leftField,
    atField?_bare tidy.rightField, namedChildren_bare]
  rcases tree.namedChildren with _ | ⟨first, _ | ⟨second, rest⟩⟩ <;>
    cases tree.atField? tree.leftField <;> cases tree.atField? tree.rightField <;>
      simp only [Option.map_some, Option.map_none, List.map_cons, List.map_nil, getLastD_map_bare]

theorem access?_bare (source : Source) (tree : ParseTree) :
    tree.bare.access? source =
      (tree.access? source).map fun parts => (parts.1.bare, parts.2) := by
  rw [access?, access?, namedChildren_bare]
  rcases tree.namedChildren with _ | ⟨receiver, _ | ⟨second, rest⟩⟩
  · rfl
  · rfl
  · simp only [List.map_cons, getLastD_map_bare, type_bare, between_bare, text_bare]
    split <;> rfl

theorem calleeAccess?_bare (source : Source) (tree : ParseTree) :
    calleeAccess? source tree.bare =
      (calleeAccess? source tree).map fun parts => (parts.1.bare, parts.2) := by
  rw [calleeAccess?, calleeAccess?, type_bare, access?_bare]
  split <;> rfl

theorem Tidy.ofAccess? (tidy : tree.Tidy) {receiver : ParseTree} {operator member : String}
    (found : tree.access? source = some (receiver, operator, member)) : receiver.Tidy := by
  unfold access? at found
  split at found
  · rename_i listed
    simp only at found
    split at found
    · cases found
      exact tidy.ofNamed (listed ▸ List.mem_cons_self)
    · cases found
  · cases found

theorem Tidy.ofCalleeAccess? (tidy : tree.Tidy) {receiver : ParseTree} {operator member : String}
    (found : calleeAccess? source tree = some (receiver, operator, member)) : receiver.Tidy := by
  unfold calleeAccess? at found
  split at found
  · exact tidy.ofAccess? found
  · cases found

theorem Tidy.ofOperands? (tidy : tree.Tidy) {left right : ParseTree}
    (found : tree.operands? = some (left, right)) : left.Tidy ∧ right.Tidy := by
  unfold operands? at found
  split at found
  · rename_i leftFound rightFound
    cases found
    exact ⟨tidy.ofField leftFound, tidy.ofField rightFound⟩
  · split at found
    · rename_i listed
      cases found
      exact ⟨tidy.ofNamed (listed ▸ List.mem_cons_self),
        tidy.ofNamed (listed ▸ List.mem_cons_of_mem _ List.getLastD_mem_cons)⟩
    · cases found

theorem Tidy.spreadValue {value : ParseTree} (tidy : value.Tidy) (spread : Bool) :
    (spreadValue value spread).1.Tidy := by
  rw [ParseTree.spreadValue]
  split
  · cases last : value.namedChildren.getLast? with
    | none => exact tidy
    | some inner => exact tidy.ofNamed (List.mem_of_getLast? last)
  · exact tidy

theorem Tidy.ofPassedArgument? (tidy : tree.Tidy) {parts : ArgumentParts}
    (found : passedArgument? tree = some parts) : parts.value.Tidy := by
  unfold passedArgument? at found
  split at found
  · unfold argumentParts? at found
    split at found
    · cases found
    · rename_i first rest listed
      cases found
      apply Tidy.spreadValue
      have member : rest.getLastD first ∈ first :: rest := List.getLastD_mem_cons
      rw [← listed] at member
      exact tidy.ofNamed (List.mem_filter.mp member).1
  · cases found

theorem Tidy.blockStatements (tidy : tree.Tidy) : ∀ part ∈ tree.blockStatements, part.Tidy := by
  rw [ParseTree.blockStatements]
  split
  · exact fun _ => tidy.ofNamed
  · cases found : tree.child? "block" with
    | none => rintro _ ⟨⟩
    | some block => exact fun _ => (tidy.ofChild? found).ofNamed

theorem Tidy.memberTrees (tidy : tree.Tidy) : ∀ part ∈ tree.memberTrees, part.Tidy := by
  rw [ParseTree.memberTrees]
  cases found : (tree.child? "class_body").or (tree.child? "enum_class_body") with
  | none => rintro _ ⟨⟩
  | some body =>
      have tidyBody : body.Tidy := by
        rcases Option.or_eq_some_iff.mp found with isBody | ⟨_, isBody⟩
        · exact tidy.ofChild? isBody
        · exact tidy.ofChild? isBody
      exact fun _ member => tidyBody.ofNamed (List.mem_filter.mp member).1

theorem Tidy.constructorParameters (tidy : tree.Tidy) :
    ∀ part ∈ tree.constructorParameters, part.Tidy := by
  rw [ParseTree.constructorParameters]
  cases found : tree.child? "primary_constructor" with
  | none => rintro _ ⟨⟩
  | some primary => exact tidy_descendants _ primary (tidy.ofChild? found)

/-- The parts of an argument without the comments in them. -/
def ArgumentParts.bare (parts : ArgumentParts) : ArgumentParts :=
  ⟨parts.name.map ParseTree.bare, parts.value.bare, parts.spread⟩

theorem spreadValue_bare (value : ParseTree) (spread : Bool) :
    spreadValue value.bare spread =
      ((spreadValue value spread).1.bare, (spreadValue value spread).2) := by
  rw [spreadValue, spreadValue, type_bare, namedChildren_bare, List.getLast?_map]
  split
  · cases value.namedChildren.getLast? <;> rfl
  · rfl

theorem passedArgument?_bare (tree : ParseTree) :
    passedArgument? tree.bare = (passedArgument? tree).map ArgumentParts.bare := by
  rw [passedArgument?, passedArgument?, type_bare]
  split
  · rw [argumentParts?, argumentParts?, namedChildren_bare, List.filter_map,
      hasToken_bare tree rfl, hasToken_bare tree rfl]
    simp only [Function.comp_def, type_bare]
    cases tree.namedChildren.filter (·.type != "annotation") with
    | nil => rfl
    | cons first rest =>
        simp only [List.map_cons, getLastD_map_bare, spreadValue_bare, Option.map_some,
          ArgumentParts.bare, List.isEmpty_map]
        split <;> rfl
  · rfl

end ParseTree

/-! ## Conversions that rest on those of smaller trees -/

/-- Tidy trees smaller than a bound are converted alike with and without their
comments. -/
structure SameBelow (source : Source) (bound : Nat) : Prop where
  expression : ∀ tree, sizeOf tree < bound → tree.Tidy →
    expression source tree.bare = expression source tree
  statement : ∀ tree, sizeOf tree < bound → tree.Tidy →
    statement source tree.bare = statement source tree
  declaration : ∀ tree, sizeOf tree < bound → tree.Tidy →
    declaration source tree.bare = declaration source tree

namespace SameBelow

variable {source : Source} {tree : ParseTree} {trees : List ParseTree} {bound : Nat}

theorem mono {smaller : Nat} (same : SameBelow source bound) (le : smaller ≤ bound) :
    SameBelow source smaller where
  expression tree small := same.expression tree (Nat.lt_of_lt_of_le small le)
  statement tree small := same.statement tree (Nat.lt_of_lt_of_le small le)
  declaration tree small := same.declaration tree (Nat.lt_of_lt_of_le small le)

theorem statements (same : SameBelow source bound) (small : sizeOf trees ≤ bound)
    (tidy : ∀ tree ∈ trees, tree.Tidy) :
    statements source (trees.map bare) = statements source trees := by
  induction trees with
  | nil => rfl
  | cons tree rest ih =>
      rw [List.cons.sizeOf_spec] at small
      rw [List.forall_mem_cons] at tidy
      rw [List.map_cons, Kotlin.statements, Kotlin.statements,
        same.statement tree (by omega) tidy.1, ih (by omega) tidy.2]

theorem declarations (same : SameBelow source bound) (small : sizeOf trees ≤ bound)
    (tidy : ∀ tree ∈ trees, tree.Tidy) :
    declarations source (trees.map bare) = declarations source trees := by
  induction trees with
  | nil => rfl
  | cons tree rest ih =>
      rw [List.cons.sizeOf_spec] at small
      rw [List.forall_mem_cons] at tidy
      rw [List.map_cons, Kotlin.declarations, Kotlin.declarations,
        same.declaration tree (by omega) tidy.1, ih (by omega) tidy.2]

theorem lambda (same : SameBelow source (sizeOf tree)) (tidy : tree.Tidy) :
    lambda source tree.bare = lambda source tree := by
  rw [Kotlin.lambda, Kotlin.lambda, lambdaStatements_bare, lambdaParams_bare,
    same.statements (Nat.le_of_lt tree.sizeOf_lambdaStatements_lt)]
  exact fun _ member => tidy.ofNamed (List.mem_filter.mp member).1

theorem trailingLambda (same : SameBelow source (sizeOf tree)) (tidy : tree.Tidy) :
    trailingLambda source tree.bare = trailingLambda source tree := by
  rw [Kotlin.trailingLambda, Kotlin.trailingLambda, child?_bare tree rfl]
  cases found : tree.child? "lambda_literal" with
  | none => rfl
  | some literal =>
      have inner := (same.mono (Nat.le_of_lt (sizeOf_child?_lt found))).lambda
        (tidy.ofChild? found)
      simp only [Option.map_some, inner]

theorem arguments (same : SameBelow source bound) (small : sizeOf trees ≤ bound)
    (tidy : ∀ tree ∈ trees, tree.Tidy) :
    arguments source (trees.map bare) = arguments source trees := by
  induction trees with
  | nil => rfl
  | cons tree rest ih =>
      rw [List.cons.sizeOf_spec] at small
      rw [List.forall_mem_cons] at tidy
      rw [List.map_cons, Kotlin.arguments, Kotlin.arguments, passedArgument?_bare,
        ih (by omega) tidy.2]
      cases found : passedArgument? tree with
      | none => rfl
      | some parts =>
          have size := sizeOf_passedArgument?_lt found
          have value := same.expression parts.value (by omega) (tidy.1.ofPassedArgument? found)
          simp only [Option.map_some, ArgumentParts.bare, value, textOf?_bare]

theorem callSuffix (same : SameBelow source bound) (small : sizeOf trees ≤ bound)
    (tidy : ∀ tree ∈ trees, tree.Tidy) (suffix : CallSuffix) :
    callSuffix source suffix (trees.map bare) = callSuffix source suffix trees := by
  induction trees generalizing suffix with
  | nil => rfl
  | cons child rest ih =>
      rw [List.cons.sizeOf_spec] at small
      rw [List.forall_mem_cons] at tidy
      have inner := child.sizeOf_namedChildren_lt
      have args := same.arguments (Nat.le_trans (Nat.le_of_lt inner) (by omega))
        fun _ => tidy.1.ofNamed
      have trailing := (same.mono (by omega)).trailingLambda tidy.1
      have later := ih (by omega) tidy.2
      rw [List.map_cons, Kotlin.callSuffix, Kotlin.callSuffix]
      simp only [type_bare, namedChildren_bare, text_bare, args, trailing, later]

theorem call (same : SameBelow source (sizeOf tree)) (tidy : tree.Tidy) :
    call source tree.bare = call source tree := by
  rw [Kotlin.call, Kotlin.call, namedChildren_bare]
  cases listed : tree.namedChildren with
  | nil =>
      rw [List.map_nil]
      simp only [unknownNode_bare]
  | cons first rest =>
      have size := tree.sizeOf_namedChildren_lt
      rw [listed, List.cons.sizeOf_spec] at size
      have tidyNamed : ∀ child ∈ first :: rest, child.Tidy :=
        fun child member => tidy.ofNamed (listed ▸ member)
      rw [List.forall_mem_cons] at tidyNamed
      have suffix := same.callSuffix (by omega) tidyNamed.2 .none
      rw [List.map_cons]
      simp only [suffix, unwrap_bare, type_bare, text_bare]
      congr 1
      funext suffix
      rw [unwrap_bare, calleeAccess?_bare]
      cases found : calleeAccess? source first.unwrap with
      | none => rfl
      | some parts =>
          obtain ⟨receiver, operator, member⟩ := parts
          have smaller := sizeOf_calleeAccess?_lt found
          have unwrapped := first.sizeOf_unwrap_le
          have converted := same.expression receiver (by omega)
            (tidyNamed.1.unwrap.ofCalleeAccess? found)
          simp only [Option.map_some, converted]

theorem expressionAt (same : SameBelow source (sizeOf tree)) (tidy : tree.Tidy) :
    expressionAt source tree.bare = expressionAt source tree := by
  rw [Kotlin.expressionAt, Kotlin.expressionAt, type_bare]
  cases ExprShape.ofType tree.type with
  | parenthesized =>
      simp only [unknownNode_bare]
      rw [namedChildren_bare]
      rcases listed : tree.namedChildren with _ | ⟨child, _ | ⟨second, rest⟩⟩
      · rw [List.map_nil]
      · have member : child ∈ tree.namedChildren := listed ▸ List.mem_singleton_self child
        rw [List.map_cons, List.map_nil]
        exact same.expression child (sizeOf_lt_of_mem_namedChildren member) (tidy.ofNamed member)
      · rw [List.map_cons, List.map_cons]
  | call => exact same.call tidy
  | navigation =>
      simp only [unknownNode_bare]
      rw [access?_bare]
      cases found : tree.access? source with
      | none => rfl
      | some parts =>
          obtain ⟨receiver, operator, member⟩ := parts
          have converted := same.expression receiver (sizeOf_access?_lt found)
            (tidy.ofAccess? found)
          simp only [Option.map_some, converted]
  | lambda => simp only [same.lambda tidy]
  | annotatedLambda =>
      simp only [unknownNode_bare]
      rw [child?_bare tree rfl]
      cases found : tree.child? "lambda_literal" with
      | none => rfl
      | some literal =>
          have inner := (same.mono (Nat.le_of_lt (sizeOf_child?_lt found))).lambda
            (tidy.ofChild? found)
          simp only [Option.map_some, inner]
  | binary =>
      simp only [unknownNode_bare]
      rw [operands?_bare tidy]
      cases found : tree.operands? with
      | none => rfl
      | some pair =>
          obtain ⟨left, right⟩ := pair
          obtain ⟨leftSize, rightSize⟩ := sizeOf_operands?_lt found
          obtain ⟨leftTidy, rightTidy⟩ := tidy.ofOperands? found
          have leftSame := same.expression left leftSize leftTidy
          have rightSame := same.expression right rightSize rightTidy
          simp only [Option.map_some, between_bare, leftSame, rightSame]
  | _ => simp only [identifierNode, referenceNode, unknownNode, text_bare, chars_bare, type_bare]

theorem optionalExpression (same : SameBelow source bound) {value : Option ParseTree}
    (small : sizeOf value ≤ bound) (tidy : ∀ tree, value = some tree → tree.Tidy) :
    optionalExpression source (value.map bare) = optionalExpression source value := by
  cases value with
  | none => rfl
  | some inner =>
      rw [Option.some.sizeOf_spec] at small
      rw [Option.map_some, Kotlin.optionalExpression, Kotlin.optionalExpression,
        same.expression inner (by omega) (tidy inner rfl)]

theorem functionBody (same : SameBelow source (sizeOf tree)) (tidy : tree.Tidy) :
    functionBody source tree.bare = functionBody source tree := by
  rw [Kotlin.functionBody, Kotlin.functionBody, child?_bare tree rfl]
  cases found : tree.child? "function_body" with
  | none => rfl
  | some body =>
      have size := sizeOf_child?_lt found
      have inner := body.sizeOf_blockStatements_lt
      have tidyBody := tidy.ofChild? found
      have block := same.statements (by omega) tidyBody.blockStatements
      simp only [Option.map_some, blockStatements_bare, block, text_bare]
      rw [hasChild_bare body rfl, namedChildren_bare]
      cases listed : body.namedChildren with
      | nil => rw [List.map_nil]
      | cons value rest =>
          have member : value ∈ body.namedChildren := listed ▸ List.mem_cons_self
          have smaller := sizeOf_lt_of_mem_namedChildren member
          rw [List.map_cons]
          simp only [same.expression value (by omega) (tidyBody.ofNamed member)]

theorem params (same : SameBelow source bound) (small : sizeOf trees ≤ bound)
    (tidy : ∀ tree ∈ trees, tree.Tidy) :
    params source (trees.map bare) = params source trees := by
  induction trees with
  | nil => rfl
  | cons tree following ih =>
      rw [List.cons.sizeOf_spec] at small
      rw [List.forall_mem_cons] at tidy
      have others := ih (by omega) tidy.2
      cases following with
      | nil =>
          rw [List.map_cons, List.map_nil, Kotlin.params, Kotlin.params]
          simp only [type_bare, paramOf_bare]
      | cons next rest =>
          rw [List.cons.sizeOf_spec] at small
          rw [List.map_cons] at others
          have value := same.expression next (by omega) (tidy.2 next List.mem_cons_self)
          rw [List.map_cons, List.map_cons, Kotlin.params, Kotlin.params]
          simp only [type_bare, paramOf_bare, others, value]

theorem functionParams (same : SameBelow source (sizeOf tree)) (tidy : tree.Tidy) :
    functionParams source tree.bare = functionParams source tree := by
  rw [Kotlin.functionParams, Kotlin.functionParams, child?_bare tree rfl]
  cases found : tree.child? "function_value_parameters" with
  | none => rfl
  | some list =>
      have size := sizeOf_child?_lt found
      have inner := list.sizeOf_namedChildren_lt
      have converted := same.params (by omega) fun _ => (tidy.ofChild? found).ofNamed
      simp only [Option.map_some, namedChildren_bare, converted]

theorem function (same : SameBelow source (sizeOf tree)) (tidy : tree.Tidy) :
    function source tree.bare = function source tree := by
  rw [Kotlin.function, Kotlin.function, same.functionBody tidy, same.functionParams tidy,
    functionName_bare source tidy, returnType?_bare, text_bare]

theorem secondaryConstructor (same : SameBelow source (sizeOf tree)) (tidy : tree.Tidy) :
    secondaryConstructor source tree.bare = secondaryConstructor source tree := by
  rw [Kotlin.secondaryConstructor, Kotlin.secondaryConstructor, same.functionParams tidy,
    blockStatements_bare, text_bare,
    same.statements (Nat.le_of_lt tree.sizeOf_blockStatements_lt) tidy.blockStatements]

theorem propertyDelegate (same : SameBelow source (sizeOf tree)) (tidy : tree.Tidy) :
    propertyDelegate source tree.bare = propertyDelegate source tree := by
  rw [Kotlin.propertyDelegate, Kotlin.propertyDelegate, child?_bare tree rfl]
  cases found : tree.child? "property_delegate" with
  | none => rfl
  | some delegate =>
      have size := sizeOf_child?_lt found
      simp only [Option.map_some]
      rw [namedChildren_bare]
      cases listed : delegate.namedChildren with
      | nil => rw [List.map_nil]
      | cons value rest =>
          have member : value ∈ delegate.namedChildren := listed ▸ List.mem_cons_self
          have smaller := sizeOf_lt_of_mem_namedChildren member
          rw [List.map_cons]
          simp only [same.expression value (by omega) ((tidy.ofChild? found).ofNamed member)]

theorem property (same : SameBelow source (sizeOf tree)) (tidy : tree.Tidy) :
    property source tree.bare = property source tree := by
  rw [Kotlin.property, Kotlin.property, same.propertyDelegate tidy, afterToken?_bare tree rfl,
    same.optionalExpression (Nat.le_of_lt (tree.sizeOf_afterToken?_option_lt "="))
      fun _ => tidy.ofAfterToken?,
    propertyName_bare, propertyType?_bare, isMutable_bare, text_bare]

theorem constructorProperties (same : SameBelow source bound) (small : sizeOf trees ≤ bound)
    (tidy : ∀ tree ∈ trees, tree.Tidy) :
    constructorProperties source (trees.map bare) = constructorProperties source trees := by
  induction trees with
  | nil => rfl
  | cons param rest ih =>
      rw [List.cons.sizeOf_spec] at small
      rw [List.forall_mem_cons] at tidy
      have size := param.sizeOf_afterToken?_option_lt "="
      have value := same.optionalExpression (Nat.le_trans (Nat.le_of_lt size) (by omega))
        fun _ => tidy.1.ofAfterToken?
      rw [List.map_cons, Kotlin.constructorProperties, Kotlin.constructorProperties,
        binding?_bare, child?_bare param rfl, afterToken?_bare param rfl, value,
        ih (by omega) tidy.2]
      cases param.binding? <;> cases param.child? "identifier" <;>
        simp only [Option.map_none, Option.map_some, text_bare, declaredType?_bare]

theorem structured (same : SameBelow source (sizeOf tree)) (tidy : tree.Tidy) (form : String) :
    structured source form tree.bare = structured source form tree := by
  rw [Kotlin.structured, Kotlin.structured, constructorParameters_bare tidy, memberTrees_bare,
    same.constructorProperties (Nat.le_of_lt tree.sizeOf_constructorParameters_lt)
      tidy.constructorParameters,
    same.declarations (Nat.le_of_lt tree.sizeOf_memberTrees_lt) tidy.memberTrees,
    structuredName_bare source tidy, supertypes_bare source tidy]

theorem declarationAt (same : SameBelow source (sizeOf tree)) (tidy : tree.Tidy) :
    declarationAt source tree.bare = declarationAt source tree := by
  rw [Kotlin.declarationAt, Kotlin.declarationAt, type_bare]
  cases DeclShape.ofType tree.type with
  | classLike => simp only [classForm_bare, same.structured tidy]
  | object => simp only [same.structured tidy]
  | companion => simp only [same.structured tidy]
  | function => simp only [same.function tidy]
  | property => simp only [same.property tidy]
  | initializer =>
      simp only [blockStatements_bare,
        same.statements (Nat.le_of_lt tree.sizeOf_blockStatements_lt) tidy.blockStatements]
  | constructor => simp only [same.secondaryConstructor tidy]
  | expression => exact same.expressionAt tidy

/-- Comments do not show in the conversion of any tidy tree. -/
theorem all (source : Source) (bound : Nat) : SameBelow source bound := by
  induction bound with
  | zero => exact ⟨by omega, by omega, by omega⟩
  | succ bound ih =>
      have unwrapped : ∀ tree : ParseTree, sizeOf tree < bound + 1 →
          SameBelow source (sizeOf tree.unwrap) := by
        intro tree small
        have size := tree.sizeOf_unwrap_le
        exact ih.mono (by omega)
      refine ⟨fun tree small tidy => ?_, fun tree small tidy => ?_, fun tree small tidy => ?_⟩
      · rw [Kotlin.expression, Kotlin.expression, unwrap_bare]
        exact (unwrapped tree small).expressionAt tidy.unwrap
      · rw [Kotlin.statement, Kotlin.statement, unwrap_bare, type_bare,
          (unwrapped tree small).declarationAt tidy.unwrap,
          (unwrapped tree small).expressionAt tidy.unwrap]
      · rw [Kotlin.declaration, Kotlin.declaration, unwrap_bare]
        exact (unwrapped tree small).declarationAt tidy.unwrap

end SameBelow

/-! ## Files -/

theorem packageName?_bare (source : Source) (trees : List ParseTree) :
    packageName? source (trees.map bare) = packageName? source trees := by
  rw [packageName?, packageName?, ← List.map_reverse, List.find?_map, Option.map_map]
  simp only [Function.comp_def, type_bare, chars_bare]

theorem importNames_bare (source : Source) (trees : List ParseTree) :
    importNames source (trees.map bare) = importNames source trees := by
  rw [importNames, importNames, List.filter_map, List.map_map]
  simp only [Function.comp_def, type_bare, chars_bare]

theorem sourceFile_bare (source : Source) {tree : ParseTree} (tidy : tree.Tidy)
    (path : Option String) : sourceFile source tree.bare path = sourceFile source tree path := by
  have decls : declarations source ((tree.namedChildren.map bare).filter isTopLevelDecl) =
      declarations source (tree.namedChildren.filter isTopLevelDecl) := by
    rw [List.filter_map]
    simp only [Function.comp_def, isTopLevelDecl, type_bare]
    exact (SameBelow.all source _).declarations (Nat.le_refl _)
      fun _ member => tidy.ofNamed (List.mem_filter.mp member).1
  rw [sourceFile, sourceFile, namedChildren_bare, decls, packageName?_bare, importNames_bare]

/-- A file is converted to the same syntax tree, with the same remarks, whatever
comments are put into its parse tree or taken out of it. -/
theorem sourceFile_eq_of_differsInComments (source : Source) {tree other : ParseTree}
    (tidy : tree.Tidy) (differs : DiffersInComments tree other) (path : Option String) :
    sourceFile source other path = sourceFile source tree path := by
  obtain ⟨tidyIff, sameBare⟩ := differs.bare_eq
  calc sourceFile source other path
      = sourceFile source other.bare path := (sourceFile_bare source (tidyIff.mpr tidy) path).symm
    _ = sourceFile source tree.bare path := by rw [sameBare]
    _ = sourceFile source tree path := sourceFile_bare source tidy path

/-- A node of a parse tree without children. -/
def leafTree (type : String) (named : Bool) (start stop : Nat) : ParseTree :=
  ⟨type, named, start, stop, [], none, none, none⟩

/-- The bytes of `val x = a /**/ + b`. -/
def sumSource : Source :=
  [118, 97, 108, 32, 120, 32, 61, 32, 97, 32, 47, 42, 42, 47, 32, 43, 32, 98]

/-- A file whose only property is initialized to a sum. -/
def sumFile (sum : ParseTree) : ParseTree :=
  ⟨"source_file", true, 0, 18,
    [⟨"property_declaration", true, 0, 18,
      [leafTree "val" false 0 3, leafTree "identifier" true 4 5, leafTree "=" false 6 7, sum],
      none, none, none⟩],
    none, none, none⟩

/-- A sum whose fields point to its operands. -/
def sumTree : ParseTree :=
  ⟨"binary_expression", true, 8, 18,
    [leafTree "identifier" true 8 9, leafTree "+" false 15 16, leafTree "identifier" true 17 18],
    none, some 0, some 2⟩

/-- The same sum with a comment before its operator. -/
def remarkedSumTree : ParseTree :=
  ⟨"binary_expression", true, 8, 18,
    [leafTree "identifier" true 8 9, leafTree "block_comment" true 10 14,
      leafTree "+" false 15 16, leafTree "identifier" true 17 18],
    none, some 0, some 3⟩

theorem sourceFile_remarkedSum :
    (sumFile sumTree).Tidy ∧ DiffersInComments (sumFile sumTree) (sumFile remarkedSumTree) ∧
      sourceFile sumSource (sumFile remarkedSumTree) none =
        sourceFile sumSource (sumFile sumTree) none := by
  have tidySum : sumTree.Tidy := by
    refine ⟨by decide, by decide, ?_⟩
    simp only [sumTree, List.forall_mem_cons]
    exact ⟨tidy_of_leaf rfl, tidy_of_leaf rfl, tidy_of_leaf rfl, by rintro _ ⟨⟩⟩
  have tidyFile : (sumFile sumTree).Tidy := by
    refine ⟨by decide, by decide, ?_⟩
    simp only [sumFile, List.forall_mem_singleton]
    refine ⟨by decide, by decide, ?_⟩
    simp only [List.forall_mem_cons]
    exact ⟨tidy_of_leaf rfl, tidy_of_leaf rfl, tidy_of_leaf rfl, tidySum, by rintro _ ⟨⟩⟩
  have remarked : AddsComment sumTree remarkedSumTree :=
    @AddsComment.here _ (leafTree "block_comment" true 10 14) [_] _ rfl (by decide) rfl
  have differs : DiffersInComments (sumFile sumTree) (sumFile remarkedSumTree) :=
    .rel _ _ (@AddsComment.inside _ _ _ [] _ rfl
      (@AddsComment.inside _ _ _ [_, _, _] _ rfl remarked))
  exact ⟨tidyFile, differs, sourceFile_eq_of_differsInComments sumSource tidyFile differs none⟩
end ViewOutline.Kotlin
