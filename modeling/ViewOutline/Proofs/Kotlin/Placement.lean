import ViewOutline.Kotlin.Conversion
import ViewOutline.Proofs.Placement

/-!
# What stands where in a converted file

Conversion puts every node where it may stand, on every parse tree, well formed or
not.  Each function of the conversion is read once, under the assumption that
smaller trees are converted as they should.  The assumption then goes away by
induction on the size of the tree.
-/

namespace ViewOutline.Kotlin

open ParseTree

variable {source : Source} {tree : ParseTree} {trees : List ParseTree} {bound : Nat}

/-! ## Leaves -/

theorem fits_identifierNode (source : Source) (tree : ParseTree) :
    (identifierNode source tree).Fits .operand := by
  simp only [identifierNode, keywordKind?]
  split
  · rename_i kind found
    apply Node.fits_literal
    split at found
    · cases found
      decide
    · split at found
      · cases found
        decide
      · cases found
  · exact Node.fits_name _

theorem fits_unknownNode (source : Source) (tree : ParseTree) :
    (unknownNode source tree).Fits .operand :=
  Node.fits_unknown _ _

theorem numberKind_mem_documented (text : List Char) :
    numberKind text ∈ LiteralKind.documented := by
  rw [numberKind]
  split
  · decide
  · split <;> decide

theorem documented_of_ofType {type : String} {kind : LiteralKind}
    (shape : ExprShape.ofType type = .literal kind) : kind ∈ LiteralKind.documented := by
  have listed : ∀ entry ∈ literalKinds, entry.2 ∈ LiteralKind.documented := by decide
  unfold ExprShape.ofType at shape
  iterate 3
    rcases ite_eq_iff.mp shape with ⟨_, ⟨⟩⟩ | ⟨_, shape⟩
  cases found : literalKinds.lookup type with
  | some known =>
      rw [found] at shape
      cases shape
      obtain ⟨before, after, split, _⟩ := List.lookup_eq_some_iff.mp found
      exact listed (type, kind) (split ▸ List.mem_append_right _ List.mem_cons_self)
  | none =>
      rw [found] at shape
      iterate 8
        rcases ite_eq_iff.mp shape with ⟨_, ⟨⟩⟩ | ⟨_, shape⟩
      cases shape

theorem tight_between (source : Source) (parent left right : ParseTree) :
    Text.Tight Text.isBlank (between source parent left right).toList := by
  rw [between, String.toList_ofList]
  exact (Text.trims_trim _).toTight

/-- The operator of a member access is written out. -/
theorem access?_operator {receiver : ParseTree} {operator member : String}
    (found : tree.access? source = some (receiver, operator, member)) :
    operator ≠ "" ∧ Text.Tight Text.isBlank operator.toList := by
  unfold access? at found
  split at found
  · rename_i first second rest _
    simp only at found
    split at found
    · cases found
      split
      · refine ⟨by decide, ?_, ?_⟩
        · rintro _ ⟨⟩
          rfl
        · rintro _ ⟨⟩
          rfl
      · rename_i written
        exact ⟨written, tight_between _ _ _ _⟩
    · cases found
  · cases found

/-! ## Conversions that rest on those of smaller trees -/

/-- Trees smaller than a bound are converted to what fits. -/
structure FitsBelow (source : Source) (bound : Nat) : Prop where
  expression : ∀ tree, sizeOf tree < bound → (expression source tree).value.Fits .operand
  statement : ∀ tree, sizeOf tree < bound → (statement source tree).value.Fits .statement
  declaration : ∀ tree, sizeOf tree < bound → (declaration source tree).value.Fits .member

namespace FitsBelow

theorem mono {smaller : Nat} (below : FitsBelow source bound) (le : smaller ≤ bound) :
    FitsBelow source smaller where
  expression tree small := below.expression tree (Nat.lt_of_lt_of_le small le)
  statement tree small := below.statement tree (Nat.lt_of_lt_of_le small le)
  declaration tree small := below.declaration tree (Nat.lt_of_lt_of_le small le)

theorem statements (below : FitsBelow source bound) (small : sizeOf trees ≤ bound) :
    ∀ node ∈ (statements source trees).value, node.Fits .statement := by
  induction trees with
  | nil => simp [Kotlin.statements]
  | cons tree rest ih =>
      rw [List.cons.sizeOf_spec] at small
      simp only [Kotlin.statements, Logged.value_bind, Logged.value_pure, List.forall_mem_cons]
      exact ⟨below.statement tree (by omega), ih (by omega)⟩

theorem declarations (below : FitsBelow source bound) (small : sizeOf trees ≤ bound) :
    ∀ node ∈ (declarations source trees).value, node.Fits .member := by
  induction trees with
  | nil => simp [Kotlin.declarations]
  | cons tree rest ih =>
      rw [List.cons.sizeOf_spec] at small
      simp only [Kotlin.declarations, Logged.value_bind, Logged.value_pure, List.forall_mem_cons]
      exact ⟨below.declaration tree (by omega), ih (by omega)⟩

theorem lambda (below : FitsBelow source (sizeOf tree)) :
    ∀ node ∈ (lambda source tree).value.body, node.Fits .statement := by
  rw [Kotlin.lambda]
  exact below.statements (Nat.le_of_lt tree.sizeOf_lambdaStatements_lt)

theorem trailingLambda (below : FitsBelow source (sizeOf tree)) {closure : Lambda}
    (written : (trailingLambda source tree).value = some closure) :
    ∀ node ∈ closure.body, node.Fits .statement := by
  rw [Kotlin.trailingLambda] at written
  split at written
  · rename_i literal found
    cases written
    exact (below.mono (Nat.le_of_lt (sizeOf_child?_lt found))).lambda
  · cases written

theorem arguments (below : FitsBelow source bound) (small : sizeOf trees ≤ bound) :
    ∀ argument ∈ (arguments source trees).value, argument.value.Fits .operand := by
  induction trees with
  | nil => simp [Kotlin.arguments]
  | cons tree rest ih =>
      rw [List.cons.sizeOf_spec] at small
      have others := ih (by omega)
      rw [Kotlin.arguments]
      split
      · rename_i parts found
        have smaller := sizeOf_passedArgument?_lt found
        simp only [Logged.value_bind, Logged.value_pure, List.forall_mem_cons]
        exact ⟨below.expression parts.value (by omega), others⟩
      · exact others

/-- The parts of a call that follow its callee fit. -/
structure Suffix (suffix : CallSuffix) : Prop where
  args : ∀ argument ∈ suffix.args, argument.value.Fits .operand
  trailing : ∀ closure, suffix.trailing = some closure →
    ∀ node ∈ closure.body, node.Fits .statement

theorem Suffix.callOf {suffix : CallSuffix} (fits : Suffix suffix) (name : String) :
    (suffix.callOf name).Fits .operand :=
  Node.fits_call fits.args fits.trailing

theorem callSuffix (below : FitsBelow source bound) (small : sizeOf trees ≤ bound)
    {suffix : CallSuffix} (fits : Suffix suffix) :
    Suffix (callSuffix source suffix trees).value := by
  induction trees generalizing suffix with
  | nil =>
      rw [Kotlin.callSuffix]
      exact fits
  | cons child rest ih =>
      rw [List.cons.sizeOf_spec] at small
      have later : ∀ {next : CallSuffix}, Suffix next →
          Suffix (Kotlin.callSuffix source next rest).value := ih (by omega)
      rw [Kotlin.callSuffix]
      split
      · have inner := child.sizeOf_namedChildren_lt
        exact later ⟨below.arguments (by omega), fits.trailing⟩
      · split
        · exact later ⟨fits.args, fun _ => (below.mono (by omega)).trailingLambda⟩
        · split
          · exact later ⟨fits.args, fits.trailing⟩
          · exact later fits

theorem call (below : FitsBelow source (sizeOf tree)) :
    (call source tree).value.Fits .operand := by
  rw [Kotlin.call]
  split
  · exact fits_unknownNode source tree
  · rename_i first rest listed
    have size := tree.sizeOf_namedChildren_lt
    rw [listed, List.cons.sizeOf_spec] at size
    have suffix : Suffix (Kotlin.callSuffix source .none rest).value :=
      below.callSuffix (by omega) ⟨by rintro _ ⟨⟩, by rintro _ ⟨⟩⟩
    simp only [Logged.value_bind]
    split
    · exact suffix.callOf _
    · split
      · rename_i receiver operator member found
        have smaller := sizeOf_calleeAccess?_lt found
        have unwrapped := first.sizeOf_unwrap_le
        have access : first.unwrap.access? source = some (receiver, operator, member) := by
          unfold calleeAccess? at found
          split at found
          · exact found
          · cases found
        exact Node.fits_binary (access?_operator access)
          (below.expression receiver (by omega)) (suffix.callOf member)
      · exact suffix.callOf _

/-- A tree that stands for an expression is converted to one. -/
theorem expressionAt (below : FitsBelow source (sizeOf tree)) :
    (expressionAt source tree).value.Fits .operand := by
  rw [Kotlin.expressionAt]
  cases shape : ExprShape.ofType tree.type with
  | identifier => exact fits_identifierNode source tree
  | selfReference => exact Node.fits_name _
  | number => exact Node.fits_literal _ (numberKind_mem_documented _)
  | literal kind => exact Node.fits_literal _ (documented_of_ofType shape)
  | parenthesized =>
      simp only
      split
      · rename_i child listed
        exact below.expression child
          (sizeOf_lt_of_mem_namedChildren (listed ▸ List.mem_singleton_self _))
      · exact fits_unknownNode source tree
  | call => exact below.call
  | navigation =>
      simp only
      split
      · rename_i receiver operator member found
        exact Node.fits_binary (access?_operator found)
          (below.expression receiver (sizeOf_access?_lt found)) (Node.fits_name member)
      · exact fits_unknownNode source tree
  | reference => exact Node.fits_reference _ _
  | lambda => exact Node.fits_lambda below.lambda
  | annotatedLambda =>
      simp only
      split
      · rename_i literal found
        exact Node.fits_lambda (below.mono (Nat.le_of_lt (sizeOf_child?_lt found))).lambda
      · exact fits_unknownNode source tree
  | binary =>
      simp only
      split
      · rename_i left right found
        obtain ⟨leftSize, rightSize⟩ := sizeOf_operands?_lt found
        split
        · exact fits_unknownNode source tree
        · rename_i written
          exact Node.fits_binary ⟨written, tight_between _ _ _ _⟩
            (below.expression left leftSize) (below.expression right rightSize)
      · exact fits_unknownNode source tree
  | typeName => exact Node.fits_name _
  | other => exact fits_unknownNode source tree

theorem optionalExpression (below : FitsBelow source bound) {value : Option ParseTree}
    (small : sizeOf value ≤ bound) {node : Node}
    (written : (optionalExpression source value).value = some node) : node.Fits .operand := by
  cases value with
  | none =>
      rw [Kotlin.optionalExpression] at written
      cases written
  | some inner =>
      rw [Option.some.sizeOf_spec] at small
      rw [Kotlin.optionalExpression] at written
      cases written
      exact below.expression inner (by omega)

theorem functionBody (below : FitsBelow source (sizeOf tree)) {node : Node}
    (written : (functionBody source tree).value = some node) : node.Fits .body := by
  rw [Kotlin.functionBody] at written
  split at written
  · cases written
  · rename_i body found
    have size := sizeOf_child?_lt found
    split at written
    · split at written
      · rename_i value rest listed
        cases written
        have inner : sizeOf value < sizeOf body :=
          sizeOf_lt_of_mem_namedChildren (listed ▸ List.mem_cons_self)
        exact (below.expression value (by omega)).ofOperand .body
      · cases written
        exact (Node.fits_unknown _ _).ofOperand .body
    · cases written
      have inner := body.sizeOf_blockStatements_lt
      exact Node.fits_block (below.statements (by omega))

theorem params (below : FitsBelow source bound) (small : sizeOf trees ≤ bound) :
    ∀ param ∈ (params source trees).value,
      ∀ node, param.default = some node → node.Fits .operand := by
  induction trees with
  | nil => simp [Kotlin.params]
  | cons tree following ih =>
      rw [List.cons.sizeOf_spec] at small
      have others := ih (by omega)
      cases following with
      | nil =>
          rw [Kotlin.params]
          split <;> simp [paramOf]
      | cons next rest =>
          rw [List.cons.sizeOf_spec] at small
          rw [Kotlin.params]
          split
          · split
            · simp only [Logged.value_bind, Logged.value_pure, List.forall_mem_cons]
              exact ⟨by rintro _ ⟨⟩, others⟩
            · simp only [Logged.value_bind, Logged.value_pure, List.forall_mem_cons]
              refine ⟨?_, others⟩
              rintro _ ⟨⟩
              exact below.expression next (by omega)
          · exact others

theorem functionParams (below : FitsBelow source (sizeOf tree)) :
    ∀ param ∈ (functionParams source tree).value,
      ∀ node, param.default = some node → node.Fits .operand := by
  rw [Kotlin.functionParams]
  split
  · rename_i list found
    have size := sizeOf_child?_lt found
    have inner := list.sizeOf_namedChildren_lt
    exact below.params (by omega)
  · rintro _ ⟨⟩

theorem function (below : FitsBelow source (sizeOf tree)) :
    (Node.function (function source tree).value).Fits .statement := by
  rw [Kotlin.function]
  exact Node.fits_function rfl below.functionParams fun _ => below.functionBody

theorem secondaryConstructor (below : FitsBelow source (sizeOf tree)) :
    (Node.function (secondaryConstructor source tree).value).Fits .statement := by
  rw [Kotlin.secondaryConstructor]
  refine Node.fits_function rfl below.functionParams ?_
  rintro _ ⟨⟩
  exact Node.fits_block (below.statements (Nat.le_of_lt tree.sizeOf_blockStatements_lt))

theorem propertyDelegate (below : FitsBelow source (sizeOf tree)) {node : Node}
    (written : (propertyDelegate source tree).value = some node) : node.Fits .operand := by
  rw [Kotlin.propertyDelegate] at written
  split at written
  · rename_i delegate found
    have size := sizeOf_child?_lt found
    split at written
    · rename_i value rest listed
      cases written
      have inner : sizeOf value < sizeOf delegate :=
        sizeOf_lt_of_mem_namedChildren (listed ▸ List.mem_cons_self)
      exact below.expression value (by omega)
    · cases written
  · cases written

theorem property (below : FitsBelow source (sizeOf tree)) :
    (Node.property (property source tree).value).Fits .statement := by
  rw [Kotlin.property]
  refine Node.fits_property rfl ?_ fun _ => below.propertyDelegate
  exact fun _ => below.optionalExpression (Nat.le_of_lt (tree.sizeOf_afterToken?_option_lt "="))

theorem constructorProperties (below : FitsBelow source bound) (small : sizeOf trees ≤ bound) :
    ∀ node ∈ (constructorProperties source trees).value, node.Fits .member := by
  induction trees with
  | nil => simp [Kotlin.constructorProperties]
  | cons param rest ih =>
      rw [List.cons.sizeOf_spec] at small
      have others := ih (by omega)
      rw [Kotlin.constructorProperties]
      split
      · have size := param.sizeOf_afterToken?_option_lt "="
        simp only [Logged.value_bind, Logged.value_pure, List.forall_mem_cons]
        refine ⟨Node.Fits.member_of_statement (Node.fits_property rfl ?_ ?_), others⟩
        · exact fun _ => below.optionalExpression (by omega)
        · rintro _ ⟨⟩
      · exact others

/-- The members of a class fit, whatever introduces the class. -/
theorem structured (below : FitsBelow source (sizeOf tree)) (form : String) {role : Role}
    (admitted : role.admits (.structured (structured source form tree).value) = true) :
    (Node.structured (structured source form tree).value).Fits role := by
  refine Node.fits_structured admitted ?_
  rw [Kotlin.structured]
  intro node member
  rcases List.mem_append.mp member with isProperty | isMember
  · exact below.constructorProperties (Nat.le_of_lt tree.sizeOf_constructorParameters_lt)
      node isProperty
  · exact below.declarations (Nat.le_of_lt tree.sizeOf_memberTrees_lt) node isMember

theorem form_structured (source : Source) (form : String) (tree : ParseTree) :
    (Kotlin.structured source form tree).value.form = form := by
  rw [Kotlin.structured]
  rfl

theorem classForm_ne_companionForm (source : Source) (tree : ParseTree) :
    tree.classForm source ≠ StructuredDecl.companionForm := by
  rw [classForm]
  split
  · decide
  · split
    · split <;> decide
    · decide

/-- A declaration that may stand among statements is converted to what may stand
there too. -/
theorem declarationAt_local (below : FitsBelow source (sizeOf tree))
    (isLocal : (DeclShape.ofType tree.type).isLocal = true) :
    (declarationAt source tree).value.Fits .statement := by
  rw [Kotlin.declarationAt]
  cases shape : DeclShape.ofType tree.type with
  | classLike =>
      apply below.structured
      simp [Role.admits, Node.isBlock, Node.isFile, Node.isObjectPart, form_structured,
        classForm_ne_companionForm]
  | object =>
      apply below.structured
      simp [Role.admits, Node.isBlock, Node.isFile, Node.isObjectPart, form_structured,
        StructuredDecl.companionForm]
  | function => exact below.function
  | property => exact below.property
  | _ =>
      rw [shape] at isLocal
      cases isLocal

theorem declarationAt (below : FitsBelow source (sizeOf tree)) :
    (declarationAt source tree).value.Fits .member := by
  cases shape : DeclShape.ofType tree.type with
  | classLike | object | function | property =>
      exact (below.declarationAt_local (by rw [shape]; rfl)).member_of_statement
  | companion =>
      rw [Kotlin.declarationAt, shape]
      exact below.structured _ rfl
  | initializer =>
      rw [Kotlin.declarationAt, shape]
      exact Node.fits_initializer (below.statements (Nat.le_of_lt tree.sizeOf_blockStatements_lt))
  | constructor =>
      rw [Kotlin.declarationAt, shape]
      exact below.secondaryConstructor.member_of_statement
  | expression =>
      rw [Kotlin.declarationAt, shape]
      exact below.expressionAt.ofOperand .member

/-- Trees of any size are converted to what fits. -/
theorem all (source : Source) (bound : Nat) : FitsBelow source bound := by
  induction bound with
  | zero => exact ⟨by rintro _ ⟨⟩, by rintro _ ⟨⟩, by rintro _ ⟨⟩⟩
  | succ bound below =>
      have unwrapped : ∀ tree : ParseTree, sizeOf tree < bound + 1 →
          FitsBelow source (sizeOf tree.unwrap) := fun tree small =>
        below.mono (Nat.le_trans tree.sizeOf_unwrap_le (Nat.le_of_lt_succ small))
      constructor
      · intro tree small
        rw [Kotlin.expression]
        exact (unwrapped tree small).expressionAt
      · intro tree small
        rw [Kotlin.statement]
        split
        · rename_i isLocal
          exact (unwrapped tree small).declarationAt_local isLocal
        · exact (unwrapped tree small).expressionAt.ofOperand .statement
      · intro tree small
        rw [Kotlin.declaration]
        exact (unwrapped tree small).declarationAt

end FitsBelow

/-- In a converted file everything is in its place, whatever the parser delivered. -/
theorem sourceFile_orderly (source : Source) (root : ParseTree) (path : Option String) :
    (sourceFile source root path).value.Orderly := by
  have decls : ∀ node ∈ (sourceFile source root path).value.decls, node.Fits .topLevel := by
    intro node member
    have fits := (FitsBelow.all source _).declarations (Nat.le_refl _) node member
    exact ⟨fits.admitted, fits.sound⟩
  exact SourceFile.orderly_of_sound
    (Node.sound_of_fits trivial fun _ _ member => Node.fits_of_mem_map decls member)

end ViewOutline.Kotlin
