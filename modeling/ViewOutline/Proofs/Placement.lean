import ViewOutline.Proofs.Statement.Content
import ViewOutline.Proofs.Text.Trim

/-!
# What stands where in a syntax tree

Every node of a syntax tree but the root stands in a role below another node.  In
an orderly file the roles are kept apart: where a value is expected stands an
expression, a block stands only as the body of a function, and what initialises an
object stands only among declarations.

A node is sound if it fits, with all that stands below it, and each constructor of
nodes keeps what is put together sound.
-/

namespace ViewOutline

/-! ## Roles -/

/-- In what capacity a node stands below another. -/
inductive Role where
  /-- A declaration of a file. -/
  | topLevel
  /-- A member of a class or object. -/
  | member
  /-- A statement of a block, a lambda or an initialisation. -/
  | statement
  /-- An operand. -/
  | operand
  /-- The value of an argument. -/
  | argument
  /-- The default value of a parameter. -/
  | default
  /-- The initial value of a property. -/
  | initialValue
  /-- The delegate of a property. -/
  | delegate
  /-- The body of a function. -/
  | body
  deriving DecidableEq

/-- The nodes directly below a node, with their roles. -/
def Node.directlyBelow : Node → List (Role × Node)
  | .file root => root.decls.map (.topLevel, ·)
  | .structured decl => decl.members.map (.member, ·)
  | .property decl =>
      decl.initializer.toList.map (.initialValue, ·) ++ decl.delegate.toList.map (.delegate, ·)
  | .function decl =>
      (decl.params.flatMap fun param => param.default.toList.map (.default, ·)) ++
        decl.body.toList.map (.body, ·)
  | .initializer statements => statements.map (.statement, ·)
  | .block statements => statements.map (.statement, ·)
  | .lambda closure => closure.body.map (.statement, ·)
  | .call invoked =>
      invoked.args.map (fun argument => (.argument, argument.value)) ++
        invoked.trailing.toList.flatMap fun closure => closure.body.map (.statement, ·)
  | .binary left _ right => [(.operand, left), (.operand, right)]
  | _ => []

/-- A node stands in a role somewhere below a root. -/
inductive Node.Occurs (root : Node) : Role → Node → Prop
  | direct {role : Role} {node : Node} : (role, node) ∈ root.directlyBelow → Occurs root role node
  | further {role inner : Role} {outer node : Node} :
      Occurs root role outer → (inner, node) ∈ outer.directlyBelow → Occurs root inner node

/-- Whether a node is an expression. -/
def Node.isExpression : Node → Bool
  | .name _ | .literal .. | .reference .. | .call _ | .binary .. | .lambda _ | .unknown .. => true
  | _ => false

/-- Whether a node is a file. -/
def Node.isFile : Node → Bool
  | .file _ => true
  | _ => false

/-- Whether a node belongs to an object as a whole: an initialisation or a companion. -/
def Node.isObjectPart : Node → Bool
  | .initializer _ => true
  | .structured decl => decl.form == StructuredDecl.companionForm
  | _ => false

/-- Whether nodes of a role are declarations. -/
def Role.isDeclaring (role : Role) : Bool :=
  role == .topLevel || role == .member

/-- Whether nodes of a role have to be expressions. -/
def Role.isValue : Role → Bool
  | .operand | .argument | .default | .initialValue | .delegate => true
  | _ => false

/-- In a file every node stands where it may, and says what it should. -/
structure SourceFile.Orderly (file : SourceFile) : Prop where
  /-- A block is the body of a function. -/
  block : ∀ role node, (Node.file file).Occurs role node → node.isBlock = true → role = .body
  /-- Initialisations and companions stand among declarations. -/
  objectPart : ∀ role node, (Node.file file).Occurs role node → node.isObjectPart = true →
    role.isDeclaring = true
  /-- No file stands below another. -/
  root : ∀ role node, (Node.file file).Occurs role node → node.isFile = false
  /-- Where a value is expected stands an expression. -/
  value : ∀ role node, (Node.file file).Occurs role node → role.isValue = true →
    node.isExpression = true
  /-- The body of a function is a block or an expression. -/
  body : ∀ node, (Node.file file).Occurs .body node →
    node.isBlock = true ∨ node.isExpression = true
  /-- An operator is written out, without blanks around it. -/
  operator : ∀ role left operator right,
    (Node.file file).Occurs role (.binary left operator right) →
      operator ≠ "" ∧ Text.Tight Text.isBlank operator.toList
  /-- A literal is of a documented kind. -/
  literal : ∀ role value kind, (Node.file file).Occurs role (.literal value kind) →
    kind ∈ LiteralKind.documented
  property : ∀ role decl, (Node.file file).Occurs role (.property decl) → decl.text.isSome = true
  function : ∀ role decl, (Node.file file).Occurs role (.function decl) → decl.text.isSome = true
  unknown : ∀ role text kind, (Node.file file).Occurs role (.unknown text kind) →
    text.isSome = true

/-! ## Trees in which everything is in its place -/

/-- Whether a node may stand in a role. -/
def Role.admits : Role → Node → Bool
  | .topLevel, node => !node.isBlock && !node.isFile
  | .member, node => !node.isBlock && !node.isFile
  | .statement, node => !node.isBlock && !node.isFile && !node.isObjectPart
  | .body, node => node.isBlock || node.isExpression
  | _, node => node.isExpression

/-- A node says what a node of its shape should say. -/
def Node.IsComplete : Node → Prop
  | .binary _ operator _ => operator ≠ "" ∧ Text.Tight Text.isBlank operator.toList
  | .literal _ kind => kind ∈ LiteralKind.documented
  | .property decl => decl.text.isSome = true
  | .function decl => decl.text.isSome = true
  | .unknown text _ => text.isSome = true
  | _ => True

/-- A node is complete, and so is all that stands below it, each in a role that
admits it. -/
inductive Node.Sound : Node → Prop
  | intro {node : Node} :
      node.IsComplete →
      (∀ role inner, (role, inner) ∈ node.directlyBelow → role.admits inner = true) →
      (∀ role inner, (role, inner) ∈ node.directlyBelow → Sound inner) →
      Sound node

/-- A sound node stands in a role that admits it. -/
structure Node.Fits (role : Role) (node : Node) : Prop where
  admitted : role.admits node = true
  sound : node.Sound

theorem Node.Sound.complete {node : Node} (sound : node.Sound) : node.IsComplete := by
  cases sound with
  | intro complete _ _ => exact complete

/-- What stands directly below a sound node fits its role. -/
theorem Node.Sound.fits {node : Node} (sound : node.Sound) {role : Role} {inner : Node}
    (member : (role, inner) ∈ node.directlyBelow) : inner.Fits role := by
  cases sound with
  | intro _ admitted soundBelow => exact ⟨admitted _ _ member, soundBelow _ _ member⟩

theorem Node.sound_of_fits {node : Node} (complete : node.IsComplete)
    (below : ∀ role inner, (role, inner) ∈ node.directlyBelow → inner.Fits role) : node.Sound :=
  .intro complete (fun role inner member => (below role inner member).admitted)
    fun role inner member => (below role inner member).sound

/-- What stands anywhere below a sound node fits its role. -/
theorem Node.Sound.fits_of_occurs {root : Node} (sound : root.Sound) {role : Role} {node : Node}
    (occurs : root.Occurs role node) : node.Fits role := by
  induction occurs with
  | direct member => exact sound.fits member
  | further _ member ih => exact ih.sound.fits member

/-- What belongs to an object as a whole is neither block nor expression. -/
theorem Node.not_isExpression_of_isObjectPart {node : Node} (part : node.isObjectPart = true) :
    node.isBlock = false ∧ node.isExpression = false := by
  cases node with
  | initializer | structured => exact ⟨rfl, rfl⟩
  | _ => cases part

theorem Role.eq_body_of_admits {role : Role} {node : Node} (admitted : role.admits node = true)
    (isBlock : node.isBlock = true) : role = .body := by
  have noExpression : node.isExpression = false := by
    cases node with
    | block => rfl
    | _ => cases isBlock
  cases role with
  | body => rfl
  | _ => simp [admits, isBlock, noExpression] at admitted

theorem Role.isDeclaring_of_admits {role : Role} {node : Node} (admitted : role.admits node = true)
    (isPart : node.isObjectPart = true) : role.isDeclaring = true := by
  obtain ⟨noBlock, noExpression⟩ := Node.not_isExpression_of_isObjectPart isPart
  cases role with
  | topLevel | member => rfl
  | _ => simp [admits, isPart, noBlock, noExpression] at admitted

theorem Role.isExpression_of_admits {role : Role} {node : Node}
    (admitted : role.admits node = true) (isValue : role.isValue = true) :
    node.isExpression = true := by
  cases role with
  | operand | argument | default | initialValue | delegate => exact admitted
  | _ => cases isValue

theorem Role.isFile_of_admits {role : Role} {node : Node} (admitted : role.admits node = true) :
    node.isFile = false := by
  cases node with
  | file => cases role <;> cases admitted
  | _ => rfl

/-- In a sound file everything is in its place. -/
theorem SourceFile.orderly_of_sound {file : SourceFile} (sound : (Node.file file).Sound) :
    file.Orderly := by
  have admitted : ∀ role node, (Node.file file).Occurs role node → role.admits node = true :=
    fun _ _ occurs => (sound.fits_of_occurs occurs).admitted
  have complete : ∀ role node, (Node.file file).Occurs role node → node.IsComplete :=
    fun _ _ occurs => (sound.fits_of_occurs occurs).sound.complete
  constructor
  · exact fun role node occurs => Role.eq_body_of_admits (admitted role node occurs)
  · exact fun role node occurs => Role.isDeclaring_of_admits (admitted role node occurs)
  · exact fun role node occurs => Role.isFile_of_admits (admitted role node occurs)
  · exact fun role node occurs => Role.isExpression_of_admits (admitted role node occurs)
  · exact fun node occurs => Bool.or_eq_true_iff.mp (admitted .body node occurs)
  · exact fun role left operator right occurs => complete role _ occurs
  · exact fun role value kind occurs => complete role _ occurs
  · exact fun role decl occurs => complete role _ occurs
  · exact fun role decl occurs => complete role _ occurs
  · exact fun role text kind occurs => complete role _ occurs

/-- An expression may stand in every role. -/
theorem Role.admits_of_isExpression (role : Role) {node : Node}
    (isExpression : node.isExpression = true) : role.admits node = true := by
  cases node with
  | name | literal | reference | call | binary | lambda | unknown => cases role <;> rfl
  | _ => cases isExpression

theorem Node.Fits.ofOperand {node : Node} (fits : node.Fits .operand) (role : Role) :
    node.Fits role :=
  ⟨role.admits_of_isExpression fits.admitted, fits.sound⟩

/-! ## Putting nodes together -/

namespace Node

theorem fits_of_mem_map {nodes : List Node} {given : Role}
    (each : ∀ node ∈ nodes, node.Fits given) {role : Role} {inner : Node}
    (member : (role, inner) ∈ nodes.map (given, ·)) : inner.Fits role := by
  obtain ⟨node, nodeMem, pairEq⟩ := List.mem_map.mp member
  obtain ⟨rfl, rfl⟩ := Prod.mk.inj pairEq
  exact each node nodeMem

/-- A value that may be missing fits its role if it is an expression. -/
theorem fits_of_mem_option {value : Option Node} {given : Role}
    (fits : ∀ node, value = some node → node.Fits .operand) {role : Role} {inner : Node}
    (member : (role, inner) ∈ value.toList.map (given, ·)) : inner.Fits role :=
  fits_of_mem_map (fun node nodeMem => (fits node (Option.mem_toList.mp nodeMem)).ofOperand given)
    member

theorem fits_name (name : String) : (Node.name name).Fits .operand :=
  ⟨rfl, sound_of_fits trivial (by rintro _ _ ⟨⟩)⟩

theorem fits_literal (value : String) {kind : LiteralKind}
    (documented : kind ∈ LiteralKind.documented) : (Node.literal value kind).Fits .operand :=
  ⟨rfl, sound_of_fits documented (by rintro _ _ ⟨⟩)⟩

theorem fits_reference (name : String) (receiver : Option String) :
    (Node.reference name receiver).Fits .operand :=
  ⟨rfl, sound_of_fits trivial (by rintro _ _ ⟨⟩)⟩

theorem fits_unknown (text : String) (kind : Option String) :
    (Node.unknown (some text) kind).Fits .operand :=
  ⟨rfl, sound_of_fits rfl (by rintro _ _ ⟨⟩)⟩

theorem fits_binary {left right : Node} {operator : String}
    (written : operator ≠ "" ∧ Text.Tight Text.isBlank operator.toList)
    (leftFits : left.Fits .operand) (rightFits : right.Fits .operand) :
    (Node.binary left operator right).Fits .operand := by
  have operands : ∀ node ∈ [left, right], node.Fits .operand := by
    simp only [List.forall_mem_cons, leftFits, rightFits, true_and]
    rintro _ ⟨⟩
  exact ⟨rfl, sound_of_fits written fun _ _ member => fits_of_mem_map operands member⟩

theorem fits_lambda {closure : Lambda} (body : ∀ node ∈ closure.body, node.Fits .statement) :
    (Node.lambda closure).Fits .operand :=
  ⟨rfl, sound_of_fits trivial fun _ _ member => fits_of_mem_map body member⟩

theorem fits_call {invoked : Call} (args : ∀ argument ∈ invoked.args, argument.value.Fits .operand)
    (trailing : ∀ closure, invoked.trailing = some closure →
      ∀ node ∈ closure.body, node.Fits .statement) : (Node.call invoked).Fits .operand := by
  refine ⟨rfl, sound_of_fits trivial ?_⟩
  intro role inner member
  rcases List.mem_append.mp member with inArgs | inTrailing
  · obtain ⟨argument, argumentMem, pairEq⟩ := List.mem_map.mp inArgs
    obtain ⟨rfl, rfl⟩ := Prod.mk.inj pairEq
    exact (args argument argumentMem).ofOperand _
  · obtain ⟨closure, closureMem, inBody⟩ := List.mem_flatMap.mp inTrailing
    exact fits_of_mem_map (trailing closure (Option.mem_toList.mp closureMem)) inBody

theorem fits_block {statements : List Node} (each : ∀ node ∈ statements, node.Fits .statement) :
    (Node.block statements).Fits .body :=
  ⟨rfl, sound_of_fits trivial fun _ _ member => fits_of_mem_map each member⟩

theorem fits_initializer {statements : List Node}
    (each : ∀ node ∈ statements, node.Fits .statement) :
    (Node.initializer statements).Fits .member :=
  ⟨rfl, sound_of_fits trivial fun _ _ member => fits_of_mem_map each member⟩

theorem fits_structured {decl : StructuredDecl} {role : Role}
    (admitted : role.admits (.structured decl) = true)
    (members : ∀ node ∈ decl.members, node.Fits .member) : (Node.structured decl).Fits role :=
  ⟨admitted, sound_of_fits trivial fun _ _ member => fits_of_mem_map members member⟩

theorem fits_property {decl : PropertyDecl} (text : decl.text.isSome = true)
    (initializer : ∀ node, decl.initializer = some node → node.Fits .operand)
    (delegate : ∀ node, decl.delegate = some node → node.Fits .operand) :
    (Node.property decl).Fits .statement := by
  refine ⟨rfl, sound_of_fits text ?_⟩
  intro role inner member
  rcases List.mem_append.mp member with isValue | isDelegate
  · exact fits_of_mem_option initializer isValue
  · exact fits_of_mem_option delegate isDelegate

theorem fits_function {decl : FunctionDecl} (text : decl.text.isSome = true)
    (params : ∀ param ∈ decl.params, ∀ node, param.default = some node → node.Fits .operand)
    (body : ∀ node, decl.body = some node → node.Fits .body) :
    (Node.function decl).Fits .statement := by
  refine ⟨rfl, sound_of_fits text ?_⟩
  intro role inner member
  rcases List.mem_append.mp member with isDefault | isBody
  · obtain ⟨param, paramMem, inParam⟩ := List.mem_flatMap.mp isDefault
    exact fits_of_mem_option (params param paramMem) inParam
  · exact fits_of_mem_map (fun node nodeMem => body node (Option.mem_toList.mp nodeMem)) isBody

theorem Fits.member_of_statement {node : Node} (fits : node.Fits .statement) :
    node.Fits .member := by
  refine ⟨?_, fits.sound⟩
  have admitted := fits.admitted
  simp only [Role.admits, Bool.and_eq_true] at admitted ⊢
  exact admitted.1

end Node

end ViewOutline
