import ViewOutline.Proofs.Statement.Content

/-!
# Statements inside a node

The statements in a node are those of the blocks that are reached through its
rendered operands.  A search for them may go on inside some statements and pass
over others.  What a search meets and in which order is proved once for every choice
of the statements that are entered.
-/

namespace ViewOutline

namespace Node

/-- A search that enters some statements meets a statement in a node: in a block
that is reached through rendered operands, or in a statement of such a block that is
entered. -/
inductive Meets (enters : Node → Bool) : Node → Way → Node → Prop
  | statement {statements : List Node} {index : Nat} {statement : Node} :
      statements[index]? = some statement →
        Meets enters (.block statements) [.statement index] statement
  | within {statements : List Node} {index : Nat} {statement inner : Node} {way : Way} :
      statements[index]? = some statement → enters statement = true →
        Meets enters statement way inner →
          Meets enters (.block statements) (.statement index :: way) inner
  | operand {node child inner : Node} {step : Step} {way : Way} :
      (step, child) ∈ node.operands → Meets enters child way inner →
        Meets enters node (step :: way) inner

variable (enters : Node → Bool)

/-- The statements that a search meets in a node, in the order of writing. -/
def met : Node → List (Way × Node)
  | .block statements =>
      (Step.toEach .statement statements 0).attach.flatMap fun ⟨(step, statement), _⟩ =>
        ([step], statement) :: if enters statement then
          statement.met.map fun place => (step :: place.1, place.2) else []
  | node => node.operands.attach.flatMap fun ⟨(step, child), _⟩ =>
      child.met.map fun place => (step :: place.1, place.2)
termination_by node => sizeOf node
decreasing_by
  · rename_i member _
    exact sizeOf_child_lt ((mem_parts_iff (.block statements) step statement).mp member)
  · rename_i member
    exact sizeOf_child_lt ((mem_parts_iff _ step child).mp (operands_sublist _ |>.subset member))

/-- A statement and what is met in it, if it is entered. -/
def andMet (statement : Node) : List (Way × Node) :=
  ([], statement) :: if enters statement then statement.met enters else []

theorem met_block (statements : List Node) :
    (Node.block statements).met enters =
      below (andMet enters) (Step.toEach .statement statements 0) := by
  rw [met, below]
  refine (List.flatMap_subtype (g := fun part => ([part.1], part.2) ::
    if enters part.2 then (part.2.met enters).map fun place => (part.1 :: place.1, place.2)
    else []) fun _ _ => rfl).trans ?_
  rw [List.unattach_attach]
  congr 1
  funext part
  rw [andMet]
  split <;> simp

theorem met_eq {node : Node} (noBlock : node.isBlock = false) :
    node.met enters = below (met enters) node.operands := by
  rw [met.eq_def]
  split
  · cases noBlock
  · rw [below]
    exact List.flatMap_subtype (fun _ _ => rfl) |>.trans (by rw [List.unattach_attach])

variable {enters}

theorem mem_andMet_iff (statement : Node) (way : Way) (inner : Node) :
    (way, inner) ∈ statement.andMet enters ↔
      (way = [] ∧ inner = statement) ∨
        (enters statement = true ∧ (way, inner) ∈ statement.met enters) := by
  cases entered : enters statement <;> simp [andMet, entered]

/-- The list of what is met is complete. -/
theorem mem_met_iff (node : Node) :
    ∀ way statement, (way, statement) ∈ node.met enters ↔ node.Meets enters way statement := by
  induction node using Node.operands_induction with
  | block statements ih =>
      intro way inner
      rw [met_block]
      constructor
      · intro member
        cases way with
        | nil => exact absurd member (nil_not_mem_below _ _ _)
        | cons step way =>
            obtain ⟨statement, inBlock, place⟩ := (cons_mem_below_iff _ _ _ _ _).mp member
            obtain ⟨index, rfl, found⟩ := (Step.mem_toEach_iff _ _ _ _).mp inBlock
            rcases (statement.mem_andMet_iff way inner).mp place with
              ⟨rfl, rfl⟩ | ⟨entered, inside⟩
            · exact .statement found
            · exact .within found entered
                ((ih statement (List.mem_of_getElem? found) way inner).mp inside)
      · intro meets
        cases meets with
        | @statement _ index _ found =>
            exact (cons_mem_below_iff _ _ _ _ _).mpr ⟨inner,
              (Step.mem_toEach_iff _ _ _ _).mpr ⟨index, rfl, found⟩,
              (inner.mem_andMet_iff [] inner).mpr (.inl ⟨rfl, rfl⟩)⟩
        | @within _ index statement _ way found entered meets =>
            exact (cons_mem_below_iff _ _ _ _ _).mpr ⟨statement,
              (Step.mem_toEach_iff _ _ _ _).mpr ⟨index, rfl, found⟩,
              (statement.mem_andMet_iff way inner).mpr (.inr ⟨entered,
                (ih statement (List.mem_of_getElem? found) way inner).mpr meets⟩)⟩
        | operand member _ => cases member
  | expression node noBlock ih =>
      intro way inner
      rw [met_eq enters noBlock]
      constructor
      · intro member
        cases way with
        | nil => exact absurd member (nil_not_mem_below _ _ _)
        | cons step way =>
            obtain ⟨child, childMem, place⟩ := (cons_mem_below_iff _ _ _ _ _).mp member
            exact .operand childMem ((ih step child childMem way inner).mp place)
      · intro meets
        cases meets with
        | statement _ => cases noBlock
        | within _ _ _ => cases noBlock
        | @operand _ child _ step way childMem meets =>
            exact (cons_mem_below_iff _ _ _ _ _).mpr
              ⟨child, childMem, (ih step child childMem way inner).mpr meets⟩

theorem Meets.ne_nil {node statement : Node} {way : Way} (meets : node.Meets enters way statement) :
    way ≠ [] := by
  cases meets <;> simp

section Order

variable {related : Way → Way → Prop}

theorem andMet_pairwise {statement : Node}
    (around : enters statement = true → ∀ step way, related [] (step :: way))
    (inside : (statement.met enters).Pairwise fun first second => related first.1 second.1) :
    (statement.andMet enters).Pairwise fun first second => related first.1 second.1 := by
  rw [andMet]
  split
  next entered =>
    rw [List.pairwise_cons]
    refine ⟨?_, inside⟩
    -- The statement lies around everything that is met in it.
    rintro ⟨way, inner⟩ member
    cases way with
    | nil => exact absurd rfl ((statement.mem_met_iff _ _).mp member).ne_nil
    | cons step way => exact around entered step way
  · exact List.pairwise_singleton _ _

/-- What is met is listed in order, for any order of ways that looks at the first
step where they differ and puts a statement that is entered before what is in it. -/
theorem met_pairwise
    (here : ∀ first second rest others, Step.Before first second →
      related (first :: rest) (second :: others))
    (later : ∀ step rest others, related rest others → related (step :: rest) (step :: others))
    (around : ∀ statement, enters statement = true → ∀ step way, related [] (step :: way))
    (node : Node) :
    (node.met enters).Pairwise fun first second => related first.1 second.1 := by
  induction node using Node.operands_induction with
  | block statements ih =>
      rw [met_block]
      apply below_pairwise here later (Step.toEach_ordered (fun _ _ => .statements) statements 0)
      intro step statement inBlock
      obtain ⟨index, _, found⟩ := (Step.mem_toEach_iff _ _ _ _).mp inBlock
      exact andMet_pairwise (around statement) (ih statement (List.mem_of_getElem? found))
  | expression node noBlock ih =>
      rw [met_eq enters noBlock]
      exact below_pairwise here later (node.parts_ordered.sublist node.operands_sublist) ih

end Order

end Node

end ViewOutline
