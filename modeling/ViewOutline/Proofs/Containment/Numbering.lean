import ViewOutline.Proofs.Containment.Scan

/-!
# Identifiers of controls

A control is named by its kind and its ordinal among the controls of that kind.
The ordinals are counted apart from the controls, and the count stays in step with
them.  An ordinal is written in digits, so the last number sign of an identifier
shows where the kind ends, whatever the kind is.  Hence no identifier is given
twice, and a control is never refused.
-/

namespace ViewOutline

/-- Two texts are equal piece by piece if neither holds the separator after it
for the last time. -/
private theorem append_cons_inj_of_not_mem {separator : Char} {first second : List Char}
    {firstTail secondTail : List Char} (firstFree : separator ∉ firstTail)
    (secondFree : separator ∉ secondTail)
    (equal : first ++ separator :: firstTail = second ++ separator :: secondTail) :
    first = second ∧ firstTail = secondTail := by
  rcases List.append_eq_append_iff.mp equal with ⟨middle, rfl, tailEq⟩ | ⟨middle, rfl, tailEq⟩
  · cases middle with
    | nil => simpa using tailEq
    | cons head rest =>
        rw [List.cons_append, List.cons.injEq] at tailEq
        exact absurd (tailEq.2 ▸ List.mem_append_right rest List.mem_cons_self) firstFree
  · cases middle with
    | nil => simpa [eq_comm] using tailEq
    | cons head rest =>
        rw [List.cons_append, List.cons.injEq] at tailEq
        exact absurd (tailEq.2 ▸ List.mem_append_right rest List.mem_cons_self) secondFree

/-- The identifier of the control of a kind with an ordinal. -/
def Control.identifier (kind : String) (ordinal : Nat) : String :=
  s!"{kind}#{ordinal}"

theorem Control.toList_identifier (kind : String) (ordinal : Nat) :
    (identifier kind ordinal).toList = kind.toList ++ '#' :: Nat.toDigits 10 ordinal := by
  simp [identifier, ToString.toString, String.toList_append, Nat.toList_repr]

theorem Control.numberSign_not_mem_digits (ordinal : Nat) :
    '#' ∉ Nat.toDigits 10 ordinal := by
  intro member
  have digit := Nat.isDigit_of_mem_toDigits (by decide) (by decide) member
  exact absurd digit (by decide)

/-- An identifier determines its kind and its ordinal. -/
theorem Control.identifier_inj {kind other : String} {ordinal number : Nat}
    (equal : identifier kind ordinal = identifier other number) :
    kind = other ∧ ordinal = number := by
  have lists := congrArg String.toList equal
  rw [toList_identifier, toList_identifier] at lists
  obtain ⟨kindEq, digitsEq⟩ := append_cons_inj_of_not_mem
    (numberSign_not_mem_digits ordinal) (numberSign_not_mem_digits number) lists
  refine ⟨String.toList_inj.mp kindEq, ?_⟩
  have values : Nat.ofDigitChars 10 (Nat.toDigits 10 ordinal) 0 =
      Nat.ofDigitChars 10 (Nat.toDigits 10 number) 0 :=
    congrArg (Nat.ofDigitChars 10 · 0) digitsEq
  rwa [Nat.ofDigitChars_ten_toDigits, Nat.ofDigitChars_ten_toDigits] at values

namespace Control

/-- Each control of a list is named by its kind and its ordinal among the
controls of that kind up to it. -/
inductive Numbered : List Control → Prop
  | nil : Numbered []
  | snoc {controls : List Control} {control : Control} :
      Numbered controls →
      control.uid = identifier control.kind
        (controls.countP (·.kind == control.kind) + 1) →
      Numbered (controls ++ [control])

/-- The controls of a kind are named in order, starting from one. -/
theorem Numbered.uid_eq {controls : List Control} (numbered : Numbered controls) {kind : String}
    {index : Nat} {control : Control}
    (found : (controls.filter (·.kind == kind))[index]? = some control) :
    control.uid = identifier kind (index + 1) := by
  induction numbered with
  | nil => simp at found
  | @snoc controls last _ named ih =>
      rw [List.filter_append] at found
      by_cases before : index < (controls.filter (·.kind == kind)).length
      · rw [List.getElem?_append_left before] at found
        exact ih found
      · rw [List.getElem?_append_right (Nat.not_lt.mp before)] at found
        -- Only the last control can stand after those that were there before.
        by_cases same : last.kind = kind
        · subst same
          have alone : [last].filter (·.kind == last.kind) = [last] := by simp
          rw [alone, List.getElem?_singleton, Option.ite_none_right_eq_some] at found
          rcases found with ⟨position, isLast⟩
          have ordinal : controls.countP (·.kind == last.kind) = index := by
            rw [List.countP_eq_length_filter]
            omega
          rw [← Option.some.inj isLast, named, ordinal]
        · have none : [last].filter (·.kind == kind) = [] := by simp [same]
          rw [none] at found
          simp at found

/-- The name for the next control of a kind has not been given. -/
theorem Numbered.fresh {controls : List Control} (numbered : Numbered controls) (kind : String) :
    identifier kind (controls.countP (·.kind == kind) + 1) ∉ controls.map Control.uid := by
  intro member
  rcases List.mem_map.mp member with ⟨control, controlMem, uidEq⟩
  have kept : control ∈ controls.filter (·.kind == control.kind) := by simpa using controlMem
  rcases List.getElem?_of_mem kept with ⟨index, found⟩
  rw [numbered.uid_eq found] at uidEq
  rcases identifier_inj uidEq with ⟨rfl, ordinalEq⟩
  have bound := (List.getElem?_eq_some_iff.mp found).1
  rw [← List.countP_eq_length_filter] at bound
  omega

theorem Numbered.nodup_uids {controls : List Control} (numbered : Numbered controls) :
    (controls.map Control.uid).Nodup := by
  induction numbered with
  | nil => exact List.nodup_nil
  | @snoc controls control numbered named ih =>
      rw [List.map_append, List.map_singleton, ← List.concat_eq_append, List.nodup_concat]
      rw [named]
      exact ⟨numbered.fresh control.kind, ih⟩

/-- Leaving out whole kinds does not change the ordinals of the others. -/
theorem Numbered.filter {controls : List Control} (numbered : Numbered controls)
    (kept : String → Bool) : Numbered (controls.filter fun control => kept control.kind) := by
  induction numbered with
  | nil => exact .nil
  | @snoc controls control _ named ih =>
      rw [List.filter_append]
      cases keeps : kept control.kind with
      | false => simpa [keeps] using ih
      | true =>
          have last : [control].filter (fun control => kept control.kind) = [control] := by
            simp [keeps]
          rw [last]
          apply ih.snoc
          rw [named, List.countP_filter]
          congr 2
          apply List.countP_congr
          intro other _
          by_cases same : other.kind = control.kind
          · simp [same, keeps]
          · simp [same]

/-- Numbered controls are known by their kinds and labels. -/
theorem Numbered.eq_of_map_eq {first second : List Control} (firstNumbered : Numbered first)
    (secondNumbered : Numbered second)
    (described : first.map (fun control => (control.kind, control.label)) =
      second.map fun control => (control.kind, control.label)) : first = second := by
  induction firstNumbered generalizing second with
  | nil => exact (List.map_eq_nil_iff.mp described.symm).symm
  | @snoc controls control _ named ih =>
      cases secondNumbered with
      | nil => simp at described
      | @snoc others other otherNumbered otherNamed =>
          simp only [List.map_append, List.map_singleton, List.append_singleton_inj,
            Prod.mk.injEq] at described
          obtain ⟨initial, kindEq, labelEq⟩ := described
          obtain rfl := ih otherNumbered initial
          have uidEq : control.uid = other.uid := by rw [named, otherNamed, kindEq]
          have same : control = other := by
            cases control
            cases other
            simp_all
          rw [same]

end Control

namespace Harvest

/-- The harvests that come about by taking in controls of calls. -/
inductive Grown : Harvest → Prop
  | empty : Grown .empty
  | add {harvest next : Harvest} {call : Call} {parent : Option String} :
      Grown harvest → harvest.add (call.control harvest) parent = .ok next → Grown next

/-- A container is missing or has been found. -/
def Knows (harvest : Harvest) (parent : Option String) : Prop :=
  ∀ uid, parent = some uid → uid ∈ harvest.controls.map Control.uid

theorem knows_none (harvest : Harvest) : harvest.Knows none := by
  rintro uid ⟨⟩

/-- What has been found stays found. -/
theorem Knows.mono {harvest later : Harvest} {parent : Option String}
    (knows : harvest.Knows parent) (grows : harvest.controls <+: later.controls) :
    later.Knows parent := by
  intro uid named
  exact (grows.map Control.uid).subset (knows uid named)

/-- The controls of a harvest in the order of its graph. -/
theorem Grown.exists_history {harvest : Harvest} (grown : harvest.Grown) :
    ∃ history, harvest.graph.GrownBy history ∧
      history.map Addition.control = harvest.controls := by
  induction grown with
  | empty => exact ⟨[], Containment.grownBy_empty, rfl⟩
  | @add harvest next call parent _ added ih =>
      obtain ⟨history, graphGrown, controlsEq⟩ := ih
      obtain ⟨nextControls, nextGrown⟩ := of_add graphGrown added
      exact ⟨_, nextGrown, by simp [nextControls, controlsEq]⟩

/-- The last ordinal of each kind is in step with the controls: it says how many of
them are of that kind. -/
def InStep (harvest : Harvest) : Prop :=
  ∀ kind, harvest.nextOrdinal kind = harvest.controls.countP (·.kind == kind) + 1

theorem inStep_empty : empty.InStep := fun _ =>
  rfl

/-- Taking in a control keeps the ordinals in step. -/
theorem InStep.add {harvest next : Harvest} (inStep : harvest.InStep) {control : Control}
    {parent : Option String} (added : harvest.add control parent = .ok next) :
    next.InStep := by
  rcases add_eq_ok added with ⟨_, controlsEq, ordinalsEq⟩
  intro kind
  rw [nextOrdinal, ordinalsEq, Table.find?_insert, controlsEq, List.countP_append,
    List.countP_singleton]
  by_cases same : kind = control.kind
  · subst same
    rw [if_pos rfl, Option.getD_some, inStep, if_pos (beq_self_eq_true _)]
  · have other : (control.kind == kind) = false := beq_false_of_ne (Ne.symm same)
    rw [if_neg same, if_neg (by rw [other]; exact Bool.false_ne_true), Nat.add_zero]
    exact inStep kind

theorem Grown.inStep {harvest : Harvest} (grown : harvest.Grown) : harvest.InStep := by
  induction grown with
  | empty => exact inStep_empty
  | add _ added ih => exact ih.add added

/-- The next control of a kind is named by how many there are of that kind. -/
theorem InStep.nextUid_eq {harvest : Harvest} (inStep : harvest.InStep) (kind : String) :
    harvest.nextUid kind =
      Control.identifier kind (harvest.controls.countP (·.kind == kind) + 1) := by
  rw [nextUid, inStep kind]
  rfl

theorem Grown.numbered {harvest : Harvest} (grown : harvest.Grown) :
    Control.Numbered harvest.controls := by
  induction grown with
  | empty => exact .nil
  | @add harvest next call parent grown added ih =>
      rw [(add_eq_ok added).2.1]
      exact ih.snoc (grown.inStep.nextUid_eq call.name)

/-- The identifier of the next control has not been given. -/
theorem Grown.fresh {harvest : Harvest} (grown : harvest.Grown) (call : Call) :
    (call.control harvest).uid ∉ harvest.controls.map Control.uid := by
  have uidEq : (call.control harvest).uid = _ := grown.inStep.nextUid_eq call.name
  rw [uidEq]
  exact grown.numbered.fresh call.name

/-- The control of a call is taken in wherever its container has been found. -/
theorem Grown.add_ok {harvest : Harvest} (grown : harvest.Grown) (call : Call)
    {parent : Option String} (knows : harvest.Knows parent) :
    ∃ next, harvest.add (call.control harvest) parent = .ok next := by
  obtain ⟨history, graphGrown, controlsEq⟩ := grown.exists_history
  have uidsEq : history.map Addition.uid = harvest.controls.map Control.uid := by
    rw [← controlsEq, List.map_map]
    rfl
  have fresh := grown.fresh call
  rw [← uidsEq] at fresh
  have known : ∀ outer, parent = some outer → outer ∈ history.map Addition.uid := by
    intro outer named
    rw [uidsEq]
    exact knows outer named
  obtain ⟨graph, accepted, _⟩ := graphGrown.add fresh known
  exact ⟨_, by simp only [Harvest.add, accepted]; rfl⟩

end Harvest

/-- A search of parts keeps a harvest grown if the searches of the parts do. -/
theorem Node.scanParts_grown {inside : Scope} {container : Step → Option String}
    {parts : List (Step × Node)} {harvest result : Harvest}
    (each : ∀ step child, (step, child) ∈ parts →
      ∀ (within : Scope) (parent : Option String) (before after : Harvest), before.Grown →
        child.scan within parent before = .ok after →
          after.Grown ∧ before.controls <+: after.controls)
    (grown : harvest.Grown)
    (scanned : Node.scanParts inside container parts harvest = .ok result) :
    result.Grown ∧ harvest.controls <+: result.controls := by
  induction parts generalizing harvest with
  | nil =>
      cases scanned
      exact ⟨grown, List.prefix_rfl⟩
  | cons part rest ih =>
      rcases part with ⟨step, child⟩
      simp only [scanParts, bind_eq_ok_iff] at scanned
      obtain ⟨within, _, next, childScanned, restScanned⟩ := scanned
      obtain ⟨nextGrown, nextGrows⟩ :=
        each step child List.mem_cons_self within _ _ _ grown childScanned
      obtain ⟨resultGrown, resultGrows⟩ := ih
        (fun other node member => each other node (List.mem_cons_of_mem _ member))
        nextGrown restScanned
      exact ⟨resultGrown, nextGrows.trans resultGrows⟩

/-- A search only adds to what was found before. -/
theorem Node.scan_grown (node : Node) :
    ∀ (inside : Scope) (parent : Option String) (harvest result : Harvest), harvest.Grown →
      node.scan inside parent harvest = .ok result →
        result.Grown ∧ harvest.controls <+: result.controls := by
  induction node using Node.parts_induction with
  | step node ih =>
      intro inside parent harvest result grown scanned
      rw [scan_eq] at scanned
      cases found : node.widget? inside.vocabulary with
      | none =>
          rw [found] at scanned
          exact scanParts_grown ih grown scanned
      | some invoked =>
          rw [found] at scanned
          obtain ⟨next, added, scanned⟩ := (bind_eq_ok_iff _ _ _).mp scanned
          obtain ⟨resultGrown, resultGrows⟩ := scanParts_grown ih (grown.add added) scanned
          refine ⟨resultGrown, List.IsPrefix.trans ?_ resultGrows⟩
          rw [(Harvest.add_eq_ok added).2.1]
          exact List.prefix_append _ _

theorem Node.scanMembers_grown {scope : Scope} {members : List Node} {harvest result : Harvest}
    (grown : harvest.Grown) (scanned : Node.scanMembers scope members harvest = .ok result) :
    result.Grown := by
  induction members generalizing harvest with
  | nil =>
      cases scanned
      exact grown
  | cons member rest ih =>
      simp only [scanMembers, bind_eq_ok_iff, scanMember_eq] at scanned
      obtain ⟨next, memberScanned, restScanned⟩ := scanned
      exact ih (scanParts_grown (fun _ child _ => child.scan_grown) grown memberScanned).1
        restScanned

/-- What is found in a class comes about by taking in controls of calls. -/
theorem Node.grown_of_findControls {scope : Scope} {members : List Node} {harvest : Harvest}
    (returns : (Node.findControls scope members).outcome = .ok harvest) : harvest.Grown :=
  scanMembers_grown .empty ((findControls_eq_ok_iff _ _ _).mp returns)

end ViewOutline
