import ViewOutline.Proofs.Notes.Member

/-!
# Members by themselves

Every member of a class adds one entry to one of the lists of its outline, and
what it adds does not depend on the other members: it is what the class with
this member alone would list.  So the outline of a class whose members come in
two groups joins the outlines of the classes with one group each, and a member
that is malformed adds its own entry and changes nothing else.
-/

namespace ViewOutline

/-- The lists of a class outline that members go to. -/
inductive MemberList where
  | properties
  | methods
  | structures
  deriving DecidableEq

/-- The list that a member goes to.  What is no class member at all goes to the
properties. -/
def Node.memberList : Node → MemberList
  | .function _ => .methods
  | .initializer _ => .methods
  | .structured _ => .structures
  | _ => .properties

/-- Whether a member is recorded without details: it has no name, or it is no
class member at all. -/
def Node.isMalformed : Node → Bool
  | .property decl => decl.name == ""
  | .function decl => decl.name == ""
  | .initializer _ => false
  | .structured _ => false
  | _ => true

/-- The list that holds an entry. -/
def MemberOutline.list : MemberOutline → MemberList
  | .property _ => .properties
  | .method _ => .methods
  | .marker _ => .structures

/-- A class with other members. -/
def StructuredDecl.withMembers (decl : StructuredDecl) (members : List Node) : StructuredDecl :=
  { decl with members }

/-- What a member adds to the outline of its class, seen from the class that has no
other members: the entry is all that this class lists. -/
def StructuredDecl.Adds (decl : StructuredDecl) (scope : Scope) (className : Option String)
    (member : Node) (entry : MemberOutline) : Prop :=
  ∃ outline, ((decl.withMembers [member]).outline scope className).outcome = .ok outline ∧
    outline.Gathers [entry]

/-- The lists of an outline hold what the members of each kind add, one entry for
each, in the order of the members. -/
structure ClassOutline.Sorts (outline : ClassOutline) (members : List Node)
    (adds : Node → MemberOutline → Prop) : Prop where
  properties : List.Forall₂ (fun member property => adds member (.property property))
    (members.filter (·.memberList = .properties)) outline.properties
  methods : List.Forall₂ (fun member method => adds member (.method method))
    (members.filter (·.memberList = .methods)) outline.methods
  structures : List.Forall₂ (fun member marker => adds member (.marker marker))
    (members.filter (·.memberList = .structures)) outline.structures

/-- An outline lists what some outlines list, one after the other. -/
structure ClassOutline.Joins (outline : ClassOutline) (parts : List ClassOutline) : Prop where
  properties : outline.properties = parts.flatMap ClassOutline.properties
  methods : outline.methods = parts.flatMap ClassOutline.methods
  structures : outline.structures = parts.flatMap ClassOutline.structures

/-! ## Entries and lists -/

theorem MemberOutline.property?_eq_some_iff (entry : MemberOutline) (property : Property) :
    entry.property? = some property ↔ entry = .property property := by
  cases entry <;> simp [property?]

theorem MemberOutline.method?_eq_some_iff (entry : MemberOutline) (method : Method) :
    entry.method? = some method ↔ entry = .method method := by
  cases entry <;> simp [method?]

theorem MemberOutline.marker?_eq_some_iff (entry : MemberOutline) (text : String) :
    entry.marker? = some text ↔ entry = .marker text := by
  cases entry <;> simp [marker?]

/-- The entries of one list come from the members that go to it. -/
theorem forall₂_filter_filterMap {α : Type} {related : Node → MemberOutline → Prop}
    {members : List Node} {entries : List MemberOutline} {list : MemberList}
    {pick : MemberOutline → Option α} {wrap : α → MemberOutline}
    (picks : ∀ entry value, pick entry = some value ↔ entry = wrap value)
    (holds : ∀ entry, entry.list = list ↔ ∃ value, entry = wrap value)
    (each : List.Forall₂ (fun member entry => entry.list = member.memberList ∧
      related member entry) members entries) :
    List.Forall₂ (fun member value => related member (wrap value))
      (members.filter (·.memberList = list)) (entries.filterMap pick) := by
  induction each with
  | nil => exact .nil
  | @cons member entry members entries head _ ih =>
      obtain ⟨sameList, adds⟩ := head
      by_cases inList : entry.list = list
      · obtain ⟨value, rfl⟩ := (holds entry).mp inList
        have picked := (picks (wrap value) value).mpr rfl
        rw [List.filter_cons_of_pos (by simpa using sameList.symm.trans inList),
          List.filterMap_cons_some picked]
        exact .cons adds ih
      · have notPicked : pick entry = none := by
          rw [Option.eq_none_iff_forall_ne_some]
          intro value picked
          exact inList ((holds entry).mpr ⟨value, (picks entry value).mp picked⟩)
        rw [List.filter_cons_of_neg (by simpa using sameList ▸ inList),
          List.filterMap_cons_none notPicked]
        exact ih

theorem ClassOutline.Gathers.sorts {outline : ClassOutline} {members : List Node}
    {entries : List MemberOutline} {adds : Node → MemberOutline → Prop}
    (gathers : outline.Gathers entries)
    (each : List.Forall₂ (fun member entry => entry.list = member.memberList ∧
      adds member entry) members entries) :
    outline.Sorts members adds where
  properties := by
    rw [gathers.properties]
    exact forall₂_filter_filterMap MemberOutline.property?_eq_some_iff
      (fun entry => by cases entry <;> simp [MemberOutline.list]) each
  methods := by
    rw [gathers.methods]
    exact forall₂_filter_filterMap MemberOutline.method?_eq_some_iff
      (fun entry => by cases entry <;> simp [MemberOutline.list]) each
  structures := by
    rw [gathers.structures]
    exact forall₂_filter_filterMap MemberOutline.marker?_eq_some_iff
      (fun entry => by cases entry <;> simp [MemberOutline.list]) each

/-! ## Members -/

theorem Node.Leaves.list_eq {className : String} {member : Node} {entry : MemberOutline}
    {notes : List String} (leaves : member.Leaves className entry notes) :
    entry.list = member.memberList := by
  cases leaves with
  | stray stray =>
      cases member with
      | property _ | function _ | initializer _ | structured _ => cases stray
      | _ => rfl
  | _ => rfl

theorem Node.outlineMembers_each {scope : Scope} {className : String} {members : List Node}
    {entries : List MemberOutline}
    (returns : (Node.outlineMembers scope className members).outcome = .ok entries) :
    List.Forall₂ (fun member entry => (member.outlineMember scope className).outcome = .ok entry)
      members entries := by
  induction members generalizing entries with
  | nil =>
      cases returns
      exact .nil
  | cons member rest ih =>
      simp only [outlineMembers, Analysis.outcome_bind, bind_eq_ok_iff] at returns
      obtain ⟨entry, first, others, returned, entriesEq⟩ := returns
      cases entriesEq
      exact .cons first (ih returned)

theorem Node.outlineMembers_append (scope : Scope) (className : String)
    (first second : List Node) :
    Node.outlineMembers scope className (first ++ second) = do
      let front ← Node.outlineMembers scope className first
      let back ← Node.outlineMembers scope className second
      return front ++ back := by
  induction first with
  | nil => simp [outlineMembers]
  | cons member rest ih => simp [outlineMembers, ih]

theorem Node.outlineMembers_append_eq_ok_iff (scope : Scope) (className : String)
    (first second : List Node) (entries : List MemberOutline) :
    (Node.outlineMembers scope className (first ++ second)).outcome = .ok entries ↔
      ∃ front back, (Node.outlineMembers scope className first).outcome = .ok front ∧
        (Node.outlineMembers scope className second).outcome = .ok back ∧
        front ++ back = entries := by
  rw [outlineMembers_append, Analysis.outcome_bind, bind_eq_ok_iff]
  simp only [Analysis.outcome_bind, bind_eq_ok_iff, Analysis.outcome_pure, Except.ok.injEq,
    exists_and_left]

/-- Members in groups are outlined group by group. -/
theorem Node.exists_parts_of_flatten {scope : Scope} {className : String}
    {groups : List (List Node)} {entries : List MemberOutline}
    (returns : (Node.outlineMembers scope className groups.flatten).outcome = .ok entries) :
    ∃ parts, List.Forall₂ (fun members part =>
        (Node.outlineMembers scope className members).outcome = .ok part) groups parts ∧
      parts.flatten = entries := by
  induction groups generalizing entries with
  | nil => exact ⟨[], .nil, Except.ok.inj returns⟩
  | cons members rest ih =>
      rw [List.flatten_cons, outlineMembers_append_eq_ok_iff] at returns
      obtain ⟨front, back, first, others, rfl⟩ := returns
      obtain ⟨parts, each, rfl⟩ := ih others
      exact ⟨front :: parts, .cons first each, rfl⟩

theorem Node.outlineMembers_flatten_returns {scope : Scope} {className : String}
    {groups : List (List Node)}
    (each : ∀ members ∈ groups, ∃ part,
      (Node.outlineMembers scope className members).outcome = .ok part) :
    ∃ entries, (Node.outlineMembers scope className groups.flatten).outcome = .ok entries := by
  induction groups with
  | nil => exact ⟨[], rfl⟩
  | cons members rest ih =>
      obtain ⟨⟨front, first⟩, others⟩ := List.forall_mem_cons.mp each
      obtain ⟨back, returns⟩ := ih others
      exact ⟨front ++ back, (outlineMembers_append_eq_ok_iff _ _ _ _ _).mpr
        ⟨front, back, first, returns, rfl⟩⟩

theorem Node.notes_outlineMembers_flatten {scope : Scope} {className : String}
    {groups : List (List Node)} {entries : List MemberOutline}
    (returns : (Node.outlineMembers scope className groups.flatten).outcome = .ok entries) :
    (Node.outlineMembers scope className groups.flatten).notes =
      groups.flatMap fun members => (Node.outlineMembers scope className members).notes := by
  induction groups generalizing entries with
  | nil => rfl
  | cons members rest ih =>
      rw [List.flatten_cons, outlineMembers_append_eq_ok_iff] at returns
      obtain ⟨front, back, first, others, _⟩ := returns
      rw [List.flatten_cons, outlineMembers_append, Analysis.notes_bind, first, List.flatMap_cons,
        ← ih others]
      dsimp only
      rw [Analysis.notes_bind, others]
      exact congrArg _ (List.append_nil _)

/-- A member that is malformed is outlined at any level. -/
theorem Node.outlineMember_malformed {member : Node} (malformed : member.isMalformed = true)
    (scope : Scope) (className : String) :
    ∃ entry, (member.outlineMember scope className).outcome = .ok entry := by
  cases member with
  | property decl =>
      have nameless : decl.name = "" := by simpa [isMalformed] using malformed
      rw [outlineMember_property, if_pos nameless]
      exact ⟨_, rfl⟩
  | function decl =>
      have nameless : decl.name = "" := by simpa [isMalformed] using malformed
      rw [outlineMember_function, if_pos nameless]
      exact ⟨_, rfl⟩
  | initializer _ | structured _ => cases malformed
  | _ => exact ⟨_, rfl⟩

/-! ## Classes -/

namespace StructuredDecl

variable {scope : Scope} {decl : StructuredDecl} {className : Option String}
  {members first second : List Node} {groups : List (List Node)} {outline : ClassOutline}

/-- The name under which a class is outlined. -/
def outlineName (decl : StructuredDecl) (className : Option String) : String :=
  (Text.given className).getD decl.name

/-- The outline that puts together what the members of a class add. -/
def gathered (decl : StructuredDecl) (className : Option String)
    (entries : List MemberOutline) : ClassOutline where
  name := decl.outlineName className
  form := decl.form
  superclasses := decl.supertypes.map simplifySupertype
  properties := entries.filterMap MemberOutline.property?
  methods := entries.filterMap MemberOutline.method?
  structures := entries.filterMap MemberOutline.marker?

theorem gathered_flatten (decl : StructuredDecl) (className : Option String)
    (parts : List (List MemberOutline)) :
    (decl.gathered className parts.flatten).Joins (parts.map (decl.gathered className)) where
  properties := by
    rw [List.flatMap_map]
    exact List.filterMap_flatten.trans List.flatMap_def.symm
  methods := by
    rw [List.flatMap_map]
    exact List.filterMap_flatten.trans List.flatMap_def.symm
  structures := by
    rw [List.flatMap_map]
    exact List.filterMap_flatten.trans List.flatMap_def.symm

theorem outline_of_named (scope : Scope) (members : List Node)
    (named : decl.outlineName className ≠ "") :
    (decl.withMembers members).outline scope className = do
      let entries ← Node.outlineMembers scope (decl.outlineName className) members
      let outline := decl.gathered className entries
      Analysis.log (.outlinedClass outline.name decl.supertypes.length outline.properties.length
        outline.methods.length)
      return outline :=
  if_neg named

/-- A class is outlined if it has a name and its members can be outlined. -/
theorem outline_eq_ok_iff :
    ((decl.withMembers members).outline scope className).outcome = .ok outline ↔
      decl.outlineName className ≠ "" ∧
        ∃ entries, (Node.outlineMembers scope (decl.outlineName className) members).outcome =
            .ok entries ∧ decl.gathered className entries = outline := by
  by_cases nameless : decl.outlineName className = ""
  · have fails : (decl.withMembers members).outline scope className =
        Analysis.fail .namelessClass := if_pos nameless
    simp [fails, nameless]
  · rw [outline_of_named scope members nameless, and_iff_right nameless, Analysis.outcome_bind,
      bind_eq_ok_iff]
    exact exists_congr fun entries => and_congr_right fun _ =>
      ⟨fun returned => Except.ok.inj returned, fun same => congrArg Except.ok same⟩

/-- The notes on a class are those on its members. -/
theorem notes_outline (named : decl.outlineName className ≠ "") :
    ((decl.withMembers members).outline scope className).notes =
      (Node.outlineMembers scope (decl.outlineName className) members).notes := by
  rw [outline_of_named scope members named, Analysis.notes_bind]
  split <;> exact List.append_nil _

/-- The outline of a class whose members come in groups joins the outlines of the
classes with one group each. -/
theorem exists_joins
    (returns : ((decl.withMembers groups.flatten).outline scope className).outcome =
      .ok outline) :
    ∃ parts,
      List.Forall₂ (fun members part =>
        ((decl.withMembers members).outline scope className).outcome = .ok part) groups parts ∧
      outline.Joins parts := by
  obtain ⟨named, entries, returned, rfl⟩ := outline_eq_ok_iff.mp returns
  obtain ⟨parts, each, rfl⟩ := Node.exists_parts_of_flatten returned
  refine ⟨parts.map (decl.gathered className), ?_, decl.gathered_flatten className parts⟩
  rw [List.forall₂_map_right_iff]
  exact each.imp fun members part returned => outline_eq_ok_iff.mpr ⟨named, part, returned, rfl⟩

/-- A class with a name is outlined if each group of its members can be outlined
by itself. -/
theorem returns_of_each (named : decl.outlineName className ≠ "")
    (each : ∀ members ∈ groups, ∃ part,
      ((decl.withMembers members).outline scope className).outcome = .ok part) :
    ∃ outline,
      ((decl.withMembers groups.flatten).outline scope className).outcome = .ok outline := by
  have entries : ∀ members ∈ groups, ∃ part,
      (Node.outlineMembers scope (decl.outlineName className) members).outcome = .ok part := by
    intro members member
    obtain ⟨part, returns⟩ := each members member
    obtain ⟨_, entries, returned, _⟩ := outline_eq_ok_iff.mp returns
    exact ⟨entries, returned⟩
  obtain ⟨all, returned⟩ := Node.outlineMembers_flatten_returns entries
  exact ⟨_, outline_eq_ok_iff.mpr ⟨named, all, returned, rfl⟩⟩

/-- The notes on a class whose members come in groups are those on the groups. -/
theorem notes_flatten
    (returns : ((decl.withMembers groups.flatten).outline scope className).outcome =
      .ok outline) :
    ((decl.withMembers groups.flatten).outline scope className).notes =
      groups.flatMap fun members => ((decl.withMembers members).outline scope className).notes := by
  obtain ⟨named, entries, returned, _⟩ := outline_eq_ok_iff.mp returns
  rw [notes_outline named, Node.notes_outlineMembers_flatten returned]
  exact List.flatMap_congr fun members _ => (notes_outline named).symm

theorem adds_of_outlineMember {member : Node} {entry : MemberOutline}
    (named : decl.outlineName className ≠ "")
    (returns : (member.outlineMember scope (decl.outlineName className)).outcome = .ok entry) :
    decl.Adds scope className member entry := by
  refine ⟨decl.gathered className [entry], outline_eq_ok_iff.mpr ⟨named, [entry], ?_, rfl⟩,
    ⟨rfl, rfl, rfl⟩⟩
  simp only [Node.outlineMembers, Analysis.outcome_bind, bind_eq_ok_iff]
  exact ⟨entry, returns, [], rfl, rfl⟩

/-- Every member adds one entry to one list, as it would by itself. -/
theorem outline_sorts (returns : (decl.outline scope className).outcome = .ok outline) :
    outline.Sorts decl.members (decl.Adds scope className) := by
  obtain ⟨named, entries, returned, rfl⟩ := outline_eq_ok_iff.mp returns
  have gathers : (decl.gathered className entries).Gathers entries := ⟨rfl, rfl, rfl⟩
  apply gathers.sorts
  apply (Node.outlineMembers_each returned).imp
  intro member entry returned
  have leaves :=
    (member.outlineMember_notes scope (decl.outlineName className)).holds entry returned
  exact ⟨leaves.list_eq, adds_of_outlineMember named returned⟩

theorem superclasses_eq (returns : (decl.outline scope className).outcome = .ok outline) :
    outline.superclasses = decl.supertypes.map simplifySupertype := by
  obtain ⟨_, _, _, rfl⟩ := outline_eq_ok_iff.mp returns
  rfl

/-- The class with two groups of members, seen from the classes with one each. -/
theorem exists_joins_append
    (returns : ((decl.withMembers (first ++ second)).outline scope className).outcome =
      .ok outline) :
    ∃ front back,
      ((decl.withMembers first).outline scope className).outcome = .ok front ∧
      ((decl.withMembers second).outline scope className).outcome = .ok back ∧
      outline.Joins [front, back] := by
  have groups : first ++ second = [first, second].flatten := by simp
  rw [groups] at returns
  obtain ⟨parts, each, joins⟩ := exists_joins returns
  simp only [List.forall₂_cons_left_iff, List.forall₂_nil_left_iff] at each
  obtain ⟨front, _, firstReturns, ⟨back, _, secondReturns, rfl, rfl⟩, rfl⟩ := each
  exact ⟨front, back, firstReturns, secondReturns, joins⟩

theorem returns_append_iff :
    (∃ outline, ((decl.withMembers (first ++ second)).outline scope className).outcome =
        .ok outline) ↔
      (∃ front, ((decl.withMembers first).outline scope className).outcome = .ok front) ∧
        ∃ back, ((decl.withMembers second).outline scope className).outcome = .ok back := by
  constructor
  · rintro ⟨outline, returns⟩
    obtain ⟨front, back, firstReturns, secondReturns, _⟩ := exists_joins_append returns
    exact ⟨⟨front, firstReturns⟩, ⟨back, secondReturns⟩⟩
  · rintro ⟨⟨front, firstReturns⟩, back⟩
    have groups : first ++ second = [first, second].flatten := by simp
    rw [groups]
    apply returns_of_each (outline_eq_ok_iff.mp firstReturns).1
    simpa using ⟨⟨front, firstReturns⟩, back⟩

theorem notes_append
    (returns : ((decl.withMembers (first ++ second)).outline scope className).outcome =
      .ok outline) :
    ((decl.withMembers (first ++ second)).outline scope className).notes =
      ((decl.withMembers first).outline scope className).notes ++
        ((decl.withMembers second).outline scope className).notes := by
  have groups : first ++ second = [first, second].flatten := by simp
  rw [groups] at returns ⊢
  simpa using notes_flatten returns

/-- A malformed member is put between what the others list. -/
theorem exists_joins_malformed {member : Node} (malformed : member.isMalformed = true)
    (returns : ((decl.withMembers (first ++ second)).outline scope className).outcome =
      .ok outline) :
    ∃ front single back other,
      ((decl.withMembers first).outline scope className).outcome = .ok front ∧
      ((decl.withMembers [member]).outline scope className).outcome = .ok single ∧
      ((decl.withMembers second).outline scope className).outcome = .ok back ∧
      ((decl.withMembers (first ++ member :: second)).outline scope className).outcome =
        .ok other ∧
      outline.Joins [front, back] ∧ other.Joins [front, single, back] := by
  obtain ⟨front, back, firstReturns, secondReturns, joins⟩ := exists_joins_append returns
  have named := (outline_eq_ok_iff.mp firstReturns).1
  obtain ⟨entry, entryReturns⟩ :=
    Node.outlineMember_malformed malformed scope (decl.outlineName className)
  obtain ⟨single, singleReturns, _⟩ := adds_of_outlineMember named entryReturns
  have groups : first ++ member :: second = [first, [member], second].flatten := by simp
  rw [groups]
  obtain ⟨other, otherReturns⟩ : ∃ other, ((decl.withMembers
      [first, [member], second].flatten).outline scope className).outcome = .ok other := by
    apply returns_of_each named
    simpa using ⟨⟨front, firstReturns⟩, ⟨single, singleReturns⟩, ⟨back, secondReturns⟩⟩
  obtain ⟨parts, each, otherJoins⟩ := exists_joins otherReturns
  -- Outlining is a function, so the parts are the outlines already found.
  have same : parts = [front, single, back] := by
    refine List.right_unique_forall₂' ?_ each
      (.cons firstReturns (.cons singleReturns (.cons secondReturns .nil)))
    intro members part other partReturns otherReturns
    exact Except.ok.inj (partReturns.symm.trans otherReturns)
  exact ⟨front, single, back, other, firstReturns, singleReturns, secondReturns, otherReturns,
    joins, same ▸ otherJoins⟩

/-- The members of a class are outlined one by one. -/
structure OutlinedByMember (decl : StructuredDecl) (scope : Scope) (className : Option String) :
    Prop where
  /-- Every member adds one entry to one list, the one for its shape, and each list
  is in the order of the members. -/
  sorts : ∀ outline, (decl.outline scope className).outcome = .ok outline →
    outline.Sorts decl.members (decl.Adds scope className)
  /-- There is one superclass for each supertype, in order. -/
  superclasses : ∀ outline, (decl.outline scope className).outcome = .ok outline →
    outline.superclasses = decl.supertypes.map simplifySupertype
  /-- Members can be outlined together exactly if they can be outlined in two
  groups. -/
  returns_iff : ∀ first second,
    (∃ outline, ((decl.withMembers (first ++ second)).outline scope className).outcome =
        .ok outline) ↔
      (∃ front, ((decl.withMembers first).outline scope className).outcome = .ok front) ∧
        ∃ back, ((decl.withMembers second).outline scope className).outcome = .ok back
  /-- The lists of the two groups are then joined, -/
  joins : ∀ first second outline,
    ((decl.withMembers (first ++ second)).outline scope className).outcome = .ok outline →
      ∃ front back,
        ((decl.withMembers first).outline scope className).outcome = .ok front ∧
        ((decl.withMembers second).outline scope className).outcome = .ok back ∧
        outline.Joins [front, back]
  /-- and so are their notes. -/
  notes : ∀ first second outline,
    ((decl.withMembers (first ++ second)).outline scope className).outcome = .ok outline →
      ((decl.withMembers (first ++ second)).outline scope className).notes =
        ((decl.withMembers first).outline scope className).notes ++
          ((decl.withMembers second).outline scope className).notes
  /-- A malformed member stops nothing.  It adds what it adds by itself, and the
  entries before and after it are those without it. -/
  malformed : ∀ first member second outline, member.isMalformed = true →
    ((decl.withMembers (first ++ second)).outline scope className).outcome = .ok outline →
      ∃ front single back other,
        ((decl.withMembers first).outline scope className).outcome = .ok front ∧
        ((decl.withMembers [member]).outline scope className).outcome = .ok single ∧
        ((decl.withMembers second).outline scope className).outcome = .ok back ∧
        ((decl.withMembers (first ++ member :: second)).outline scope className).outcome =
          .ok other ∧
        outline.Joins [front, back] ∧ other.Joins [front, single, back]

/-- No member of a class is dropped, and none changes what another one adds. -/
theorem outline_memberByMember (scope : Scope) (decl : StructuredDecl)
    (className : Option String) : decl.OutlinedByMember scope className where
  sorts _ := outline_sorts
  superclasses _ := superclasses_eq
  returns_iff _ _ := returns_append_iff
  joins _ _ _ := exists_joins_append
  notes _ _ _ := notes_append
  malformed _ _ _ _ := exists_joins_malformed

/-- The noted class cut before its function: two properties come first, and the call
among its members is a third one after the methods. -/
theorem outline_notedClass_cut : ∃ outline front back,
    (notedClass.outline ⟨.default, 3⟩ none).outcome = .ok outline ∧
      ((notedClass.withMembers (notedClass.members.take 2)).outline ⟨.default, 3⟩ none).outcome =
        .ok front ∧
      ((notedClass.withMembers (notedClass.members.drop 2)).outline ⟨.default, 3⟩ none).outcome =
        .ok back ∧
      front.properties.map Property.name = ["<unknown>", "rows"] ∧
      back.properties.map Property.name = ["<unknown>"] ∧
      back.methods.map Method.name = ["main", "<init>"] ∧
      back.structures = ["class Model"] ∧
      outline.Joins [front, back] := by
  obtain ⟨front, back, frontReturns, backReturns, joins⟩ :=
    (outline_memberByMember ⟨.default, 3⟩ notedClass none).joins (notedClass.members.take 2)
      (notedClass.members.drop 2) _ rfl
  cases frontReturns
  cases backReturns
  exact ⟨_, _, _, rfl, rfl, rfl, rfl, rfl, rfl, rfl, joins⟩

end StructuredDecl

end ViewOutline
