import ViewOutline.Proofs.Containment.Discovery
import ViewOutline.Proofs.Nesting.Member

/-!
# Leaving out kinds of controls

A vocabulary that recognises fewer widgets finds fewer controls in a class.  The
controls it finds are the same ones, with the same identifiers, and what stood
inside a control that is no longer found moves out to the next control around
it.  So the graph of the smaller vocabulary is that of the larger one with the
controls of the other kinds contracted away.

Both graphs show the same source text, so their containers are compared through
the calls that enclose a site.  Of the enclosing calls of the larger vocabulary
the smaller one keeps some, and the innermost that is kept is reached from a
control by going outwards past those that are not.
-/

namespace ViewOutline

namespace Containment

/-- A control of the graph is of a kind that is kept. -/
def Keeps (graph : Containment) (kept : String → Bool) (uid : String) : Prop :=
  ∃ control, graph.nodes.find? uid = some control ∧ kept control.kind = true

/-- Going outwards from a control, the first one that is kept. -/
inductive NextKept (graph : Containment) (kept : String → Bool) : String → String → Prop
  | container {uid outer : String} :
      graph.parentOf uid = some outer → graph.Keeps kept outer → NextKept graph kept uid outer
  | further {uid middle outer : String} :
      graph.parentOf uid = some middle → ¬ graph.Keeps kept middle →
      NextKept graph kept middle outer → NextKept graph kept uid outer

end Containment

/-- Some controls and their graph are what is left of others when the controls
of the kinds that are not kept are contracted away. -/
structure ContractsTo (kept : String → Bool) (many few : Harvest) : Prop where
  /-- The controls of the kept kinds are left, unchanged and in order. -/
  controls : few.controls = many.controls.filter fun control => kept control.kind
  /-- The container of a control is the next kept control around it. -/
  container : ∀ control ∈ few.controls, ∀ outer,
    few.graph.parentOf control.uid = some outer ↔
      many.graph.NextKept kept control.uid outer
  /-- The controls without a kept control around them are the roots. -/
  root : ∀ control ∈ few.controls,
    control.uid ∈ few.graph.roots ↔ ∀ outer, ¬ many.graph.NextKept kept control.uid outer

section

variable {small large : Vocabulary} {members : List Node}

/-! ## Enclosing calls of two vocabularies -/

theorem isWidget_of_subset (subset : small.widgets ⊆ large.widgets) {name : String}
    (widget : small.isWidget name = true) : large.isWidget name = true := by
  simp only [Vocabulary.isWidget, List.contains_iff_mem] at widget ⊢
  exact subset widget

theorem WidgetAt.of_subset (subset : small.widgets ⊆ large.widgets) {site : Way} {call : Call}
    (widget : WidgetAt small members site call) : WidgetAt large members site call :=
  ⟨widget.1, isWidget_of_subset subset widget.2⟩

theorem Encloses.of_subset (subset : small.widgets ⊆ large.widgets) {outer site : Way}
    (encloses : Encloses small members outer site) : Encloses large members outer site := by
  obtain ⟨⟨call, widget⟩, through⟩ := encloses
  exact ⟨⟨call, widget.of_subset subset⟩, through⟩

/-- The innermost enclosing call of the larger vocabulary, where the smaller one
knows it too, is the innermost for both. -/
theorem Contains.of_widget (subset : small.widgets ⊆ large.widgets) {outer site : Way}
    (contains : Contains large members outer site)
    (widget : ∃ call, WidgetAt small members outer call) : Contains small members outer site := by
  refine ⟨⟨widget, contains.1.2⟩, ?_⟩
  intro other encloses
  exact contains.2 other (encloses.of_subset subset)

/-- What encloses a site and is not its container encloses the container. -/
theorem encloses_container_iff (subset : small.widgets ⊆ large.widgets) {middle site : Way}
    (contains : Contains large members middle site)
    (unknown : ¬ ∃ call, WidgetAt small members middle call) (outer : Way) :
    Encloses small members outer site ↔ Encloses small members outer middle := by
  have inside : middle <+: site := (List.prefix_append middle _).trans contains.1.2
  constructor
  · rintro ⟨widget, through⟩
    refine ⟨widget, ?_⟩
    have around : outer <+: middle :=
      contains.2 outer (Encloses.of_subset subset ⟨widget, through⟩)
    have different : outer ≠ middle := fun equal => unknown (equal ▸ widget)
    exact trailing_prefix_of_ne through around inside different
  · rintro ⟨widget, through⟩
    exact ⟨widget, through.trans inside⟩

/-- Past a container that the smaller vocabulary does not know, its innermost
enclosing call is that of the container. -/
theorem contains_container_iff (subset : small.widgets ⊆ large.widgets) {middle site : Way}
    (contains : Contains large members middle site)
    (unknown : ¬ ∃ call, WidgetAt small members middle call) (outer : Way) :
    Contains small members outer site ↔ Contains small members outer middle := by
  simp only [Contains, encloses_container_iff subset contains unknown]

/-! ## The same controls -/

/-- The call at a site. -/
def callAt? (members : List Node) (site : Way) : Option Call :=
  match nodeAt? members site with
  | some (.call call) => some call
  | _ => none

theorem WidgetAt.callAt?_eq {vocabulary : Vocabulary} {site : Way} {call : Call}
    (widget : WidgetAt vocabulary members site call) : callAt? members site = some call := by
  rw [callAt?, widget.1]

/-- The widget calls of the smaller vocabulary are the ones it knows among those
of the larger. -/
theorem widgetWays_eq_filter (subset : small.widgets ⊆ large.widgets) (members : List Node) :
    widgetWays small (sites members) =
      (widgetWays large (sites members)).filter fun site =>
        (callAt? members site).any fun call => small.isWidget call.name := by
  rw [widgetWays, widgetWays, List.filter_map, List.filter_filter]
  congr 1
  apply List.filter_congr
  rintro ⟨site, node⟩ member
  have stands := (mem_sites_iff members site node).mp member
  cases node with
  | call invoked =>
      cases known : small.isWidget invoked.name with
      | true =>
          have alsoKnown := isWidget_of_subset subset known
          simp [Node.widget?, callAt?, stands, known, alsoKnown]
      | false => simp [Node.widget?, callAt?, stands, known]
  | _ => simp [Node.widget?]

variable {finds others : List Find} {few many : Harvest}

/-- What the smaller vocabulary finds stands where the larger one finds a kind
that the smaller one knows. -/
theorem Tracks.sites_eq (subset : small.widgets ⊆ large.widgets)
    (manyTracks : Tracks large members others many)
    (fewSites : finds.map Find.site = widgetWays small (sites members))
    (manySites : others.map Find.site = widgetWays large (sites members)) :
    finds.map Find.site =
      (others.filter fun find => small.isWidget find.control.kind).map Find.site := by
  rw [fewSites, widgetWays_eq_filter subset, ← manySites, List.filter_map]
  congr 1
  apply List.filter_congr
  intro find member
  obtain ⟨call, widget, kindEq, _⟩ := manyTracks.built find member
  simp [widget.callAt?_eq, kindEq]

/-- The kinds and labels of finds are those of the calls at their sites. -/
theorem map_described {vocabulary : Vocabulary} {finds : List Find}
    (built : ∀ find ∈ finds, ∃ call, WidgetAt vocabulary members find.site call ∧
      find.control.kind = call.name ∧ find.control.label = call.label) :
    ((finds.map Find.control).map fun control => (control.kind, control.label)).map some =
      (finds.map Find.site).map fun site =>
        (callAt? members site).map fun call => (call.name, call.label) := by
  rw [List.map_map, List.map_map, List.map_map]
  apply List.map_congr_left
  intro find member
  obtain ⟨call, widget, kindEq, labelEq⟩ := built find member
  simp [widget.callAt?_eq, kindEq, labelEq]

theorem Tracks.filter_controls (tracks : Tracks large members others many)
    (kept : String → Bool) :
    (many.controls.filter fun control => kept control.kind) =
      (others.filter fun find => kept find.control.kind).map Find.control := by
  rw [tracks.controls, List.filter_map]
  rfl

/-- The smaller vocabulary finds the controls of the kinds it knows, and their
identifiers are the same, since ordinals are counted for each kind apart. -/
theorem Tracks.controls_eq (fewTracks : Tracks small members finds few)
    (manyTracks : Tracks large members others many) (fewGrown : few.Grown)
    (manyGrown : many.Grown)
    (sitesEq : finds.map Find.site =
      (others.filter fun find => small.isWidget find.control.kind).map Find.site) :
    few.controls = many.controls.filter fun control => small.isWidget control.kind := by
  apply fewGrown.numbered.eq_of_map_eq (manyGrown.numbered.filter small.isWidget)
  apply List.map_injective_iff.mpr fun _ _ => Option.some.inj
  rw [manyTracks.filter_controls, fewTracks.controls, map_described fewTracks.built, sitesEq,
    map_described]
  intro find member
  exact manyTracks.built find (List.mem_of_mem_filter member)

/-- Each find of the smaller vocabulary is one of the larger: the same control at
the same site. -/
theorem Tracks.finds_eq (subset : small.widgets ⊆ large.widgets)
    (fewTracks : Tracks small members finds few) (manyTracks : Tracks large members others many)
    (fewGrown : few.Grown) (manyGrown : many.Grown)
    (fewSites : finds.map Find.site = widgetWays small (sites members))
    (manySites : others.map Find.site = widgetWays large (sites members)) :
    finds.map (fun find => (find.site, find.control)) =
      (others.filter fun find => small.isWidget find.control.kind).map
        fun find => (find.site, find.control) := by
  have sitesEq := manyTracks.sites_eq subset fewSites manySites
  have controlsEq := fewTracks.controls_eq manyTracks fewGrown manyGrown sitesEq
  rw [← List.zip_map', ← List.zip_map', sitesEq, ← manyTracks.filter_controls, ← controlsEq,
    fewTracks.controls]

/-! ## Containers -/

/-- A find is kept in the graph if its kind is. -/
theorem Tracks.keeps_iff (tracks : Tracks large members others many) (kept : String → Bool)
    {find : Find} (member : find ∈ others) :
    many.graph.Keeps kept find.control.uid ↔ kept find.control.kind = true := by
  have found : many.graph.nodes.find? find.control.uid = some find.control := by
    rw [Table.find?_eq_some_iff, tracks.grown.nodes, List.map_map]
    exact List.mem_map.mpr ⟨find, member, rfl⟩
  simp [Containment.Keeps, found]

/-- A call at which the larger vocabulary finds a control is known to the smaller
one if the kind of the control is. -/
theorem Tracks.widget_iff (tracks : Tracks large members others many) {find : Find}
    (member : find ∈ others) :
    (∃ call, WidgetAt small members find.site call) ↔
      small.isWidget find.control.kind = true := by
  obtain ⟨call, widget, kindEq, _⟩ := tracks.built find member
  constructor
  · rintro ⟨other, stands, known⟩
    have same := widget.1.symm.trans stands
    cases same
    rw [kindEq]
    exact known
  · intro known
    exact ⟨call, widget.1, kindEq ▸ known⟩

/-- What is kept in the graph are the calls that the smaller vocabulary knows. -/
theorem Tracks.widget_iff_keeps (tracks : Tracks large members others many) {find : Find}
    (member : find ∈ others) :
    (∃ call, WidgetAt small members find.site call) ↔
      many.graph.Keeps small.isWidget find.control.uid :=
  (tracks.widget_iff member).trans (tracks.keeps_iff small.isWidget member).symm

/-- Going outwards to the next kept control leads to the innermost call around
it that the smaller vocabulary knows. -/
theorem Tracks.contains_of_nextKept (subset : small.widgets ⊆ large.widgets)
    (tracks : Tracks large members others many) (nodup : (others.map Find.site).Nodup)
    {inner outer : String} (next : many.graph.NextKept small.isWidget inner outer) :
    ∀ find ∈ others, find.control.uid = inner →
      ∃ container ∈ others, container.control.uid = outer ∧
        Contains small members container.site find.site := by
  induction next with
  | container inside keeps =>
      rintro find member rfl
      rw [tracks.parentOf_eq member, tracks.container_eq_some_iff nodup member] at inside
      obtain ⟨container, containerMem, rfl, contains⟩ := inside
      exact ⟨container, containerMem, rfl,
        contains.of_widget subset ((tracks.widget_iff_keeps containerMem).mpr keeps)⟩
  | further inside passed _ ih =>
      rintro find member rfl
      rw [tracks.parentOf_eq member, tracks.container_eq_some_iff nodup member] at inside
      obtain ⟨middle, middleMem, rfl, contains⟩ := inside
      obtain ⟨container, containerMem, uidEq, around⟩ := ih middle middleMem rfl
      have unknown := mt (tracks.widget_iff_keeps middleMem).mp passed
      exact ⟨container, containerMem, uidEq,
        (contains_container_iff subset contains unknown _).mpr around⟩

/-- The innermost call around a control that the smaller vocabulary knows is
reached by going outwards to the next kept control. -/
theorem Tracks.nextKept_of_contains (subset : small.widgets ⊆ large.widgets)
    (tracks : Tracks large members others many) (nodup : (others.map Find.site).Nodup)
    {container : Find} (containerMem : container ∈ others) (find : Find) (member : find ∈ others)
    (contains : Contains small members container.site find.site) :
    many.graph.NextKept small.isWidget find.control.uid container.control.uid := by
  -- The induction is on how far inside the site lies.
  induction length : find.site.length using Nat.strong_induction_on generalizing find with
  | h depth ih =>
      have enclosed : find.container ≠ none := by
        rw [Ne, tracks.container_eq_none_iff member]
        intro free
        exact free _ (contains.1.of_subset subset)
      obtain ⟨uid, inside⟩ := Option.ne_none_iff_exists'.mp enclosed
      obtain ⟨middle, middleMem, rfl, middleContains⟩ :=
        (tracks.container_eq_some_iff nodup member _).mp inside
      rw [← tracks.parentOf_eq member] at inside
      by_cases keeps : many.graph.Keeps small.isWidget middle.control.uid
      · have known := (tracks.widget_iff_keeps middleMem).mpr keeps
        have sitesEq := (middleContains.of_widget subset known).unique contains
        have same := List.inj_on_of_nodup_map nodup middleMem containerMem sitesEq
        subst same
        exact .container inside keeps
      · have unknown := mt (tracks.widget_iff_keeps middleMem).mp keeps
        have around := (contains_container_iff subset middleContains unknown _).mp contains
        have shorter : middle.site.length < depth := length ▸ middleContains.1.length_lt
        exact .further inside keeps (ih _ shorter middle middleMem around rfl)

/-- The next kept control around a find of the smaller vocabulary is its
container there. -/
theorem Tracks.container_iff_nextKept (subset : small.widgets ⊆ large.widgets)
    (fewTracks : Tracks small members finds few) (manyTracks : Tracks large members others many)
    (fewNodup : (finds.map Find.site).Nodup) (manyNodup : (others.map Find.site).Nodup)
    (twins : ∀ site control, (∃ find ∈ finds, find.site = site ∧ find.control = control) ↔
      ∃ find ∈ others, small.isWidget find.control.kind = true ∧
        find.site = site ∧ find.control = control)
    {find : Find} (member : find ∈ finds) (outer : String) :
    few.graph.parentOf find.control.uid = some outer ↔
      many.graph.NextKept small.isWidget find.control.uid outer := by
  obtain ⟨twin, twinMem, _, siteEq, controlEq⟩ := (twins _ _).mp ⟨find, member, rfl, rfl⟩
  rw [fewTracks.parentOf_eq member, fewTracks.container_eq_some_iff fewNodup member,
    ← siteEq, ← controlEq]
  constructor
  · rintro ⟨container, containerMem, rfl, contains⟩
    obtain ⟨around, aroundMem, _, aroundSite, aroundControl⟩ :=
      (twins _ _).mp ⟨container, containerMem, rfl, rfl⟩
    rw [← aroundSite] at contains
    rw [← aroundControl]
    exact manyTracks.nextKept_of_contains subset manyNodup aroundMem twin twinMem contains
  · intro next
    obtain ⟨around, aroundMem, rfl, contains⟩ :=
      manyTracks.contains_of_nextKept subset manyNodup next twin twinMem rfl
    have known := (manyTracks.widget_iff aroundMem).mp contains.1.1
    obtain ⟨container, containerMem, containerSite, containerControl⟩ :=
      (twins _ _).mpr ⟨around, aroundMem, known, rfl, rfl⟩
    exact ⟨container, containerMem, by rw [containerControl], by rwa [containerSite]⟩

end

/-- The controls and the graph that a smaller vocabulary finds are those of a
larger one with the kinds that it does not know contracted away. -/
theorem contractsTo_of_findControls {small large : Vocabulary} {depth : Nat}
    {members : List Node} {few many : Harvest} (subset : small.widgets ⊆ large.widgets)
    (fewReturns : (Node.findControls ⟨small, depth⟩ members).outcome = .ok few)
    (manyReturns : (Node.findControls ⟨large, depth⟩ members).outcome = .ok many) :
    ContractsTo small.isWidget many few := by
  obtain ⟨finds, fewTracks, fewSites⟩ := exists_tracks_of_findControls fewReturns
  obtain ⟨others, manyTracks, manySites⟩ := exists_tracks_of_findControls manyReturns
  have fewGrown := Node.grown_of_findControls fewReturns
  have manyGrown := Node.grown_of_findControls manyReturns
  have findsEq := fewTracks.finds_eq subset manyTracks fewGrown manyGrown fewSites manySites
  have twins : ∀ site control, (∃ find ∈ finds, find.site = site ∧ find.control = control) ↔
      ∃ find ∈ others, small.isWidget find.control.kind = true ∧
        find.site = site ∧ find.control = control := by
    intro site control
    have memIff : (site, control) ∈ finds.map (fun find => (find.site, find.control)) ↔
        (site, control) ∈ (others.filter fun find => small.isWidget find.control.kind).map
          fun find => (find.site, find.control) := by
      rw [findsEq]
    simpa only [List.mem_map, List.mem_filter, Prod.mk.injEq, and_assoc] using memIff
  have containers : ∀ control ∈ few.controls, ∀ outer,
      few.graph.parentOf control.uid = some outer ↔
        many.graph.NextKept small.isWidget control.uid outer := by
    intro control controlMem outer
    rw [fewTracks.controls] at controlMem
    obtain ⟨find, member, rfl⟩ := List.mem_map.mp controlMem
    exact fewTracks.container_iff_nextKept subset manyTracks
      (fewSites ▸ nodup_widgetWays small members) (manySites ▸ nodup_widgetWays large members)
      twins member outer
  refine ⟨?_, containers, ?_⟩
  · exact fewTracks.controls_eq manyTracks fewGrown manyGrown
      (manyTracks.sites_eq subset fewSites manySites)
  · intro control controlMem
    have present : control.uid ∈ few.graph.nodes.keys := by
      rw [fewTracks.grown.keys_nodes, fewTracks.map_uid_eq]
      exact List.mem_map.mpr ⟨control, controlMem, rfl⟩
    rw [← fewTracks.grown.parentOf_eq_none_iff present, Option.eq_none_iff_forall_ne_some]
    exact forall_congr' fun outer => not_congr (containers control controlMem outer)

/-- How far a search goes in does not depend on the widgets. -/
theorem exceeded_findControls_iff {small large : Vocabulary}
    (sameHeight : small.ceiling.height = large.ceiling.height) (depth : Nat)
    (members : List Node) :
    Scope.Exceeded ⟨small, depth⟩ (Node.findControls ⟨small, depth⟩ members).outcome ↔
      Scope.Exceeded ⟨large, depth⟩ (Node.findControls ⟨large, depth⟩ members).outcome := by
  rw [(Node.findControls_takes _ members).exceeded_iff,
    (Node.findControls_takes _ members).exceeded_iff, sameHeight]

/-- With more widgets in the vocabulary a search stops at the ceiling where it
did before.  Otherwise both searches return, and what was found before is what is
found now with the new kinds contracted away. -/
theorem findControls_contractsTo (small large : Vocabulary)
    (sameHeight : small.ceiling.height = large.ceiling.height)
    (subset : small.widgets ⊆ large.widgets) (depth : Nat) (members : List Node) :
    (Scope.Exceeded ⟨small, depth⟩ (Node.findControls ⟨small, depth⟩ members).outcome ↔
      Scope.Exceeded ⟨large, depth⟩ (Node.findControls ⟨large, depth⟩ members).outcome) ∧
    (¬ Scope.Exceeded ⟨small, depth⟩ (Node.findControls ⟨small, depth⟩ members).outcome →
      ∃ few many, (Node.findControls ⟨small, depth⟩ members).outcome = .ok few ∧
        (Node.findControls ⟨large, depth⟩ members).outcome = .ok many ∧
          ContractsTo small.isWidget many few) := by
  have together := exceeded_findControls_iff sameHeight depth members
  refine ⟨together, ?_⟩
  intro fits
  obtain ⟨few, fewReturns⟩ :=
    (Node.findControls_takes ⟨small, depth⟩ members).returns_or_exceeded.resolve_right fits
  obtain ⟨many, manyReturns⟩ :=
    (Node.findControls_takes ⟨large, depth⟩ members).returns_or_exceeded.resolve_right
      (mt together.mpr fits)
  exact ⟨few, many, fewReturns, manyReturns,
    contractsTo_of_findControls subset fewReturns manyReturns⟩

/-- A vocabulary that knows boxes in which controls stand in a column, and buttons. -/
def columnVocabulary : Vocabulary :=
  { Vocabulary.default with widgets := ["vbox", "button"] }

/-- A button in a row inside a column, and another beside the row. -/
def columnMember : Node :=
  .initializer [.call ⟨"vbox", [], some ⟨[], [
    .call ⟨"hbox", [], some ⟨[], [.call ⟨"button", [], none, none⟩]⟩, none⟩,
    .call ⟨"button", [], none, none⟩]⟩, none⟩]

/-- Without the row the first button moves out to the column. -/
theorem findControls_columnMember :
    columnVocabulary.widgets ⊆ Vocabulary.default.widgets ∧
      ∃ few many, (Node.findControls ⟨columnVocabulary, 0⟩ [columnMember]).outcome = .ok few ∧
        (Node.findControls ⟨.default, 0⟩ [columnMember]).outcome = .ok many ∧
        many.graph.parentOf "button#1" = some "hbox#1" ∧
        few.graph.parentOf "button#1" = some "vbox#1" ∧
        ContractsTo columnVocabulary.isWidget many few := by
  have subset : columnVocabulary.widgets ⊆ Vocabulary.default.widgets := by
    intro name known
    simp only [columnVocabulary, List.mem_cons, List.not_mem_nil, or_false] at known
    rcases known with rfl | rfl <;> decide
  obtain ⟨few, many, fewReturns, manyReturns, contracts⟩ :=
    (findControls_contractsTo columnVocabulary .default rfl subset 0 [columnMember]).2
      (by rintro ⟨⟩)
  refine ⟨subset, few, many, fewReturns, manyReturns, ?_, ?_, contracts⟩
  · cases manyReturns
    rfl
  · cases fewReturns
    rfl

end ViewOutline
