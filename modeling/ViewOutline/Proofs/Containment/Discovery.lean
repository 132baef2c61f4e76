import ViewOutline.Proofs.Containment.Forest
import ViewOutline.Proofs.Containment.Scan

/-!
# The containment graph of a class

The graph found by the search is the one that the source text shows.  Its
controls are the widget calls of the class in the order in which they are
written, and the container of a control is the innermost widget call through
whose trailing lambda the way to the control goes.

The search carries the container along as an identifier.  The proof follows it
with the list of what was found: where, as which control, and inside what.
-/

namespace ViewOutline

/-! ## The sites of a class -/

/-- The expression one step below a member in which its search starts. -/
def Node.entry? : Node → Step → Option Node
  | .property decl, .initializer => decl.initializer
  | .property decl, .delegate => decl.delegate
  | .function decl, .body => decl.body
  | .initializer statements, .body => some (.block statements)
  | _, _ => none

/-- The node at a site of a class. -/
def nodeAt? (members : List Node) : Way → Option Node
  | .member index :: step :: way =>
      members[index]?.bind fun member => (member.entry? step).bind (·.follow? way)
  | _ => none

/-- The sites of a class with the nodes that stand there, in the order of
writing. -/
def sites (members : List Node) : List (Way × Node) :=
  below (fun member => below Node.places member.entries) (Step.toEach .member members 0)

theorem Node.mem_entries_iff (member : Node) (step : Step) (entry : Node) :
    (step, entry) ∈ member.entries ↔ member.entry? step = some entry := by
  cases member with
  | property decl => cases step <;> simp [entries, PropertyDecl.parts, entry?]
  | function decl => cases step <;> simp [entries, entry?]
  | initializer statements => cases step <;> simp [entries, entry?, eq_comm]
  | _ => simp [entries, entry?]

theorem Node.entries_ordered (member : Node) :
    member.entries.Pairwise fun first second => first.1.Before second.1 := by
  cases member with
  | property decl => exact decl.parts_ordered
  | function decl => cases body : decl.body <;> simp [entries, body]
  | initializer statements => simp [entries]
  | _ => exact List.Pairwise.nil

theorem mem_sites_iff (members : List Node) (site : Way) (node : Node) :
    (site, node) ∈ sites members ↔ nodeAt? members site = some node := by
  rcases site with _ | ⟨first, _ | ⟨second, way⟩⟩
  · simp [sites, nil_not_mem_below, nodeAt?]
  · simp [sites, cons_mem_below_iff, nil_not_mem_below, nodeAt?]
  · simp only [sites, cons_mem_below_iff, Step.mem_toEach_iff, Node.mem_entries_iff,
      Node.mem_places_iff]
    cases first with
    | member index => simp [nodeAt?, Option.bind_eq_some_iff]
    | _ => simp [nodeAt?]

theorem sites_ordered (members : List Node) :
    (sites members).Pairwise fun first second => Way.Before first.1 second.1 := by
  apply below_ordered (Step.toEach_ordered (fun _ _ => .members) _ _)
  intro _ member _
  apply below_ordered member.entries_ordered
  intro _ entry _
  exact entry.places_ordered

/-- A way below a site leads to where it leads from the node that stands there. -/
theorem nodeAt?_append {members : List Node} {site : Way} {node : Node}
    (stands : nodeAt? members site = some node) (way : Way) :
    nodeAt? members (site ++ way) = node.follow? way := by
  rcases site with _ | ⟨first, _ | ⟨second, rest⟩⟩
  · simp [nodeAt?] at stands
  · simp [nodeAt?] at stands
  · cases first with
    | member index =>
        simp only [nodeAt?, Option.bind_eq_some_iff, List.cons_append] at stands ⊢
        obtain ⟨member, memberAt, entry, entryAt, leads⟩ := stands
        rw [memberAt, Option.bind_some, entryAt, Option.bind_some,
          Node.follow?_append, leads, Option.bind_some]
    | _ => simp [nodeAt?] at stands

/-! ## Enclosing calls -/

/-- A widget-building call stands at a site. -/
def WidgetAt (vocabulary : Vocabulary) (members : List Node) (site : Way) (call : Call) : Prop :=
  nodeAt? members site = some (.call call) ∧ vocabulary.isWidget call.name = true

/-- The way to a site goes through the trailing lambda of the widget call at
another. -/
def Encloses (vocabulary : Vocabulary) (members : List Node) (outer site : Way) : Prop :=
  (∃ call, WidgetAt vocabulary members outer call) ∧ outer ++ [.trailing] <+: site

/-- The innermost of the widget calls that enclose a site. -/
def Contains (vocabulary : Vocabulary) (members : List Node) (outer site : Way) : Prop :=
  Encloses vocabulary members outer site ∧
    ∀ other, Encloses vocabulary members other site → other <+: outer

/-- What the source text of a class says about its controls and their graph.
The sites are those at which the controls are built. -/
structure Depicts (vocabulary : Vocabulary) (members : List Node) (places : List Way)
    (harvest : Harvest) : Prop where
  /-- The sites are those of the widget calls. -/
  mem_iff : ∀ site, site ∈ places ↔ ∃ call, WidgetAt vocabulary members site call
  /-- They come in the order of writing. -/
  ordered : places.Pairwise Way.Before
  /-- Each control is built by the call at its site. -/
  built : List.Forall₂ (fun site control => ∃ call, WidgetAt vocabulary members site call ∧
    control.kind = call.name ∧ control.label = call.label) places harvest.controls
  /-- The graph holds these controls in this order. -/
  nodes : harvest.graph.nodes.entries = harvest.controls.map fun control => (control.uid, control)
  /-- The container of a control is built by the innermost enclosing call. -/
  container : ∀ site control, (site, control) ∈ places.zip harvest.controls → ∀ uid,
    harvest.graph.parentOf control.uid = some uid ↔
      ∃ outer container, (outer, container) ∈ places.zip harvest.controls ∧
        container.uid = uid ∧ Contains vocabulary members outer site
  /-- The controls that nothing encloses are the roots. -/
  root : ∀ site control, (site, control) ∈ places.zip harvest.controls →
    (control.uid ∈ harvest.graph.roots ↔ ∀ outer, ¬ Encloses vocabulary members outer site)
  /-- The children of a control are those whose container it is. -/
  children : ∀ uid inner, inner ∈ harvest.graph.childrenOf uid ↔
    harvest.graph.parentOf inner = some uid
  /-- Roots are listed in the order in which they are found. -/
  roots_order : harvest.graph.roots.Sublist (harvest.controls.map Control.uid)
  /-- Children are listed in the order in which they are found. -/
  children_order : ∀ uid,
    (harvest.graph.childrenOf uid).Sublist (harvest.controls.map Control.uid)

section

variable {vocabulary : Vocabulary} {members : List Node}

/-- One step further in, what encloses is what did before, and the call itself
if the step goes into its trailing lambda. -/
theorem encloses_concat_iff (outer site : Way) (step : Step) :
    Encloses vocabulary members outer (site ++ [step]) ↔
      Encloses vocabulary members outer site ∨
        (step = .trailing ∧ outer = site ∧ ∃ call, WidgetAt vocabulary members site call) := by
  simp only [Encloses, List.prefix_concat_iff, List.append_singleton_inj]
  constructor
  · rintro ⟨widget, ⟨rfl, rfl⟩ | through⟩
    · exact Or.inr ⟨rfl, rfl, widget⟩
    · exact Or.inl ⟨widget, through⟩
  · rintro (⟨widget, through⟩ | ⟨rfl, rfl, widget⟩)
    · exact ⟨widget, Or.inr through⟩
    · exact ⟨widget, Or.inl ⟨rfl, rfl⟩⟩

/-- An enclosing call lies properly around the site. -/
theorem Encloses.length_lt {outer site : Way} (encloses : Encloses vocabulary members outer site) :
    outer.length < site.length := by
  have through := encloses.2.length_le
  rw [List.length_append, List.length_singleton] at through
  exact through

/-- A way into the trailing lambda of a call goes into it before it reaches
anything else inside the call. -/
theorem trailing_prefix_of_ne {outer middle site : Way} (through : outer ++ [.trailing] <+: site)
    (around : outer <+: middle) (inside : middle <+: site) (different : outer ≠ middle) :
    outer ++ [.trailing] <+: middle := by
  apply List.prefix_of_prefix_length_le through inside
  rw [List.length_append, List.length_singleton]
  exact Nat.lt_of_le_of_ne around.length_le fun lengths =>
    different (around.eq_of_length lengths)

/-- What encloses a site is its container and what encloses that. -/
theorem Contains.encloses_iff {middle site : Way}
    (contains : Contains vocabulary members middle site) (outer : Way) :
    Encloses vocabulary members outer site ↔
      outer = middle ∨ Encloses vocabulary members outer middle := by
  have inside : middle <+: site := (List.prefix_append middle _).trans contains.1.2
  constructor
  · intro encloses
    by_cases same : outer = middle
    · exact Or.inl same
    · have around := contains.2 outer encloses
      exact Or.inr ⟨encloses.1, trailing_prefix_of_ne encloses.2 around inside same⟩
  · rintro (rfl | ⟨widget, through⟩)
    · exact contains.1
    · exact ⟨widget, through.trans inside⟩

/-- A step that does not go into the trailing lambda of a widget call changes
nothing about what encloses. -/
theorem encloses_concat_of_outside {site : Way} {step : Step}
    (outside : ¬ (step = .trailing ∧ ∃ call, WidgetAt vocabulary members site call))
    (outer : Way) :
    Encloses vocabulary members outer (site ++ [step]) ↔
      Encloses vocabulary members outer site := by
  rw [encloses_concat_iff]
  constructor
  · rintro (encloses | ⟨trailing, _, widget⟩)
    · exact encloses
    · exact absurd ⟨trailing, widget⟩ outside
  · exact Or.inl

/-- A widget call contains what is directly in its trailing lambda. -/
theorem contains_concat_trailing {site : Way} {call : Call}
    (widget : WidgetAt vocabulary members site call) :
    Contains vocabulary members site (site ++ [.trailing]) := by
  refine ⟨(encloses_concat_iff _ _ _).mpr (Or.inr ⟨rfl, rfl, call, widget⟩), ?_⟩
  intro other encloses
  rcases (encloses_concat_iff _ _ _).mp encloses with ⟨_, through⟩ | ⟨_, rfl, _⟩
  · exact (List.prefix_append other _).trans through
  · exact List.prefix_rfl

/-! ## What was found -/

/-- A control with the site at which it was found and its container. -/
structure Find where
  site : Way
  control : Control
  container : Option String

/-- The addition that takes in what was found. -/
def Find.addition (find : Find) : Addition :=
  ⟨find.control, find.container⟩

/-- An identifier names the container of a site among the finds, and no
identifier means that nothing encloses the site. -/
def Placed (vocabulary : Vocabulary) (members : List Node) (finds : List Find) (site : Way) :
    Option String → Prop
  | none => ∀ outer, ¬ Encloses vocabulary members outer site
  | some uid => ∃ find ∈ finds, find.control.uid = uid ∧
      Contains vocabulary members find.site site

/-- A harvest holds what was found, each find is the control of the call at its
site, and its container is the right one. -/
structure Tracks (vocabulary : Vocabulary) (members : List Node) (finds : List Find)
    (harvest : Harvest) : Prop where
  controls : harvest.controls = finds.map Find.control
  grown : harvest.graph.GrownBy (finds.map Find.addition)
  built : ∀ find ∈ finds, ∃ call, WidgetAt vocabulary members find.site call ∧
    find.control.kind = call.name ∧ find.control.label = call.label
  placed : ∀ find ∈ finds, Placed vocabulary members finds find.site find.container

theorem Tracks.empty : Tracks vocabulary members [] .empty :=
  ⟨rfl, Containment.grownBy_empty, by simp, by simp⟩

/-- Later finds do not change where something is placed. -/
theorem Placed.append {finds : List Find} {site : Way} {container : Option String}
    (placed : Placed vocabulary members finds site container) (more : List Find) :
    Placed vocabulary members (finds ++ more) site container := by
  cases container with
  | none => exact placed
  | some uid =>
      obtain ⟨find, member, uidEq, contains⟩ := placed
      exact ⟨find, List.mem_append_left _ member, uidEq, contains⟩

/-- Outside of trailing lambdas of widget calls the container is passed on. -/
theorem Placed.concat {finds : List Find} {site : Way} {container : Option String}
    (placed : Placed vocabulary members finds site container) {step : Step}
    (outside : ¬ (step = .trailing ∧ ∃ call, WidgetAt vocabulary members site call)) :
    Placed vocabulary members finds (site ++ [step]) container := by
  have same := encloses_concat_of_outside outside
  cases container with
  | none => exact fun outer encloses => placed outer ((same outer).mp encloses)
  | some uid =>
      obtain ⟨find, member, uidEq, encloses, innermost⟩ := placed
      refine ⟨find, member, uidEq, (same _).mpr encloses, ?_⟩
      intro other otherEncloses
      exact innermost other ((same other).mp otherEncloses)

/-- A harvest takes in the control of a call where it is placed. -/
theorem Tracks.add {finds : List Find} {harvest next : Harvest}
    (tracks : Tracks vocabulary members finds harvest) {site : Way} {call : Call}
    {parent : Option String} (widget : WidgetAt vocabulary members site call)
    (placed : Placed vocabulary members finds site parent)
    (added : harvest.add (call.control harvest) parent = .ok next) :
    Tracks vocabulary members (finds ++ [⟨site, call.control harvest, parent⟩]) next := by
  have earlier : ∀ find ∈ finds,
      Placed vocabulary members (finds ++ [⟨site, call.control harvest, parent⟩])
        find.site find.container :=
    fun find member => (tracks.placed find member).append _
  obtain ⟨controlsEq, grown⟩ := Harvest.of_add tracks.grown added
  refine ⟨by simp [controlsEq, tracks.controls], by simpa [Find.addition] using grown, ?_, ?_⟩
  · intro find member
    rcases List.mem_append.mp member with before | last
    · exact tracks.built find before
    · rw [List.mem_singleton] at last
      subst last
      exact ⟨call, widget, rfl, rfl⟩
  · intro find member
    rcases List.mem_append.mp member with before | last
    · exact earlier find before
    · rw [List.mem_singleton] at last
      subst last
      exact placed.append _

/-- The ways that lead to widget calls. -/
def widgetWays (vocabulary : Vocabulary) (places : List (Way × Node)) : List Way :=
  (places.filter fun place => (place.2.widget? vocabulary).isSome).map Prod.fst

theorem mem_widgetWays_iff (places : List (Way × Node)) (way : Way) :
    way ∈ widgetWays vocabulary places ↔
      ∃ call, (way, .call call) ∈ places ∧ vocabulary.isWidget call.name = true := by
  simp only [widgetWays, List.mem_map, List.mem_filter, Option.isSome_iff_exists,
    Node.widget?_eq_some_iff]
  constructor
  · rintro ⟨⟨_, _⟩, ⟨member, call, rfl, widget⟩, rfl⟩
    exact ⟨call, member, widget⟩
  · rintro ⟨call, member, widget⟩
    exact ⟨(way, .call call), ⟨member, call, rfl, widget⟩, rfl⟩

theorem widgetWays_append (first second : List (Way × Node)) :
    widgetWays vocabulary (first ++ second) =
      widgetWays vocabulary first ++ widgetWays vocabulary second := by
  simp [widgetWays]

theorem widgetWays_map_cons (step : Step) (places : List (Way × Node)) :
    widgetWays vocabulary (places.map fun place => (step :: place.1, place.2)) =
      (widgetWays vocabulary places).map (step :: ·) := by
  simp [widgetWays, List.filter_map, Function.comp_def]

theorem widgetWays_ordered (vocabulary : Vocabulary) (members : List Node) :
    (widgetWays vocabulary (sites members)).Pairwise Way.Before := by
  rw [widgetWays, List.pairwise_map]
  exact (sites_ordered members).filter _

theorem nodup_widgetWays (vocabulary : Vocabulary) (members : List Node) :
    (widgetWays vocabulary (sites members)).Nodup :=
  Way.nodup_of_pairwise (widgetWays_ordered vocabulary members)

/-- The search of a node adds the widget calls below it, in order, each placed
where it stands. -/
def Node.Traced (vocabulary : Vocabulary) (members : List Node) (node : Node) : Prop :=
  ∀ (inside : Scope) (site : Way) (finds : List Find) (parent : Option String)
    (harvest result : Harvest),
    inside.vocabulary = vocabulary → nodeAt? members site = some node →
    Tracks vocabulary members finds harvest → Placed vocabulary members finds site parent →
    node.scan inside parent harvest = .ok result →
    ∃ more, Tracks vocabulary members (finds ++ more) result ∧
      more.map Find.site = (widgetWays vocabulary node.places).map (site ++ ·)

/-- The search of parts adds what the searches of the parts add. -/
theorem scanParts_traced {inside : Scope} (same : inside.vocabulary = vocabulary)
    {container : Step → Option String} {base : Way} {parts : List (Step × Node)}
    {finds : List Find} {harvest result : Harvest}
    (each : ∀ step child, (step, child) ∈ parts →
      child.Traced vocabulary members ∧ nodeAt? members (base ++ [step]) = some child ∧
        Placed vocabulary members finds (base ++ [step]) (container step))
    (tracks : Tracks vocabulary members finds harvest)
    (scanned : Node.scanParts inside container parts harvest = .ok result) :
    ∃ more, Tracks vocabulary members (finds ++ more) result ∧
      more.map Find.site =
        (widgetWays vocabulary (below Node.places parts)).map (base ++ ·) := by
  induction parts generalizing finds harvest with
  | nil =>
      cases scanned
      exact ⟨[], by simpa using tracks, rfl⟩
  | cons part rest ih =>
      rcases part with ⟨step, child⟩
      simp only [Node.scanParts, bind_eq_ok_iff] at scanned
      obtain ⟨within, descends, next, childScanned, restScanned⟩ := scanned
      obtain ⟨_, rfl⟩ := (Scope.descend_eq_ok_iff _ _).mp descends
      obtain ⟨traced, stands, placed⟩ := each step child List.mem_cons_self
      obtain ⟨first, firstTracks, firstSites⟩ :=
        traced (inside.deeper 1) _ _ _ _ _ same stands tracks placed childScanned
      have eachRest : ∀ other node, (other, node) ∈ rest →
          node.Traced vocabulary members ∧ nodeAt? members (base ++ [other]) = some node ∧
            Placed vocabulary members (finds ++ first) (base ++ [other]) (container other) := by
        intro other node member
        obtain ⟨otherTraced, otherStands, otherPlaced⟩ :=
          each other node (List.mem_cons_of_mem _ member)
        exact ⟨otherTraced, otherStands, otherPlaced.append first⟩
      obtain ⟨second, secondTracks, secondSites⟩ := ih eachRest firstTracks restScanned
      refine ⟨first ++ second, by simpa using secondTracks, ?_⟩
      rw [List.map_append, firstSites, secondSites, below_cons, widgetWays_append,
        widgetWays_map_cons, List.map_append, List.map_map]
      simp [Function.comp_def]

/-- What the parts of a node inherit as their container. -/
theorem Placed.part {finds : List Find} {site : Way} {node : Node} {parent : Option String}
    (stands : nodeAt? members site = some node) (plain : node.widget? vocabulary = none)
    (placed : Placed vocabulary members finds site parent) (step : Step) :
    Placed vocabulary members finds (site ++ [step]) parent := by
  apply placed.concat
  rintro ⟨_, call, standsCall, widget⟩
  rw [stands, Option.some.injEq] at standsCall
  have isWidget := (Node.widget?_eq_some_iff vocabulary node call).mpr ⟨standsCall, widget⟩
  rw [plain] at isWidget
  contradiction

/-- What the parts of a widget call get as their container, once it is found. -/
theorem Placed.partOfWidget {finds : List Find} {parent : Option String} (find : Find)
    {call : Call} (widget : WidgetAt vocabulary members find.site call)
    (placed : Placed vocabulary members finds find.site parent) (step : Step) :
    Placed vocabulary members (finds ++ [find]) (find.site ++ [step])
      (step.containerIn parent find.control.uid) := by
  by_cases trailing : step = .trailing
  · subst trailing
    exact ⟨find, by simp, rfl, contains_concat_trailing widget⟩
  · rw [Step.containerIn, if_neg trailing]
    exact (placed.append _).concat fun conditions => trailing conditions.1

/-- Every search of a node adds the widget calls below it. -/
theorem Node.traced (node : Node) : node.Traced vocabulary members := by
  induction node using Node.parts_induction with
  | step node ih =>
      intro inside site finds parent harvest result same stands tracks placed scanned
      have standsPart : ∀ step child, (step, child) ∈ node.parts →
          nodeAt? members (site ++ [step]) = some child := by
        intro step child member
        rw [nodeAt?_append stands, follow?_cons_eq_some_iff]
        exact ⟨child, member, rfl⟩
      rw [scan_eq, same] at scanned
      rw [places_eq]
      cases found : node.widget? vocabulary with
      | none =>
          rw [found] at scanned
          obtain ⟨more, moreTracks, moreSites⟩ := scanParts_traced same
            (fun step child member => ⟨ih step child member, standsPart step child member,
              placed.part stands found step⟩) tracks scanned
          refine ⟨more, moreTracks, moreSites.trans ?_⟩
          simp [widgetWays, found]
      | some invoked =>
          rw [found] at scanned
          obtain ⟨next, added, scanned⟩ := (bind_eq_ok_iff _ _ _).mp scanned
          obtain ⟨rfl, isWidget⟩ := (widget?_eq_some_iff _ _ _).mp found
          have widget : WidgetAt vocabulary members site invoked := ⟨stands, isWidget⟩
          obtain ⟨more, moreTracks, moreSites⟩ := scanParts_traced same
            (fun step child member => ⟨ih step child member, standsPart step child member,
              placed.partOfWidget ⟨site, invoked.control harvest, parent⟩ widget step⟩)
            (tracks.add widget placed added) scanned
          refine ⟨⟨site, invoked.control harvest, parent⟩ :: more, ?_, ?_⟩
          · simpa using moreTracks
          · rw [List.map_cons, moreSites]
            simp [widgetWays, found]

/-- Sites lie at least two steps below the class: a member and an entry. -/
theorem two_le_length_of_nodeAt? {site : Way} {node : Node}
    (stands : nodeAt? members site = some node) : 2 ≤ site.length := by
  rcases site with _ | ⟨first, _ | ⟨second, way⟩⟩
  · simp [nodeAt?] at stands
  · simp [nodeAt?] at stands
  · simp

/-- Nothing encloses the expressions in which a search starts. -/
theorem placed_entry (finds : List Find) (first second : Step) :
    Placed vocabulary members finds ([first] ++ [second]) none := by
  rintro outer ⟨⟨call, stands, _⟩, through⟩
  have long := two_le_length_of_nodeAt? stands
  have short := through.length_le
  simp only [List.length_append, List.length_cons, List.length_nil] at short
  omega

/-- The search of the members adds the widget calls of the class. -/
theorem scanMembers_traced {scope : Scope} (same : scope.vocabulary = vocabulary)
    {rest : List Node} {start : Nat} {finds : List Find} {harvest result : Harvest}
    (stands : ∀ first member, (first, member) ∈ Step.toEach .member rest start →
      ∀ second entry, (second, entry) ∈ member.entries →
        nodeAt? members ([first] ++ [second]) = some entry)
    (tracks : Tracks vocabulary members finds harvest)
    (scanned : Node.scanMembers scope rest harvest = .ok result) :
    ∃ more, Tracks vocabulary members (finds ++ more) result ∧
      more.map Find.site = widgetWays vocabulary
        (below (fun member => below Node.places member.entries)
          (Step.toEach .member rest start)) := by
  induction rest generalizing start finds harvest with
  | nil =>
      cases scanned
      exact ⟨[], by simpa using tracks, rfl⟩
  | cons member rest ih =>
      simp only [Node.scanMembers, bind_eq_ok_iff, Node.scanMember_eq] at scanned
      obtain ⟨next, memberScanned, restScanned⟩ := scanned
      rw [Step.toEach_cons] at stands ⊢
      obtain ⟨first, firstTracks, firstSites⟩ := scanParts_traced same
        (fun second entry entryMem => ⟨entry.traced,
          stands _ member List.mem_cons_self second entry entryMem, placed_entry _ _ _⟩)
        tracks memberScanned
      obtain ⟨second, secondTracks, secondSites⟩ := ih
        (fun step other otherMem => stands step other (List.mem_cons_of_mem _ otherMem))
        firstTracks restScanned
      refine ⟨first ++ second, by simpa using secondTracks, ?_⟩
      rw [List.map_append, firstSites, secondSites, below_cons, widgetWays_append,
        widgetWays_map_cons]
      rfl

/-- What the search of a class finds, site by site. -/
theorem exists_tracks_of_findControls {scope : Scope} {harvest : Harvest}
    (returns : (Node.findControls scope members).outcome = .ok harvest) :
    ∃ finds, Tracks scope.vocabulary members finds harvest ∧
      finds.map Find.site = widgetWays scope.vocabulary (sites members) := by
  have scanned := (Node.findControls_eq_ok_iff _ _ _).mp returns
  have stands : ∀ first member, (first, member) ∈ Step.toEach .member members 0 →
      ∀ second entry, (second, entry) ∈ member.entries →
        nodeAt? members ([first] ++ [second]) = some entry := by
    intro first member memberAt second entry entryMem
    obtain ⟨index, rfl, found⟩ := (Step.mem_toEach_iff _ _ _ _).mp memberAt
    have entryAt := (Node.mem_entries_iff _ _ _).mp entryMem
    simp [nodeAt?, found, entryAt]
  exact scanMembers_traced rfl stands Tracks.empty scanned

/-! ## The graph and the source text -/

/-- A site has one container. -/
theorem Contains.unique {site first second : Way}
    (firstContains : Contains vocabulary members first site)
    (secondContains : Contains vocabulary members second site) : first = second :=
  (secondContains.2 first firstContains.1).eq_of_length_le
    (firstContains.2 second secondContains.1).length_le

namespace Tracks

variable {finds : List Find} {harvest : Harvest}

theorem mem_zip_iff (tracks : Tracks vocabulary members finds harvest) (site : Way)
    (control : Control) :
    (site, control) ∈ (finds.map Find.site).zip harvest.controls ↔
      ∃ find ∈ finds, find.site = site ∧ find.control = control := by
  rw [tracks.controls, List.zip_map']
  simp only [List.mem_map, Prod.mk.injEq]

theorem parentOf_eq (tracks : Tracks vocabulary members finds harvest) {find : Find}
    (member : find ∈ finds) : harvest.graph.parentOf find.control.uid = find.container :=
  tracks.grown.parentOf_eq_container (List.mem_map.mpr ⟨find, member, rfl⟩)

/-- A find has the container that the source text shows. -/
theorem container_eq_some_iff (tracks : Tracks vocabulary members finds harvest)
    (nodup : (finds.map Find.site).Nodup) {find : Find} (member : find ∈ finds) (uid : String) :
    find.container = some uid ↔
      ∃ outer ∈ finds, outer.control.uid = uid ∧
        Contains vocabulary members outer.site find.site := by
  have placed := tracks.placed find member
  constructor
  · intro inside
    rw [inside] at placed
    exact placed
  · rintro ⟨outer, outerMem, rfl, contains⟩
    cases inside : find.container with
    | none =>
        rw [inside] at placed
        exact absurd contains.1 (placed outer.site)
    | some named =>
        rw [inside] at placed
        obtain ⟨other, otherMem, rfl, otherContains⟩ := placed
        have same : other = outer := List.inj_on_of_nodup_map nodup otherMem outerMem
          (otherContains.unique contains)
        rw [same]

/-- A find has no container where nothing encloses its site. -/
theorem container_eq_none_iff (tracks : Tracks vocabulary members finds harvest) {find : Find}
    (member : find ∈ finds) :
    find.container = none ↔ ∀ outer, ¬ Encloses vocabulary members outer find.site := by
  have placed := tracks.placed find member
  constructor
  · intro outermost
    rw [outermost] at placed
    exact placed
  · intro free
    cases inside : find.container with
    | none => rfl
    | some named =>
        rw [inside] at placed
        obtain ⟨outer, _, _, contains⟩ := placed
        exact absurd contains.1 (free outer.site)

theorem map_uid_eq (tracks : Tracks vocabulary members finds harvest) :
    (finds.map Find.addition).map Addition.uid = harvest.controls.map Control.uid := by
  rw [tracks.controls, List.map_map, List.map_map]
  rfl

end Tracks

/-- The controls and the graph that the search finds are those that the source
text shows. -/
theorem findControls_depicts (scope : Scope) (members : List Node) (harvest : Harvest)
    (returns : (Node.findControls scope members).outcome = .ok harvest) :
    ∃ places, Depicts scope.vocabulary members places harvest := by
  obtain ⟨finds, tracks, findSites⟩ := exists_tracks_of_findControls returns
  have ordered : (finds.map Find.site).Pairwise Way.Before := by
    rw [findSites, widgetWays, List.pairwise_map]
    exact (sites_ordered members).filter _
  have nodup := Way.nodup_of_pairwise ordered
  refine ⟨finds.map Find.site, ?_, ordered, ?_, ?_, ?_, ?_, ?_, ?_, ?_⟩
  · intro site
    rw [findSites, mem_widgetWays_iff]
    simp only [mem_sites_iff, WidgetAt]
  · rw [tracks.controls, List.forall₂_map_left_iff, List.forall₂_map_right_iff,
      List.forall₂_same]
    exact tracks.built
  · rw [tracks.grown.nodes, tracks.controls, List.map_map, List.map_map]
    rfl
  · intro site control member uid
    obtain ⟨find, findMem, rfl, rfl⟩ := (tracks.mem_zip_iff _ _).mp member
    rw [tracks.parentOf_eq findMem, tracks.container_eq_some_iff nodup findMem]
    constructor
    · rintro ⟨outer, outerMem, uidEq, contains⟩
      exact ⟨outer.site, outer.control, (tracks.mem_zip_iff _ _).mpr ⟨outer, outerMem, rfl, rfl⟩,
        uidEq, contains⟩
    · rintro ⟨_, _, outerMem, uidEq, contains⟩
      obtain ⟨outer, found, rfl, rfl⟩ := (tracks.mem_zip_iff _ _).mp outerMem
      exact ⟨outer, found, uidEq, contains⟩
  · intro site control member
    obtain ⟨find, findMem, rfl, rfl⟩ := (tracks.mem_zip_iff _ _).mp member
    rw [← tracks.container_eq_none_iff findMem, ← tracks.parentOf_eq findMem,
      tracks.grown.parentOf_eq_none_iff]
    rw [tracks.grown.keys_nodes]
    exact List.mem_map.mpr ⟨find.addition, List.mem_map.mpr ⟨find, findMem, rfl⟩, rfl⟩
  · intro uid inner
    exact (tracks.grown.parentOf_eq_some_iff_mem_childrenOf inner uid).symm
  · rw [tracks.grown.roots, ← tracks.map_uid_eq]
    exact Addition.contents_sublist _ _
  · intro uid
    rw [tracks.grown.childrenOf_eq, ← tracks.map_uid_eq]
    exact Addition.contents_sublist _ _

end

/-- A label in the parentheses of a control, and a button in its lambda, below a
call that builds nothing. -/
def boxedMember : Node :=
  .function {
    name := "screen"
    params := []
    returnType := none
    body := some (.call {
      name := "vbox"
      args := [⟨.call ⟨"label", [⟨.literal "\"title\"" .string, none, false⟩], none, none⟩, none,
        false⟩]
      trailing := some ⟨[], [.call ⟨"action", [], some ⟨[], [.call ⟨"button", [], none, none⟩]⟩,
        none⟩]⟩
      typeArgs := none })
    text := none }

theorem findControls_boxedMember :
    ∃ harvest, (Node.findControls (.outermost .default) [boxedMember]).outcome = .ok harvest ∧
      harvest.graph.roots = ["vbox#1", "label#1"] ∧
      harvest.graph.childrenOf "vbox#1" = ["button#1"] ∧
      ∃ places, Depicts .default [boxedMember] places harvest :=
  ⟨_, rfl, rfl, rfl, findControls_depicts (.outermost .default) [boxedMember] _ rfl⟩

end ViewOutline
