import ViewOutline.Proofs.Containment.Discovery
import ViewOutline.Proofs.Containment.Preorder

/-!
# The walk and the source text

A walk of the graph of a class lists the controls of the class, each as deep as
widget calls enclose it.  The search finds them in the order of writing, the walk
goes by containers.  The two orders agree as long as no widget call stands in the
parentheses of another: what is written in parentheses is found before the
trailing lambda, but lies beside the control and not in it.

Where parentheses hold no widget calls, two calls with the same container are
apart, so all that lies in the first is written before the second.
-/

namespace ViewOutline

/-- No widget call stands in the parentheses of another, however far inside. -/
def BareArguments (vocabulary : Vocabulary) (members : List Node) : Prop :=
  ∀ outer call inner other, WidgetAt vocabulary members outer call →
    WidgetAt vocabulary members inner other → ∀ index, ¬ outer ++ [.argument index] <+: inner

/-- How many widget calls of a class enclose a site. -/
def enclosingCount (vocabulary : Vocabulary) (members : List Node) (site : Way) : Nat :=
  (widgetWays vocabulary (sites members)).countP fun outer =>
    (outer ++ [.trailing]).isPrefixOf site

/-- The walk of a graph goes through the controls as the source text has them.
The sites are those of the widget calls, in the order of writing. -/
structure WalkedAsWritten (vocabulary : Vocabulary) (members : List Node) (harvest : Harvest) :
    Prop where
  /-- Each control is built by the call at its site. -/
  built : List.Forall₂ (fun site control => ∃ call, WidgetAt vocabulary members site call ∧
    control.kind = call.name ∧ control.label = call.label)
    (widgetWays vocabulary (sites members)) harvest.controls
  /-- The walk lists the controls, each once. -/
  perm : (harvest.graph.walk.map Prod.fst).Perm (harvest.controls.map Control.uid)
  /-- It lists them as deep as widget calls enclose them. -/
  depth : ∀ site control,
    (site, control) ∈ (widgetWays vocabulary (sites members)).zip harvest.controls →
      ∀ depth, (control.uid, depth) ∈ harvest.graph.walk ↔
        depth = enclosingCount vocabulary members site
  /-- Where parentheses hold no widget calls, it lists them as they are found. -/
  order : BareArguments vocabulary members →
    harvest.graph.walk.map Prod.fst = harvest.controls.map Control.uid

section

variable {vocabulary : Vocabulary} {members : List Node}

/-! ## Counting the enclosing calls -/

theorem encloses_iff_mem_widgetWays (outer site : Way) :
    Encloses vocabulary members outer site ↔
      outer ∈ widgetWays vocabulary (sites members) ∧ outer ++ [.trailing] <+: site := by
  simp only [Encloses, mem_widgetWays_iff, mem_sites_iff, WidgetAt]

theorem enclosingCount_eq_zero {site : Way}
    (free : ∀ outer, ¬ Encloses vocabulary members outer site) :
    enclosingCount vocabulary members site = 0 := by
  rw [enclosingCount, List.countP_eq_zero]
  intro outer member through
  rw [List.isPrefixOf_iff_prefix] at through
  exact free outer ((encloses_iff_mem_widgetWays outer site).mpr ⟨member, through⟩)

/-- One more call encloses a site than its container. -/
theorem Contains.enclosingCount_eq {middle site : Way}
    (contains : Contains vocabulary members middle site) :
    enclosingCount vocabulary members site = enclosingCount vocabulary members middle + 1 := by
  have present := ((encloses_iff_mem_widgetWays middle site).mp contains.1).1
  have split := List.perm_cons_erase present
  have nodup := nodup_widgetWays vocabulary members
  rw [split.nodup_iff, List.nodup_cons] at nodup
  have notItself : ¬ (middle ++ [Step.trailing]).isPrefixOf middle = true := by
    rw [List.isPrefixOf_iff_prefix]
    intro through
    have short := through.length_le
    rw [List.length_append, List.length_singleton] at short
    exact Nat.not_succ_le_self _ short
  have itself : (middle ++ [Step.trailing]).isPrefixOf site = true := by
    rw [List.isPrefixOf_iff_prefix]
    exact contains.1.2
  rw [enclosingCount, enclosingCount, split.countP_eq, split.countP_eq,
    List.countP_cons, List.countP_cons, if_pos itself, if_neg notItself, Nat.add_zero]
  congr 1
  apply List.countP_congr
  intro outer member
  have widget : outer ∈ widgetWays vocabulary (sites members) := List.mem_of_mem_erase member
  have different : outer ≠ middle := fun same => nodup.1 (same ▸ member)
  have same := contains.encloses_iff outer
  rw [encloses_iff_mem_widgetWays, encloses_iff_mem_widgetWays] at same
  simp only [List.isPrefixOf_iff_prefix]
  simpa [widget, different] using same

/-- Below a call there are only its arguments and its trailing lambda. -/
theorem step_below_call {site way : Way} {step : Step} {call : Call} {node : Node}
    (stands : nodeAt? members site = some (.call call))
    (below : nodeAt? members (site ++ step :: way) = some node) :
    step = .trailing ∨ ∃ index, step = .argument index := by
  rw [nodeAt?_append stands, Node.follow?, Option.bind_eq_some_iff] at below
  rcases below with ⟨child, childAt, _⟩
  cases step with
  | trailing => exact Or.inl rfl
  | argument index => exact Or.inr ⟨index, rfl⟩
  | _ => simp [Node.child?] at childAt

/-- One control is written before another, by their identifiers among the finds. -/
def WrittenBefore (finds : List Find) (first second : String) : Prop :=
  ∃ find ∈ finds, ∃ other ∈ finds, find.control.uid = first ∧ other.control.uid = second ∧
    find.site.Before other.site

namespace Tracks

variable {finds : List Find} {harvest : Harvest}

/-! ## What lies in a control -/

theorem nodup_uids (tracks : Tracks vocabulary members finds harvest) :
    (finds.map fun find => find.control.uid).Nodup := by
  have nodup := tracks.grown.consistent.nodup
  rw [List.map_map] at nodup
  exact nodup

/-- An identifier belongs to one find. -/
theorem eq_of_uid_eq (tracks : Tracks vocabulary members finds harvest) {first second : Find}
    (firstMem : first ∈ finds) (secondMem : second ∈ finds)
    (equal : first.control.uid = second.control.uid) : first = second :=
  List.inj_on_of_nodup_map tracks.nodup_uids firstMem secondMem equal

/-- An edge leads from a find to one that it contains. -/
theorem exists_of_edge (tracks : Tracks vocabulary members finds harvest)
    {uid inner : String} (edge : inner ∈ harvest.graph.childrenOf uid) :
    ∃ outer ∈ finds, ∃ find ∈ finds, outer.control.uid = uid ∧ find.control.uid = inner ∧
      Contains vocabulary members outer.site find.site := by
  rw [tracks.grown.childrenOf_eq, Addition.mem_contents_iff] at edge
  rcases edge with ⟨addition, additionMem, inside, rfl⟩
  rcases List.mem_map.mp additionMem with ⟨find, findMem, rfl⟩
  have placed := tracks.placed find findMem
  have container : find.container = some uid := inside
  rw [container] at placed
  rcases placed with ⟨outer, outerMem, uidEq, contains⟩
  exact ⟨outer, outerMem, find, findMem, uidEq, rfl, contains⟩

/-- A path leads from a find to one at its site or inside. -/
theorem exists_of_path (tracks : Tracks vocabulary members finds harvest) {find : Find}
    (member : find ∈ finds) {entered : List String} {uid : String}
    (path : harvest.graph.Path find.control.uid entered uid) :
    ∃ inner ∈ finds, inner.control.uid = uid ∧ find.site <+: inner.site := by
  induction path with
  | here => exact ⟨find, member, rfl, List.prefix_rfl⟩
  | step _ edge ih =>
      rcases ih with ⟨middle, middleMem, rfl, around⟩
      rcases tracks.exists_of_edge edge with
        ⟨outer, outerMem, inner, innerMem, outerEq, rfl, contains⟩
      obtain rfl := tracks.eq_of_uid_eq outerMem middleMem outerEq
      have inside := (List.prefix_append outer.site _).trans contains.1.2
      exact ⟨inner, innerMem, rfl, around.trans inside⟩

/-! ## The two orders -/

/-- Of two finds with the same container, neither encloses the other. -/
theorem not_encloses_of_container_eq (tracks : Tracks vocabulary members finds harvest)
    {first second : Find} (firstMem : first ∈ finds) (secondMem : second ∈ finds)
    (together : first.container = second.container) :
    ¬ Encloses vocabulary members first.site second.site := by
  intro encloses
  have firstPlaced := tracks.placed first firstMem
  have secondPlaced := tracks.placed second secondMem
  rw [together] at firstPlaced
  cases container : second.container with
  | none =>
      rw [container] at secondPlaced
      exact secondPlaced first.site encloses
  | some uid =>
      rw [container] at firstPlaced secondPlaced
      rcases firstPlaced with ⟨outer, outerMem, outerEq, around⟩
      rcases secondPlaced with ⟨same, sameMem, sameEq, innermost⟩
      obtain rfl := tracks.eq_of_uid_eq outerMem sameMem (outerEq.trans sameEq.symm)
      -- The first would lie around their container, which lies around the first.
      have inside := (innermost.2 first.site encloses).length_le
      exact absurd around.1.length_lt (Nat.not_lt.mpr inside)

/-- Finds with the same container are apart, since none stands in parentheses of
the other. -/
theorem apart_of_container_eq (tracks : Tracks vocabulary members finds harvest)
    (bare : BareArguments vocabulary members) {first second : Find} (firstMem : first ∈ finds)
    (secondMem : second ∈ finds) (together : first.container = second.container)
    (before : first.site.Before second.site) : first.site.Apart second.site := by
  rcases before.prefix_or_apart with ⟨way, longer⟩ | apart
  · rcases tracks.built first firstMem with ⟨call, widget, _⟩
    rcases tracks.built second secondMem with ⟨other, otherWidget, _⟩
    cases way with
    | nil =>
        rw [List.append_nil] at longer
        exact absurd (longer ▸ before) (Way.Before.irrefl _)
    | cons step way =>
        have through : first.site ++ [step] <+: second.site := ⟨way, by simp [← longer]⟩
        have stands := otherWidget.1
        rw [← longer] at stands
        rcases step_below_call widget.1 stands with rfl | ⟨index, rfl⟩
        · exact absurd ⟨⟨call, widget⟩, through⟩
            (tracks.not_encloses_of_container_eq firstMem secondMem together)
        · exact absurd through (bare _ _ _ _ widget otherWidget index)
  · exact apart

/-- Of two controls with the same container, all that lies in the first is
written before all that lies in the second. -/
theorem contents_pairwise (tracks : Tracks vocabulary members finds harvest)
    (ordered : (finds.map Find.site).Pairwise Way.Before)
    (bare : BareArguments vocabulary members) (container : Option String) :
    (Addition.contents (finds.map Find.addition) container).Pairwise
      (harvest.graph.Precedes (WrittenBefore finds)) := by
  rw [List.pairwise_map] at ordered
  rw [Addition.contents, List.filter_map, List.map_map, List.pairwise_map]
  refine List.Pairwise.imp_of_mem ?_ (ordered.filter _)
  intro first second firstMem secondMem before
  rw [List.mem_filter] at firstMem secondMem
  rcases firstMem with ⟨firstMem, firstInside⟩
  rcases secondMem with ⟨secondMem, secondInside⟩
  have together : first.container = second.container :=
    (of_decide_eq_true firstInside).trans (of_decide_eq_true secondInside).symm
  have apart := tracks.apart_of_container_eq bare firstMem secondMem together before
  intro entered inFirst firstPath others inSecond secondPath
  rcases tracks.exists_of_path firstMem firstPath with ⟨find, findMem, rfl, restFirst, findEq⟩
  rcases tracks.exists_of_path secondMem secondPath with
    ⟨other, otherMem, rfl, restSecond, otherEq⟩
  refine ⟨find, findMem, other, otherMem, rfl, rfl, ?_⟩
  rw [← findEq, ← otherEq]
  exact apart.before_append restFirst restSecond

/-- A control is written before what lies in it. -/
theorem writtenBefore_inside (tracks : Tracks vocabulary members finds harvest)
    {outer child inner : String} (edge : child ∈ harvest.graph.childrenOf outer)
    {entered : List String} (path : harvest.graph.Path child entered inner) :
    WrittenBefore finds outer inner := by
  rcases tracks.exists_of_edge edge with ⟨find, findMem, below, belowMem, rfl, rfl, contains⟩
  rcases tracks.exists_of_path belowMem path with ⟨last, lastMem, rfl, inside⟩
  refine ⟨find, findMem, last, lastMem, rfl, rfl, ?_⟩
  have through := contains.1.2.trans inside
  rcases through with ⟨way, lastEq⟩
  rw [← lastEq, List.append_assoc]
  simpa using Way.Before.append_left (List.Lex.nil : Way.Before [] (.trailing :: way)) find.site

theorem walk_pairwise (tracks : Tracks vocabulary members finds harvest)
    (ordered : (finds.map Find.site).Pairwise Way.Before)
    (bare : BareArguments vocabulary members) :
    (harvest.graph.walk.map Prod.fst).Pairwise (WrittenBefore finds) := by
  apply Containment.visit_pairwise
  · intro outer child edge entered inner path
    exact tracks.writtenBefore_inside edge path
  · intro outer
    rw [tracks.grown.childrenOf_eq]
    exact tracks.contents_pairwise ordered bare (some outer)
  · rw [List.map_map, tracks.grown.roots]
    simpa [Function.comp_def] using tracks.contents_pairwise ordered bare none

theorem controls_pairwise (tracks : Tracks vocabulary members finds harvest)
    (ordered : (finds.map Find.site).Pairwise Way.Before) :
    (harvest.controls.map Control.uid).Pairwise (WrittenBefore finds) := by
  rw [tracks.controls, List.map_map, List.pairwise_map]
  refine List.Pairwise.imp_of_mem ?_ (List.pairwise_map.mp ordered)
  intro first second firstMem secondMem before
  exact ⟨first, firstMem, second, secondMem, rfl, rfl, before⟩

theorem writtenBefore_asymm (tracks : Tracks vocabulary members finds harvest)
    {first second : String} (before : WrittenBefore finds first second) :
    ¬ WrittenBefore finds second first := by
  rcases before with ⟨find, findMem, other, otherMem, rfl, rfl, earlier⟩
  rintro ⟨twin, twinMem, last, lastMem, twinEq, lastEq, later⟩
  rw [tracks.eq_of_uid_eq twinMem otherMem twinEq, tracks.eq_of_uid_eq lastMem findMem lastEq]
    at later
  exact earlier.asymm later

theorem walk_perm_controls (tracks : Tracks vocabulary members finds harvest) :
    (harvest.graph.walk.map Prod.fst).Perm (harvest.controls.map Control.uid) := by
  have perm := tracks.grown.walk_perm
  rwa [tracks.grown.keys_nodes, tracks.map_uid_eq] at perm

theorem walk_eq_controls (tracks : Tracks vocabulary members finds harvest)
    (ordered : (finds.map Find.site).Pairwise Way.Before)
    (bare : BareArguments vocabulary members) :
    harvest.graph.walk.map Prod.fst = harvest.controls.map Control.uid := by
  refine List.Perm.eq_of_pairwise ?_ (tracks.walk_pairwise ordered bare)
    (tracks.controls_pairwise ordered) tracks.walk_perm_controls
  intro first second _ _ before after
  exact absurd after (tracks.writtenBefore_asymm before)

/-- The walk lists a control as deep as widget calls enclose it. -/
theorem depth_eq_enclosingCount (tracks : Tracks vocabulary members finds harvest) {find : Find}
    (member : find ∈ finds) {depth : Nat}
    (listed : (find.control.uid, depth) ∈ harvest.graph.walk) :
    depth = enclosingCount vocabulary members find.site := by
  refine Containment.forall_mem_walk
    (fun uid depth => ∀ find ∈ finds, find.control.uid = uid →
      depth = enclosingCount vocabulary members find.site) ?_ ?_ listed find member rfl
  · intro root rootMem find findMem uidEq
    rw [tracks.grown.roots, Addition.mem_contents_iff] at rootMem
    rcases rootMem with ⟨addition, additionMem, outermost, rfl⟩
    rcases List.mem_map.mp additionMem with ⟨twin, twinMem, rfl⟩
    obtain rfl := tracks.eq_of_uid_eq twinMem findMem uidEq.symm
    exact (enclosingCount_eq_zero ((tracks.container_eq_none_iff twinMem).mp outermost)).symm
  · intro outer depth measured inner edge find findMem uidEq
    rcases tracks.exists_of_edge edge with
      ⟨container, containerMem, twin, twinMem, rfl, twinEq, contains⟩
    obtain rfl := tracks.eq_of_uid_eq twinMem findMem (twinEq.trans uidEq.symm)
    rw [contains.enclosingCount_eq, measured container containerMem rfl]

end Tracks

end

/-- The walk of the graph that a search finds goes through the controls as the
source text has them. -/
theorem findControls_walkedAsWritten (scope : Scope) (members : List Node) (harvest : Harvest)
    (returns : (Node.findControls scope members).outcome = .ok harvest) :
    WalkedAsWritten scope.vocabulary members harvest := by
  rcases exists_tracks_of_findControls returns with ⟨finds, tracks, findSites⟩
  have ordered := widgetWays_ordered scope.vocabulary members
  rw [← findSites] at ordered
  refine ⟨?_, tracks.walk_perm_controls, ?_, tracks.walk_eq_controls ordered⟩
  · rw [← findSites, tracks.controls, List.forall₂_map_left_iff, List.forall₂_map_right_iff,
      List.forall₂_same]
    exact tracks.built
  · intro site control member depth
    rw [← findSites, tracks.mem_zip_iff] at member
    rcases member with ⟨find, findMem, rfl, rfl⟩
    constructor
    · exact tracks.depth_eq_enclosingCount findMem
    · rintro rfl
      have listed : find.control.uid ∈ harvest.graph.walk.map Prod.fst := by
        rw [tracks.walk_perm_controls.mem_iff, tracks.controls, List.map_map]
        exact List.mem_map.mpr ⟨find, findMem, rfl⟩
      rcases List.mem_map.mp listed with ⟨⟨uid, depth⟩, entryMem, uidEq⟩
      obtain rfl : uid = find.control.uid := uidEq
      rwa [← tracks.depth_eq_enclosingCount findMem entryMem]

/-- A label in a row in a column, and a button below the row. -/
def rowMember : Node :=
  .initializer [.call ⟨"vbox", [], some ⟨[], [
    .call ⟨"hbox", [], some ⟨[], [
      .call ⟨"label", [⟨.literal "\"inner\"" .string, none, false⟩], none, none⟩]⟩, none⟩,
    .call ⟨"button", [], none, none⟩]⟩, none⟩]

/-- The way to the label goes through two trailing lambdas. -/
def labelSite : Way :=
  [.member 0, .body, .statement 0, .trailing, .body, .statement 0, .trailing, .body, .statement 0]

theorem widgetWays_rowMember :
    widgetWays .default (sites [rowMember]) =
      [[.member 0, .body, .statement 0],
        [.member 0, .body, .statement 0, .trailing, .body, .statement 0], labelSite,
        [.member 0, .body, .statement 0, .trailing, .body, .statement 1]] := by
  have known : ∀ name ∈ ["vbox", "hbox", "label", "button"],
      Vocabulary.default.isWidget name = true := by decide
  simp only [List.forall_mem_cons] at known
  simp [widgetWays, sites, below_cons, Node.entries, rowMember, Node.places_eq, Node.parts,
    Call.parts, Node.widget?, known, labelSite]

theorem bareArguments_rowMember : BareArguments .default [rowMember] := by
  intro outer call inner other _ widget index through
  have listed : inner ∈ widgetWays .default (sites [rowMember]) :=
    (mem_widgetWays_iff _ _).mpr ⟨other, (mem_sites_iff _ _ _).mpr widget.1, widget.2⟩
  have inside : Step.argument index ∈ inner :=
    through.subset (List.mem_append_right outer List.mem_cons_self)
  revert inside
  simp only [widgetWays_rowMember, List.mem_cons, List.not_mem_nil, or_false] at listed
  rcases listed with rfl | rfl | rfl | rfl <;> simp [labelSite]

theorem walk_rowMember :
    BareArguments .default [rowMember] ∧
      ∃ harvest, (Node.findControls (.outermost .default) [rowMember]).outcome = .ok harvest ∧
        harvest.graph.walk.map Prod.fst = ["vbox#1", "hbox#1", "label#1", "button#1"] ∧
        ("label#1", 2) ∈ harvest.graph.walk := by
  have walked := findControls_walkedAsWritten (.outermost .default) [rowMember] _ rfl
  refine ⟨bareArguments_rowMember, _, rfl, walked.order bareArguments_rowMember, ?_⟩
  refine (walked.depth labelSite ⟨"label#1", "label", "inner"⟩ ?_ 2).mpr ?_
  · rw [Scope.outermost, widgetWays_rowMember]
    decide
  · rw [Scope.outermost, enclosingCount, widgetWays_rowMember]
    decide

end ViewOutline
