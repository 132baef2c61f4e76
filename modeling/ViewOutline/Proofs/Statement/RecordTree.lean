import ViewOutline.Proofs.Statement.Folding

/-!
# The tree of records

The records of a statement and of what is folded into it form a tree.  Every
statement that is reached through lambdas and blocks has one record, at one
place of the tree, and the records of a tree come in the order in which their
statements are written.
-/

namespace ViewOutline

mutual

/-- All records of a tree, each before those below it. -/
def Record.all : Record → List Record
  | ⟨kind, text, nested⟩ => ⟨kind, text, nested⟩ :: Record.allOf nested

/-- All records of several trees in turn. -/
def Record.allOf : List Record → List Record
  | [] => []
  | record :: rest => record.all ++ Record.allOf rest

end

theorem Record.allOf_eq (records : List Record) :
    Record.allOf records = records.flatMap Record.all := by
  induction records with
  | nil => rfl
  | cons record rest ih => rw [allOf, ih, List.flatMap_cons]

theorem Record.all_eq (record : Record) :
    record.all = record :: record.nested.flatMap Record.all := by
  rcases record with ⟨kind, text, nested⟩
  rw [all, allOf_eq]

/-- A statement keeps itself and what the statements folded into it keep. -/
inductive Node.Keeps : Node → Way → Node → Prop
  | self (statement : Node) : Keeps statement [] statement
  | folded {statement inner kept : Node} {way rest : Way} :
      statement.isCompound = true → statement.Folds way inner → Keeps inner rest kept →
        Keeps statement (way ++ rest) kept

/-- Records stand one to one for the statements held at some ways, in the order
of writing. -/
structure Listing (scope : Scope) (held : Way → Node → Prop) (places : List (Way × Node))
    (records : List Record) : Prop where
  complete : ∀ way statement, (way, statement) ∈ places ↔ held way statement
  ordered : places.Pairwise fun first second => Way.Before first.1 second.1
  shown : List.Forall₂ (fun place record => record.Shows (scope.deeper place.1.length) place.2)
    places records

namespace Listing

variable {scope : Scope} {held : Way → Node → Prop} {places : List (Way × Node)}
  {records : List Record}

theorem congr {other : Way → Node → Prop} (listing : Listing scope held places records)
    (same : ∀ way statement, held way statement ↔ other way statement) :
    Listing scope other places records where
  complete way statement := (listing.complete way statement).trans (same way statement)
  ordered := listing.ordered
  shown := listing.shown

theorem nil : Listing scope (fun _ _ => False) [] [] where
  complete := by simp
  ordered := .nil
  shown := .nil

theorem singleton {statement : Node} {record : Record} (shows : record.Shows scope statement) :
    Listing scope (fun way kept => way = [] ∧ kept = statement) [([], statement)] [record] where
  complete := by simp
  ordered := List.pairwise_singleton _ _
  shown := .cons shows .nil

/-- What is listed inside a place is listed from further out. -/
theorem inside {outer : Way} (listing : Listing (scope.deeper outer.length) held places records) :
    Listing scope (fun way statement => ∃ rest, way = outer ++ rest ∧ held rest statement)
      (places.map fun place => (outer ++ place.1, place.2)) records where
  complete way statement := by
    rw [List.mem_map]
    constructor
    · rintro ⟨⟨rest, _⟩, member, pairEq⟩
      cases pairEq
      exact ⟨rest, rfl, (listing.complete _ _).mp member⟩
    · rintro ⟨rest, rfl, holds⟩
      exact ⟨(rest, statement), (listing.complete _ _).mpr holds, rfl⟩
  ordered := by
    rw [List.pairwise_map]
    exact listing.ordered.imp fun before => before.append_left outer
  shown := by
    rw [List.forall₂_map_left_iff]
    simpa only [Scope.deeper_deeper, List.length_append] using listing.shown

/-- A listing is followed by another if its ways come first. -/
theorem append {later : Way → Node → Prop} {laterPlaces : List (Way × Node)}
    {laterRecords : List Record} (listing : Listing scope held places records)
    (others : Listing scope later laterPlaces laterRecords)
    (before : ∀ first statement second other, held first statement → later second other →
      Way.Before first second) :
    Listing scope (fun way statement => held way statement ∨ later way statement)
      (places ++ laterPlaces) (records ++ laterRecords) where
  complete way statement := by
    rw [List.mem_append, listing.complete, others.complete]
  ordered := by
    rw [List.pairwise_append]
    refine ⟨listing.ordered, others.ordered, ?_⟩
    rintro ⟨first, statement⟩ firstMem ⟨second, other⟩ secondMem
    exact before first statement second other ((listing.complete _ _).mp firstMem)
      ((others.complete _ _).mp secondMem)
  shown := List.rel_append listing.shown others.shown

end Listing

/-- The records of a tree stand one to one for the statements that a statement
keeps, in the order of writing. -/
def Record.Enumerates (record : Record) (scope : Scope) (statement : Node) : Prop :=
  ∃ places, Listing scope statement.Keeps places record.all

/-- Listings inside places that are apart make one listing. -/
theorem exists_listing_of_forall₂ {scope : Scope} {places : List (Way × Node)}
    {records : List Record}
    (each : List.Forall₂
      (fun place record => record.Enumerates (scope.deeper place.1.length) place.2) places records)
    (apart : places.Pairwise fun first second => Way.Apart first.1 second.1) :
    ∃ inside, Listing scope
      (fun way kept => ∃ outer inner rest, (outer, inner) ∈ places ∧ way = outer ++ rest ∧
        inner.Keeps rest kept) inside (records.flatMap Record.all) := by
  induction each with
  | nil => exact ⟨[], Listing.nil.congr (by simp)⟩
  | @cons place record others rest first _ ih =>
      rcases place with ⟨outer, inner⟩
      obtain ⟨apartFirst, apartOthers⟩ := List.pairwise_cons.mp apart
      obtain ⟨innerPlaces, innerListing⟩ := first
      obtain ⟨otherPlaces, otherListing⟩ := ih apartOthers
      refine ⟨_, (innerListing.inside.append otherListing ?_).congr ?_⟩
      · rintro _ _ _ _ ⟨_, rfl, _⟩ ⟨_, _, _, member, rfl, _⟩
        exact (apartFirst _ member).before_append _ _
      · intro way kept
        simp only [List.mem_cons, Prod.mk.injEq]
        constructor
        · rintro (⟨within, wayEq, keeps⟩ | ⟨other, node, within, member, wayEq, keeps⟩)
          · exact ⟨outer, inner, within, .inl ⟨rfl, rfl⟩, wayEq, keeps⟩
          · exact ⟨other, node, within, .inr member, wayEq, keeps⟩
        · rintro ⟨other, node, within, ⟨rfl, rfl⟩ | member, wayEq, keeps⟩
          · exact .inl ⟨within, wayEq, keeps⟩
          · exact .inr ⟨other, node, within, member, wayEq, keeps⟩

theorem Node.keeps_plain_iff {statement : Node} (plain : statement.isCompound = false) (way : Way)
    (kept : Node) : statement.Keeps way kept ↔ way = [] ∧ kept = statement := by
  constructor
  · intro keeps
    cases keeps with
    | self => exact ⟨rfl, rfl⟩
    | folded compound _ _ =>
        rw [plain] at compound
        cases compound
  · rintro ⟨rfl, rfl⟩
    exact .self _

theorem Node.keeps_compound_iff {statement : Node} (compound : statement.isCompound = true)
    (way : Way) (kept : Node) :
    statement.Keeps way kept ↔ (way = [] ∧ kept = statement) ∨
      ∃ outer inner rest, statement.Folds outer inner ∧ way = outer ++ rest ∧
        inner.Keeps rest kept := by
  constructor
  · intro keeps
    cases keeps with
    | self => exact .inl ⟨rfl, rfl⟩
    | folded _ folds keeps => exact .inr ⟨_, _, _, folds, rfl, keeps⟩
  · rintro (⟨rfl, rfl⟩ | ⟨outer, inner, rest, folds, rfl, keeps⟩)
    · exact .self _
    · exact .folded compound folds keeps

/-- A record that stands for a statement is the root of a tree that enumerates
what the statement keeps. -/
theorem Mirrors.enumerates {scope : Scope} {statement : Node} {record : Record}
    (mirrors : Mirrors scope statement record) : record.Enumerates scope statement := by
  induction mirrors with
  | @plain scope statement record plain shows nested =>
      refine ⟨[([], statement)], ?_⟩
      rw [Record.all_eq, nested]
      exact (Listing.singleton shows).congr fun way kept =>
        (Node.keeps_plain_iff plain way kept).symm
  | @compound scope statement record places compound shows complete apart lengths _ ih =>
      obtain ⟨inside, listing⟩ :=
        exists_listing_of_forall₂ (List.forall₂_iff_zip.mpr ⟨lengths, ih _ _ _⟩) apart
      simp only [complete] at listing
      refine ⟨([], statement) :: inside, ?_⟩
      rw [Record.all_eq]
      refine ((Listing.singleton shows).append listing ?_).congr fun way kept =>
        (Node.keeps_compound_iff compound way kept).symm
      -- The statement itself comes before everything that is folded into it.
      rintro _ _ _ _ ⟨rfl, rfl⟩ ⟨outer, _, rest, folds, rfl, _⟩
      cases outer with
      | nil => exact absurd rfl folds.ne_nil
      | cons step outer => exact List.Lex.nil

/-- A record of a body stands for its statement, and its tree enumerates what the
statement keeps. -/
structure Recorded (scope : Scope) (statement : Node) (record : Record) : Prop where
  mirrors : Mirrors scope statement record
  enumerates : record.Enumerates scope statement

theorem recorded_of_mirrors {scope : Scope} {statement : Node} {record : Record}
    (mirrors : Mirrors scope statement record) : Recorded scope statement record :=
  ⟨mirrors, mirrors.enumerates⟩

theorem blockRecords_recorded {scope : Scope} {statements : List Node} {records : List Record}
    (returns : (Node.blockRecords scope statements).outcome = .ok records) :
    List.Forall₂ (Recorded (scope.deeper 1)) statements records := by
  simp only [Node.blockRecords, Analysis.outcome_bind, bind_eq_ok_iff] at returns
  obtain ⟨within, descends, recorded⟩ := returns
  obtain ⟨_, rfl⟩ := (Scope.descend_eq_ok_iff _ _).mp descends
  exact (records_mirrored (fun statement _ => statement.mirrored) recorded).imp
    fun _ _ => recorded_of_mirrors

theorem Node.record_recorded {scope : Scope} {statement : Node} {record : Record}
    (returns : (statement.record scope).outcome = .ok record) :
    Recorded scope statement record := by
  simp only [Node.record, Analysis.outcome_bind, bind_eq_ok_iff] at returns
  obtain ⟨within, descends, recorded⟩ := returns
  obtain ⟨_, rfl⟩ := (Scope.descend_eq_ok_iff _ _).mp descends
  exact recorded_of_mirrors (mirrors_of_recordOf statement.mirrored descends recorded)

/-- The records of a body are those of its statements: of a block one for each
statement in order, of another expression one, and otherwise none. -/
theorem bodyRecords_recorded (scope : Scope) (body : Option Node) (records : List Record)
    (returns : (Node.bodyRecords scope body).outcome = .ok records) :
    match body with
    | none => records = []
    | some (.reference ..) => records = []
    | some (.block statements) => List.Forall₂ (Recorded (scope.deeper 1)) statements records
    | some expression => ∃ record, records = [record] ∧ Recorded scope expression record := by
  cases body with
  | none =>
      cases returns
      rfl
  | some body =>
      cases body with
      | reference name receiver =>
          cases returns
          rfl
      | block statements => exact blockRecords_recorded returns
      | _ =>
          rw [Node.bodyRecords_of_expression rfl, Analysis.outcome_bind] at returns
          obtain ⟨record, recorded, recordsEq⟩ := (bind_eq_ok_iff _ _ _).mp returns
          cases recordsEq
          exact ⟨record, rfl, Node.record_recorded recorded⟩

/-- A declaration whose value has a lambda in an argument and a trailing lambda
inside a trailing lambda.  A block stands among the statements of the first. -/
def foldingStatement : Node :=
  .property {
    name := "rows"
    type := none
    initializer := some (.binary
      (.call ⟨"items", [⟨.lambda ⟨[], [.name "size", .block [.name "unseen"]]⟩, none, false⟩],
        none, none⟩)
      "."
      (.call ⟨"forEach", [],
        some ⟨["item"], [.call ⟨"show", [], some ⟨[], [.name "item"]⟩, none⟩]⟩, none⟩))
    delegate := none
    mutable := false
    text := none }

theorem bodyRecords_foldingStatement :
    ∃ record first last,
      (Node.bodyRecords (.outermost .default) (some (.block [foldingStatement]))).outcome =
        .ok [record] ∧
      record.text =
        "rows = items(\x7b size; <unknown> \x7d).forEach \x7b item -> show \x7b item \x7d \x7d" ∧
      record.nested = [first, ⟨.unclassified, "<unknown>", []⟩, last] ∧
      last.nested.map Record.text = ["item"] ∧
      List.Forall₂ (Recorded ((Scope.outermost .default).deeper 1)) [foldingStatement] [record] :=
  ⟨_, _, _, rfl, rfl, rfl, rfl,
    bodyRecords_recorded (.outermost .default) (some (.block [foldingStatement])) _ rfl⟩

end ViewOutline
