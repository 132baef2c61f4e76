import ViewOutline.Report.Document
import ViewOutline.Proofs.Json.Reader
import ViewOutline.Proofs.Report.Merge

/-!
# Reports read back

Nothing is lost when a report is written.  The parts that are left out of its
document can be told from the parts that are there: a control without a list of
children has no children, and the container of a control is the one whose list
names it.  This holds because graphs are only grown by adding controls.
-/

namespace ViewOutline

/-! ## Parts of documents -/

/-- A table of entries with different names. -/
def Table.ofEntries? {α : Type} (entries : List (String × α)) : Option (Table α) :=
  if distinct : (entries.map Prod.fst).Nodup then some ⟨entries, distinct⟩ else none

theorem Table.ofEntries?_entries {α : Type} (table : Table α) :
    Table.ofEntries? table.entries = some table :=
  dif_pos table.nodup

theorem Table.entries_mapEntries {α β : Type} (table : Table α) (f : String → α → β) :
    (table.mapEntries f).entries = table.entries.map fun entry => (entry.1, f entry.1 entry.2) :=
  rfl

theorem Table.eq_of_entries_eq {α : Type} {table other : Table α}
    (same : table.entries = other.entries) : table = other := by
  cases table
  cases other
  cases same
  rfl

namespace Json

variable {α : Type}

/-- A table as an object. -/
def ofTable (table : Table α) (encode : String → α → Json) : Json :=
  .object (table.entries.map fun entry => (entry.1, encode entry.1 entry.2))

def text? : Json → Option String
  | .text value => some value
  | _ => none

/-- A text, or `null` for none. -/
def optionalText? : Json → Option (Option String)
  | .null => some none
  | .text value => some (some value)
  | _ => none

/-- A list of documents, each of which is decoded. -/
def listOf? (decode : Json → Option α) : Json → Option (List α)
  | .list items => items.mapM decode
  | _ => none

def texts? (document : Json) : Option (List String) :=
  document.listOf? text?

/-- An object of documents, each of which is decoded under its key. -/
def tableOf? (decode : String → Json → Option α) : Json → Option (Table α)
  | .object fields => do
      Table.ofEntries? (← fields.mapM fun field => (decode field.1 field.2).map (field.1, ·))
  | _ => none

/-- The last field of an object, where it may be missing. -/
def lastField? (decode : Json → Option α) (key : String) :
    List (String × Json) → Option (Option α)
  | [] => some none
  | [(name, document)] => if name = key then (decode document).map some else none
  | _ => none

theorem mapM_map_eq_some {β : Type} {encode : α → β} {decode : β → Option α} {items : List α}
    (inverse : ∀ item ∈ items, decode (encode item) = some item) :
    (items.map encode).mapM decode = some items := by
  induction items with
  | nil => rfl
  | cons item rest ih =>
      rw [List.forall_mem_cons] at inverse
      rw [List.map_cons, List.mapM_cons, inverse.1, ih inverse.2]
      rfl

theorem optionalText?_ofOption (value : Option String) :
    (ofOption value).optionalText? = some value := by
  cases value with
  | none => rfl
  | some value => rfl

theorem listOf?_map {encode : α → Json} {decode : Json → Option α} {items : List α}
    (inverse : ∀ item ∈ items, decode (encode item) = some item) :
    (Json.list (items.map encode)).listOf? decode = some items :=
  mapM_map_eq_some inverse

theorem texts?_texts (values : List String) : (texts values).texts? = some values :=
  listOf?_map fun _ _ => rfl

theorem tableOf?_ofTable {table : Table α} {encode : String → α → Json}
    {decode : String → Json → Option α}
    (inverse : ∀ name value, (name, value) ∈ table.entries →
      decode name (encode name value) = some value) :
    (ofTable table encode).tableOf? decode = some table := by
  have decoded : (table.entries.map fun entry => (entry.1, encode entry.1 entry.2)).mapM
      (fun field => (decode field.1 field.2).map (field.1, ·)) = some table.entries := by
    apply mapM_map_eq_some
    rintro ⟨name, value⟩ member
    rw [inverse name value member]
    rfl
  rw [ofTable, tableOf?, decoded]
  exact table.ofEntries?_entries

end Json

/-! ## Classes -/

/-- The value that a name stands for. -/
def named? {α : Type} (values : List α) (nameOf : α → String) (name : String) : Option α :=
  values.find? fun value => nameOf value == name

def RecordKind.ofName? (name : String) : Option RecordKind :=
  named? [.declaration, .binaryOperation, .call, .literal, .unclassified] RecordKind.name name

def MethodShape.ofName? (name : String) : Option MethodShape :=
  named? [.block, .expression, .reference] MethodShape.name name

def PropertyKind.ofName? (name : String) : Option PropertyKind :=
  named? [.value, .observable, .collection, .injected, .unclassified] PropertyKind.name name

theorem RecordKind.ofName?_name (kind : RecordKind) : ofName? kind.name = some kind := by
  cases kind <;> decide

theorem MethodShape.ofName?_name (shape : MethodShape) : ofName? shape.name = some shape := by
  cases shape <;> decide

theorem PropertyKind.ofName?_name (kind : PropertyKind) : ofName? kind.name = some kind := by
  cases kind <;> decide

mutual

/-- A record without nested records has no field for them. -/
def Record.ofJson? : Json → Option Record
  | .object [("kind", .text kind), ("text", .text text)] => do
      return ⟨← RecordKind.ofName? kind, text, []⟩
  | .object [("kind", .text kind), ("text", .text text), ("nested", .list nested)] => do
      return ⟨← RecordKind.ofName? kind, text, ← Record.listOfJson? nested⟩
  | _ => none

def Record.listOfJson? : List Json → Option (List Record)
  | [] => some []
  | document :: rest => do
      return (← Record.ofJson? document) :: (← Record.listOfJson? rest)

end

mutual

theorem Record.ofJson?_toJson : ∀ record : Record, Record.ofJson? record.toJson = some record
  | ⟨kind, text, []⟩ => by
      rw [Record.toJson, Record.ofJson?, RecordKind.ofName?_name]
      rfl
  | ⟨kind, text, first :: rest⟩ => by
      rw [Record.toJson, Record.ofJson?, RecordKind.ofName?_name, Record.listOfJson?,
        Record.ofJson?_toJson first, Record.listOfJson?_listToJson rest]
      rfl

theorem Record.listOfJson?_listToJson : ∀ records : List Record,
    Record.listOfJson? (Record.listToJson records) = some records
  | [] => rfl
  | record :: rest => by
      rw [Record.listToJson, Record.listOfJson?, Record.ofJson?_toJson record,
        Record.listOfJson?_listToJson rest]
      rfl

end

def Property.ofJson? : Json → Option Property
  | .object [("name", .text name), ("kind", .text kind), ("type", type), ("summary", summary)] => do
      return ⟨name, ← PropertyKind.ofName? kind, ← type.optionalText?, ← summary.optionalText?⟩
  | _ => none

theorem Property.ofJson?_toJson (property : Property) :
    Property.ofJson? property.toJson = some property := by
  rw [Property.toJson, Property.ofJson?, PropertyKind.ofName?_name, Json.optionalText?_ofOption,
    Json.optionalText?_ofOption]
  rfl

def MethodParam.ofJson? : Json → Option MethodParam
  | .object [("name", .text name), ("type", type)] => do
      return ⟨name, ← type.optionalText?⟩
  | _ => none

theorem MethodParam.ofJson?_toJson (param : MethodParam) :
    MethodParam.ofJson? param.toJson = some param := by
  rw [MethodParam.toJson, MethodParam.ofJson?, Json.optionalText?_ofOption]
  rfl

/-- A method without a reference has no field for it. -/
def Method.ofJson? : Json → Option Method
  | .object (("name", .text name) :: ("shape", .text shape) :: ("params", params) ::
      ("returnType", .text returnType) :: ("statements", .list statements) :: rest) => do
      return ⟨name, ← MethodShape.ofName? shape, ← params.listOf? MethodParam.ofJson?, returnType,
        ← Record.listOfJson? statements, ← Json.lastField? Json.text? "reference" rest⟩
  | _ => none

theorem Method.ofJson?_toJson (method : Method) : Method.ofJson? method.toJson = some method := by
  obtain ⟨name, shape, params, returnType, statements, reference⟩ := method
  have paramsEq : (Json.list (params.map MethodParam.toJson)).listOf? MethodParam.ofJson? =
      some params :=
    Json.listOf?_map fun param _ => param.ofJson?_toJson
  rw [Method.toJson]
  simp only [List.cons_append, List.nil_append]
  rw [Method.ofJson?, MethodShape.ofName?_name, paramsEq, Record.listOfJson?_listToJson]
  cases reference with
  | none => rfl
  | some reference => rfl

/-- A class without nested structures has no field for them. -/
def ClassOutline.ofJson? : Json → Option ClassOutline
  | .object (("name", .text name) :: ("form", .text form) :: ("superclasses", superclasses) ::
      ("properties", properties) :: ("methods", methods) :: rest) => do
      let structures ← Json.lastField? Json.texts? "structures" rest
      return ⟨name, form, ← superclasses.texts?, ← properties.listOf? Property.ofJson?,
        ← methods.listOf? Method.ofJson?, structures.getD []⟩
  | _ => none

theorem ClassOutline.ofJson?_toJson (outline : ClassOutline) :
    ClassOutline.ofJson? outline.toJson = some outline := by
  obtain ⟨name, form, superclasses, properties, methods, structures⟩ := outline
  have propertiesEq : (Json.list (properties.map Property.toJson)).listOf? Property.ofJson? =
      some properties :=
    Json.listOf?_map fun property _ => property.ofJson?_toJson
  have methodsEq : (Json.list (methods.map Method.toJson)).listOf? Method.ofJson? =
      some methods :=
    Json.listOf?_map fun method _ => method.ofJson?_toJson
  rw [ClassOutline.toJson]
  simp only [List.cons_append, List.nil_append]
  rw [ClassOutline.ofJson?, Json.texts?_texts, propertiesEq, methodsEq]
  cases structures with
  | nil => rfl
  | cons first rest =>
      have structuresEq : Json.lastField? Json.texts? "structures"
          [("structures", Json.texts (first :: rest))] = some (some (first :: rest)) := by
        rw [Json.lastField?, if_pos rfl, Json.texts?_texts, Option.map_some]
      simp only [List.isEmpty_cons, Bool.false_eq_true, if_false, structuresEq]
      rfl

/-! ## Graphs -/

def Control.ofJson? : Json → Option Control
  | .object [("uid", .text uid), ("kind", .text kind), ("label", .text label)] =>
      some ⟨uid, kind, label⟩
  | _ => none

/-- A node of a graph is a control without its identifier, which is the key. -/
def Control.toNode (control : Control) : Json :=
  .object [("kind", .text control.kind), ("label", .text control.label)]

def Control.ofNode? (uid : String) : Json → Option Control
  | .object [("kind", .text kind), ("label", .text label)] => some ⟨uid, kind, label⟩
  | _ => none

theorem Control.ofJson?_toJson (control : Control) :
    Control.ofJson? control.toJson = some control :=
  rfl

theorem Control.ofNode?_toNode (control : Control) :
    Control.ofNode? control.uid control.toNode = some control :=
  rfl

namespace Containment

open Addition (contents mem_contents_iff)

/-- The identifier whose children include a control. -/
def containerIn (children : Table (List String)) (uid : String) : Option String :=
  (children.entries.find? fun entry => entry.2.contains uid).map Prod.fst

/-- Put a graph together, given the children of those controls that have any. -/
def assemble? (nodes : Table Control) (children : Table (List String)) (roots : List String) :
    Option Containment := do
  let parents ← Table.ofEntries? (nodes.keys.filterMap fun uid =>
    (containerIn children uid).map (uid, ·))
  let edges := nodes.mapEntries fun uid _ => (children.find? uid).getD []
  return ⟨nodes, edges, roots, parents⟩

/-- The order of the walk is not needed to know the graph. -/
def ofJson? : Json → Option Containment
  | .object [("roots", roots), ("nodes", nodes), ("edges", children), ("order", _)] => do
      assemble? (← nodes.tableOf? Control.ofNode?)
        (← children.tableOf? fun _ uids => uids.texts?) (← roots.texts?)
  | _ => none

/-- The children of the controls that have any. -/
def writtenChildren (graph : Containment) : Table (List String) where
  entries := graph.edges.entries.filter fun entry => !entry.2.isEmpty
  nodup := graph.edges.nodup.sublist (List.filter_sublist.map Prod.fst)

theorem toJson_eq (graph : Containment) : graph.toJson =
    .object [("roots", .texts graph.roots),
      ("nodes", .ofTable graph.nodes fun _ => Control.toNode),
      ("edges", .ofTable graph.writtenChildren fun _ => Json.texts),
      ("order", .list (graph.walk.map fun stop =>
        .object [("uid", .text stop.1), ("depth", .int stop.2)]))] :=
  rfl

variable {graph : Containment} {history : List Addition}

theorem mem_writtenChildren_iff (grown : graph.GrownBy history) (uid : String)
    (uids : List String) :
    (uid, uids) ∈ graph.writtenChildren.entries ↔
      uids = contents history (some uid) ∧ uids ≠ [] := by
  rw [writtenChildren, List.mem_filter, grown.edges, List.mem_map]
  simp only [Bool.not_eq_true', List.isEmpty_eq_false_iff, ne_eq, and_congr_left_iff]
  intro proper
  constructor
  · rintro ⟨addition, _, pairEq⟩
    cases pairEq
    rfl
  · rintro rfl
    -- What contains something is itself a control.
    have present : uid ∈ history.map Addition.uid := by
      by_contra absent
      exact proper (grown.consistent.contents_eq_nil absent)
    obtain ⟨addition, member, rfl⟩ := List.mem_map.mp present
    exact ⟨addition, member, rfl⟩

/-- A control whose children are not written has none. -/
theorem getD_find?_writtenChildren (grown : graph.GrownBy history) (uid : String) :
    (graph.writtenChildren.find? uid).getD [] = contents history (some uid) := by
  cases found : graph.writtenChildren.find? uid with
  | some uids =>
      rw [Table.find?_eq_some_iff, mem_writtenChildren_iff grown] at found
      exact found.1
  | none =>
      by_contra different
      have listed : graph.writtenChildren.find? uid = some (contents history (some uid)) := by
        rw [Table.find?_eq_some_iff, mem_writtenChildren_iff grown]
        exact ⟨rfl, Ne.symm different⟩
      cases found.symm.trans listed

/-- The container of a control is the one whose children include it. -/
theorem containerIn_writtenChildren (grown : graph.GrownBy history) {addition : Addition}
    (member : addition ∈ history) :
    containerIn graph.writtenChildren addition.uid = addition.container := by
  have own : addition.uid ∈ contents history addition.container :=
    (mem_contents_iff _ _ _).mpr ⟨addition, member, rfl, rfl⟩
  rw [containerIn]
  cases found : graph.writtenChildren.entries.find? fun entry =>
      entry.2.contains addition.uid with
  | some entry =>
      -- An identifier is listed in one place only, so the first place found is its own.
      obtain ⟨container, uids⟩ := entry
      have among : addition.uid ∈ uids := by simpa using List.find?_some found
      obtain ⟨rfl, _⟩ := (mem_writtenChildren_iff grown _ _).mp (List.mem_of_find?_eq_some found)
      rw [Option.map_some, grown.consistent.eq_of_mem_contents among own]
  | none =>
      cases inside : addition.container with
      | none => rfl
      | some container =>
          rw [inside] at own
          have listed : (container, contents history (some container)) ∈
              graph.writtenChildren.entries :=
            (mem_writtenChildren_iff grown _ _).mpr ⟨rfl, List.ne_nil_of_mem own⟩
          exact absurd (List.contains_iff_mem.mpr own) (List.find?_eq_none.mp found _ listed)

theorem assemble?_of_grownBy (grown : graph.GrownBy history) :
    assemble? graph.nodes graph.writtenChildren graph.roots = some graph := by
  have parentsEq : (graph.nodes.keys.filterMap fun uid =>
      (containerIn graph.writtenChildren uid).map (uid, ·)) = graph.parents.entries := by
    rw [grown.keys_nodes, grown.parents, List.filterMap_map]
    apply List.filterMap_congr
    intro addition member
    rw [Function.comp_apply, containerIn_writtenChildren grown member]
  have edgesEq : (graph.nodes.mapEntries fun uid _ =>
      (graph.writtenChildren.find? uid).getD []) = graph.edges := by
    apply Table.eq_of_entries_eq
    rw [Table.entries_mapEntries, grown.nodes, grown.edges, List.map_map]
    apply List.map_congr_left
    intro addition _
    rw [Function.comp_apply, getD_find?_writtenChildren grown]
  rw [assemble?, parentsEq, Table.ofEntries?_entries, edgesEq]
  rfl

theorem ofJson?_toJson (grown : graph.GrownBy history) : ofJson? graph.toJson = some graph := by
  have nodesEq : (Json.ofTable graph.nodes fun _ => Control.toNode).tableOf? Control.ofNode? =
      some graph.nodes := by
    apply Json.tableOf?_ofTable
    intro uid control member
    rw [grown.nodes] at member
    obtain ⟨addition, _, pairEq⟩ := List.mem_map.mp member
    cases pairEq
    exact addition.control.ofNode?_toNode
  have childrenEq : (Json.ofTable graph.writtenChildren fun _ => Json.texts).tableOf?
      (fun _ uids => uids.texts?) = some graph.writtenChildren :=
    Json.tableOf?_ofTable fun _ children _ => Json.texts?_texts children
  rw [toJson_eq, ofJson?, nodesEq, childrenEq, Json.texts?_texts]
  exact assemble?_of_grownBy grown

end Containment

/-! ## Reports -/

def Report.ofJson? : Json → Option Report
  | .object [("project_name", .text projectName), ("files", files), ("failed_files", failedFiles),
      ("classBreakdowns", classes), ("detectedUIControls", controls),
      ("viewNodeGraphs", graphs), ("viewImports", imports),
      ("independentFunctions", functions), ("degradations", notes)] => do
      let merged : FileOutline := {
        classes := ← classes.tableOf? fun _ => ClassOutline.ofJson?
        controls := ← controls.tableOf? fun _ found => found.listOf? Control.ofJson?
        graphs := ← graphs.tableOf? fun _ => Containment.ofJson?
        imports := ← imports.tableOf? fun _ => Json.text?
        functions := ← functions.texts?
        notes := ← notes.texts? }
      return ⟨projectName, merged, ← files.texts?, ← failedFiles.tableOf? fun _ => Json.text?⟩
  | _ => none

/-- The report that a text was written for. -/
def Report.ofText? (text : String) : Option Report :=
  (Json.read? text).bind Report.ofJson?

theorem Report.toJson_eq (report : Report) : report.toJson =
    .object [("project_name", .text report.projectName), ("files", .texts report.files),
      ("failed_files", .ofTable report.failedFiles fun _ => Json.text),
      ("classBreakdowns", .ofTable report.merged.classes fun _ => ClassOutline.toJson),
      ("detectedUIControls", .ofTable report.merged.controls fun _ found =>
        .list (found.map Control.toJson)),
      ("viewNodeGraphs", .ofTable report.merged.graphs fun _ => Containment.toJson),
      ("viewImports", .ofTable report.merged.imports fun _ => Json.text),
      ("independentFunctions", .texts report.merged.functions),
      ("degradations", .texts report.merged.notes)] :=
  rfl

theorem Report.ofJson?_toJson {report : Report}
    (grown : ∀ name graph, (name, graph) ∈ report.merged.graphs.entries →
      ∃ history, graph.GrownBy history) :
    Report.ofJson? report.toJson = some report := by
  have plain : ∀ table : Table String,
      (Json.ofTable table fun _ => Json.text).tableOf? (fun _ => Json.text?) = some table :=
    fun _ => Json.tableOf?_ofTable fun _ _ _ => rfl
  have classesEq : (Json.ofTable report.merged.classes fun _ => ClassOutline.toJson).tableOf?
      (fun _ => ClassOutline.ofJson?) = some report.merged.classes :=
    Json.tableOf?_ofTable fun _ entry _ => entry.ofJson?_toJson
  have controlsEq : (Json.ofTable report.merged.controls fun _ found =>
      .list (found.map Control.toJson)).tableOf? (fun _ found =>
        found.listOf? Control.ofJson?) = some report.merged.controls :=
    Json.tableOf?_ofTable fun _ _ _ => Json.listOf?_map fun control _ => control.ofJson?_toJson
  have graphsEq : (Json.ofTable report.merged.graphs fun _ => Containment.toJson).tableOf?
      (fun _ => Containment.ofJson?) = some report.merged.graphs := by
    apply Json.tableOf?_ofTable
    intro name graph member
    obtain ⟨_, graphGrown⟩ := grown name graph member
    exact Containment.ofJson?_toJson graphGrown
  rw [Report.toJson_eq, Report.ofJson?, classesEq, controlsEq, graphsEq, plain, plain,
    Json.texts?_texts, Json.texts?_texts, Json.texts?_texts]
  rfl

end ViewOutline
