import ViewOutline.Proofs.Report.Decoding

/-!
# The text of a report

The text of a report is a JSON document in ASCII.  Names are unique in every table
of a report, so no object of the document has a key twice.  If the report was made
by merging outlines, it can be read back from its text.
-/

namespace ViewOutline

/-! ## Keys occur once -/

namespace Json

variable {α : Type}

attribute [simp] DistinctKeys.text DistinctKeys.int

@[simp]
theorem distinctKeys_ofOption (value : Option String) : (ofOption value).DistinctKeys := by
  cases value with
  | none => exact .null
  | some value => exact .text value

@[simp]
theorem distinctKeys_map {encode : α → Json} (items : List α)
    (each : ∀ item, (encode item).DistinctKeys) :
    (Json.list (items.map encode)).DistinctKeys :=
  .list (List.forall_mem_map.mpr fun item _ => each item)

@[simp]
theorem distinctKeys_texts (values : List String) : (texts values).DistinctKeys :=
  distinctKeys_map values .text

/-- The names of a table become different keys. -/
@[simp]
theorem distinctKeys_ofTable (table : Table α) {encode : String → α → Json}
    (each : ∀ name value, (encode name value).DistinctKeys) :
    (ofTable table encode).DistinctKeys := by
  refine .object ?_ (List.forall_mem_map.mpr fun entry _ => each entry.1 entry.2)
  rw [List.map_map]
  exact table.nodup

end Json

mutual

@[simp]
theorem Record.distinctKeys_toJson : ∀ record : Record, record.toJson.DistinctKeys
  | ⟨kind, text, []⟩ => by
      rw [Record.toJson]
      exact .object (by simp) (by simp)
  | ⟨kind, text, first :: rest⟩ => by
      have nested := Json.DistinctKeys.list (List.forall_mem_cons.mpr
        ⟨first.distinctKeys_toJson, Record.distinctKeys_of_mem rest⟩)
      rw [Record.toJson]
      exact .object (by simp) (by simp [nested])

theorem Record.distinctKeys_of_mem : ∀ records : List Record,
    ∀ document ∈ Record.listToJson records, document.DistinctKeys
  | [] => List.forall_mem_nil _
  | record :: rest => by
      rw [Record.listToJson, List.forall_mem_cons]
      exact ⟨record.distinctKeys_toJson, Record.distinctKeys_of_mem rest⟩

end

@[simp]
theorem Property.distinctKeys_toJson (property : Property) : property.toJson.DistinctKeys :=
  .object (by simp) (by simp)

@[simp]
theorem MethodParam.distinctKeys_toJson (param : MethodParam) : param.toJson.DistinctKeys :=
  .object (by simp) (by simp)

@[simp]
theorem Method.distinctKeys_toJson (method : Method) : method.toJson.DistinctKeys := by
  have statements := Json.DistinctKeys.list (Record.distinctKeys_of_mem method.statements)
  rw [Method.toJson]
  cases method.reference with
  | none => exact .object (by simp) (by simp [statements])
  | some reference => exact .object (by simp) (by simp [statements])

@[simp]
theorem ClassOutline.distinctKeys_toJson (outline : ClassOutline) :
    outline.toJson.DistinctKeys := by
  rw [ClassOutline.toJson]
  cases outline.structures with
  | nil => exact .object (by simp) (by simp)
  | cons first rest => exact .object (by simp) (by simp)

@[simp]
theorem Control.distinctKeys_toJson (control : Control) : control.toJson.DistinctKeys :=
  .object (by simp) (by simp)

@[simp]
theorem Control.distinctKeys_toNode (control : Control) : control.toNode.DistinctKeys :=
  .object (by simp) (by simp)

@[simp]
theorem Containment.distinctKeys_toJson (graph : Containment) : graph.toJson.DistinctKeys := by
  have stop : ∀ stop : String × Nat, (Json.object [("uid", .text stop.1),
      ("depth", .int stop.2)]).DistinctKeys :=
    fun _ => .object (by simp) (by simp)
  rw [Containment.toJson_eq]
  exact .object (by simp) (by simp [stop])

theorem Report.distinctKeys_toJson (report : Report) : report.toJson.DistinctKeys := by
  rw [Report.toJson_eq]
  exact .object (by simp) (by simp)

/-! ## The graphs of merged outlines -/

/-- The graphs of an outline are grown by adding controls. -/
theorem FileOutline.Outlined.exists_grownBy {outline : FileOutline} (outlined : outline.Outlined)
    {name : String} {graph : Containment} (found : outline.graphs.find? name = some graph) :
    ∃ history, graph.GrownBy history := by
  obtain ⟨vocabulary, stack, tree, path, returns⟩ := outlined
  cases tree with
  | file root =>
      obtain ⟨entries, brings⟩ := SourceFile.exists_brings returns
      rw [Table.find?_eq_some_iff, brings.lists.graphs] at found
      obtain ⟨entry, member, pairEq⟩ := List.mem_map.mp found
      cases pairEq
      obtain ⟨decl, _, entryReturns⟩ := brings.exists_decl (List.mem_of_mem_filter member)
      obtain ⟨_, _, searched, _⟩ := StructuredDecl.entry_eq_ok_iff.mp entryReturns
      obtain ⟨finds, tracks, _⟩ := exists_tracks_of_findControls searched
      exact ⟨_, tracks.grown⟩
  | _ => cases returns

namespace Report

/-- The graph of a class comes from the first file that declares the class. -/
theorem exists_grownBy_of_mergeAll (projectName : String) {files : List (String × FileOutline)}
    (outlined : ∀ file ∈ files, file.2.Outlined) (name : String) (graph : Containment)
    (listed : (name, graph) ∈
      ((Report.new projectName).mergeAll files).value.merged.graphs.entries) :
    ∃ history, graph.GrownBy history := by
  obtain ⟨collects, known, lists, forests⟩ := mergeAll_collects projectName files outlined
  have wins := collects.firstWins lists forests
  rw [← Table.find?_eq_some_iff] at listed
  have present : name ∈
      ((Report.new projectName).mergeAll files).value.merged.graphs.keys :=
    (Table.mem_keys_iff _ _).mpr ⟨graph, listed⟩
  rw [wins.graphs] at present
  have declared := (collects.mem_classes_iff name).mp (wins.controls name present)
  rw [declares_eq_isSome, Option.isSome_iff_exists] at declared
  obtain ⟨file, first⟩ := declared
  rw [(collects.agree name file first).graphs] at listed
  exact (outlined file (List.mem_of_find?_eq_some first)).exists_grownBy listed

/-! ## Reading a report back -/

/-- Nothing of a report is lost in its text. -/
structure Lossless (report : Report) : Prop where
  ascii : report.render.toList.all Json.isAscii = true
  /-- The text is written by the rules of the format. -/
  written : Json.Written report.render.toList report.toJson
  /-- The text is written for no other document. -/
  unique : ∀ document, Json.Written report.render.toList document → document = report.toJson
  distinctKeys : report.toJson.DistinctKeys
  decoded : Report.ofText? report.render = some report

/-- A report whose graphs are grown by adding controls can be read back. -/
theorem lossless_of_grownBy {report : Report}
    (grown : ∀ name graph, (name, graph) ∈ report.merged.graphs.entries →
      ∃ history, graph.GrownBy history) : Lossless report := by
  have written : Json.Written report.render.toList report.toJson :=
    Json.written_render report.toJson
  refine ⟨?_, written, fun _ other => other.unique written, report.distinctKeys_toJson, ?_⟩
  · rw [render, Json.render, String.toList_ofList]
    exact Json.all_isAscii_renderAt 0 report.toJson
  · rw [ofText?, Json.read?_of_written written, Option.bind_some, ofJson?_toJson grown]

/-- A report of outlines, with any files that failed, can be read back from its text. -/
theorem mergeAll_lossless (projectName : String) (files : List (String × FileOutline))
    (outlined : ∀ file ∈ files, file.2.Outlined) (failedFiles : Table String) :
    Lossless { ((Report.new projectName).mergeAll files).value with failedFiles } :=
  lossless_of_grownBy (exists_grownBy_of_mergeAll projectName outlined)

/-- Files that failed, with characters that have to be escaped. -/
def failedScreens : Table String :=
  Table.empty.insert "src/\"😀\".kt" "line 1\n\t\x01 \\ é"

/-- A button inside a box is read back, although its empty list of children and its
container are not written. -/
theorem mergeAll_screenFile_lossless : ∃ screen graph,
    (FileOutline.ofTree .default .ample (.file screenFile) none).outcome = .ok screen ∧
      let report := { ((Report.new "app").mergeAll [("Screen.kt", screen)]).value with
        failedFiles := failedScreens }
      report.merged.graphs.entries = [("Screen", graph)] ∧
        graph.edges.entries = [("vbox#1", ["button#1"]), ("button#1", [])] ∧
        graph.parents.entries = [("button#1", "vbox#1")] ∧
        graph.writtenChildren.entries = [("vbox#1", ["button#1"])] ∧
        Lossless report := by
  refine ⟨_, _, rfl, rfl, rfl, rfl, rfl, ?_⟩
  exact mergeAll_lossless "app" [("Screen.kt", _)]
    (List.forall_mem_singleton.mpr ⟨.default, .ample, .file screenFile, none, rfl⟩) failedScreens

end Report

end ViewOutline
