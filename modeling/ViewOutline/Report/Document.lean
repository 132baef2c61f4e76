import ViewOutline.Json
import ViewOutline.Report

/-!
# Reports as documents

The report is written as one JSON object for the generators that read it.
Fields that would be empty are left out where a reader can tell: the nested
records of a statement, the reference of a method, the structures of a class
and the children of a control that has none.
-/

namespace ViewOutline

mutual

/-- A statement record as a document. -/
def Record.toJson : Record → Json
  | ⟨kind, text, []⟩ => .object [("kind", .text kind.name), ("text", .text text)]
  | ⟨kind, text, first :: rest⟩ =>
      .object [("kind", .text kind.name), ("text", .text text),
        ("nested", .list (first.toJson :: Record.listToJson rest))]

/-- Statement records as documents. -/
def Record.listToJson : List Record → List Json
  | [] => []
  | record :: rest => record.toJson :: Record.listToJson rest

end

/-- A property as a document. -/
def Property.toJson (property : Property) : Json :=
  .object [("name", .text property.name), ("kind", .text property.kind.name),
    ("type", .ofOption property.type), ("summary", .ofOption property.summary)]

/-- A parameter of a method as a document. -/
def MethodParam.toJson (param : MethodParam) : Json :=
  .object [("name", .text param.name), ("type", .ofOption param.type)]

/-- A method as a document. -/
def Method.toJson (method : Method) : Json :=
  .object (
    [("name", .text method.name), ("shape", .text method.shape.name),
      ("params", .list (method.params.map MethodParam.toJson)),
      ("returnType", .text method.returnType),
      ("statements", .list (Record.listToJson method.statements))] ++
    match method.reference with
    | some reference => [("reference", .text reference)]
    | none => [])

/-- A class outline as a document. -/
def ClassOutline.toJson (outline : ClassOutline) : Json :=
  .object (
    [("name", .text outline.name), ("form", .text outline.form),
      ("superclasses", .texts outline.superclasses),
      ("properties", .list (outline.properties.map Property.toJson)),
      ("methods", .list (outline.methods.map Method.toJson))] ++
    if outline.structures.isEmpty then [] else [("structures", .texts outline.structures)])

/-- A control as a document. -/
def Control.toJson (control : Control) : Json :=
  .object [("uid", .text control.uid), ("kind", .text control.kind),
    ("label", .text control.label)]

/-- A containment graph as a document, with the order of its walk. -/
def Containment.toJson (graph : Containment) : Json :=
  .object [
    ("roots", .texts graph.roots),
    ("nodes", .object (graph.nodes.entries.map fun (uid, control) =>
      (uid, .object [("kind", .text control.kind), ("label", .text control.label)]))),
    ("edges", .object ((graph.edges.entries.filter fun (_, children) => !children.isEmpty).map
      fun (uid, children) => (uid, .texts children))),
    ("order", .list (graph.walk.map fun (uid, depth) =>
      .object [("uid", .text uid), ("depth", .int depth)]))]

/-- The fields of a file outline, without its notes. -/
def FileOutline.fields (outline : FileOutline) : List (String × Json) :=
  [("classBreakdowns", .object (outline.classes.entries.map fun (name, entry) =>
      (name, entry.toJson))),
    ("detectedUIControls", .object (outline.controls.entries.map fun (name, controls) =>
      (name, .list (controls.map Control.toJson)))),
    ("viewNodeGraphs", .object (outline.graphs.entries.map fun (name, graph) =>
      (name, graph.toJson))),
    ("viewImports", .object (outline.imports.entries.map fun (name, path) =>
      (name, .text path))),
    ("independentFunctions", .texts outline.functions)]

/-- A report as a document. -/
def Report.toJson (report : Report) : Json :=
  .object (
    [("project_name", .text report.projectName), ("files", .texts report.files),
      ("failed_files", .object (report.failedFiles.entries.map fun (path, reason) =>
        (path, .text reason)))] ++
    report.merged.fields ++
    [("degradations", .texts report.merged.notes)])

/-- The text of a report. -/
def Report.render (report : Report) : String :=
  report.toJson.render

end ViewOutline
