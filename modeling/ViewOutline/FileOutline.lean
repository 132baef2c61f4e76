import ViewOutline.ClassOutline
import ViewOutline.Containment.Scan
import ViewOutline.Context
import ViewOutline.ImportPath
import ViewOutline.Stack

/-!
# File outlines

The outline of a file holds the outlines of its top-level classes, the controls
and containment graphs of those that build any, the import path of each class,
the signatures of the free functions, and the notes.  A file is outlined as a
whole or not at all: a class without a name, two classes of one name and an
expression that nests too deep leave nothing behind.  Where the call stack runs out
before the ceiling is reached, this is reported as nesting too deep.
-/

namespace ViewOutline

/-- Everything the analysis of one file produces. -/
structure FileOutline where
  classes : Table ClassOutline
  controls : Table (List Control)
  graphs : Table Containment
  imports : Table String
  functions : List String
  notes : List String

namespace FileOutline

/-- The outline of a file without declarations. -/
def empty : FileOutline :=
  ⟨.empty, .empty, .empty, .empty, [], []⟩

instance : Inhabited FileOutline :=
  ⟨empty⟩

/-- Enter a class with its controls and its import path. -/
def addClass (outline : FileOutline) (name : String) (classOutline : ClassOutline)
    (harvest : Harvest) (importPath : Option String) : FileOutline :=
  { outline with
    classes := outline.classes.insert name classOutline
    controls :=
      if harvest.controls.isEmpty then outline.controls
      else outline.controls.insert name harvest.controls
    graphs :=
      if harvest.controls.isEmpty then outline.graphs
      else outline.graphs.insert name harvest.graph
    imports :=
      match importPath with
      | some path => outline.imports.insert name path
      | none => outline.imports }

end FileOutline

/-- A parameter in the signature of a function. -/
def Param.signature (param : Param) : String :=
  match Text.given param.type with
  | some type => param.name ++ ": " ++ type
  | none => param.name

/-- A free function: its text, or else its signature. -/
def FunctionDecl.signature (decl : FunctionDecl) : String :=
  match Text.given decl.text with
  | some text => text
  | none =>
      let params := ", ".intercalate (decl.params.map Param.signature)
      let head := s!"fun {decl.name}({params})"
      match Text.given decl.returnType with
      | some type => head ++ ": " ++ type
      | none => head

/-- The import path of a class in a file that may have a path.  A path of no
known dialect is reported. -/
def importOf (path : Option String) (className : String) (package : Option String) :
    Analysis (Option String) :=
  match path with
  | none => return none
  | some path =>
      match ImportPath.resolve? path className package with
      | some importPath => return some importPath
      | none => do
          Analysis.log (.unknownDialect path)
          return none

/-- Outline a top-level class and enter it. -/
def StructuredDecl.outlineInto (scope : Scope) (package path : Option String)
    (outline : FileOutline) (decl : StructuredDecl) : Analysis FileOutline :=
  if decl.name = "" then Analysis.fail .namelessTopLevel
  else if outline.classes.contains decl.name then Analysis.fail (.repeatedClass decl.name)
  else do
    let classOutline ← decl.outline scope (some decl.name)
    let harvest ← Node.findControls scope decl.members
    let importPath ← importOf path decl.name package
    return outline.addClass decl.name classOutline harvest importPath

/-- Outline one top-level declaration. -/
def Node.outlineTopLevel (scope : Scope) (package path : Option String)
    (outline : FileOutline) : Node → Analysis FileOutline
  | .structured decl => decl.outlineInto scope package path outline
  | .function decl => return { outline with functions := outline.functions ++ [decl.signature] }
  | other => do
      Analysis.log (.skippedDeclaration other.shapeName)
      return outline

/-- Outline the top-level declarations of a file in order. -/
def Node.outlineTopLevels (scope : Scope) (stack : Stack) (package path : Option String) :
    FileOutline → List Node → Analysis FileOutline
  | outline, [] => return outline
  | outline, decl :: rest => do
      let outline ← stack.carry decl (decl.outlineTopLevel scope package path outline)
      Node.outlineTopLevels scope stack package path outline rest

/-- What is reported of a failure in a scope: a stack that runs out is reported as
nesting beyond the ceiling. -/
def Scope.reported (scope : Scope) : Failure → Failure
  | .stackExhausted => .tooDeep scope.vocabulary.ceiling
  | failure => failure

/-- Outline a file.  The path given, if any, goes before that of the file. -/
def SourceFile.outline (scope : Scope) (stack : Stack) (file : SourceFile)
    (path : Option String) : Analysis FileOutline := do
  let path := (Text.given path).or file.path
  let decls := Node.outlineTopLevels scope stack file.package path .empty file.decls
  let outline ← decls.recover fun failure => Analysis.fail (scope.reported failure)
  Analysis.log (.outlinedFile path outline.classes.size outline.functions.length)
  return { outline with notes := decls.notes }

/-- Outline a tree, which has to be a file. -/
def Node.outlineFile (scope : Scope) (stack : Stack) (tree : Node) (path : Option String) :
    Analysis FileOutline :=
  match tree with
  | .file root => root.outline scope stack path
  | other => Analysis.fail (.notAFile other.shapeName)

/-- Outline one file in a fresh context. -/
def FileOutline.ofTree (vocabulary : Vocabulary) (stack : Stack) (tree : Node)
    (path : Option String) : Analysis FileOutline :=
  tree.outlineFile (.outermost vocabulary) stack path

/-- Why a session gave no outline. -/
inductive SessionError where
  /-- The session has been used. -/
  | spent
  /-- The file could not be outlined. -/
  | failed (failure : Failure)

/-- The wording of a session error. -/
def SessionError.message : SessionError → String
  | .spent => "BreakdownSession objects analyze a single file"
  | .failed failure => failure.message

/-- The analysis of a single file.  A session takes one file and keeps its
outline; further files are refused. -/
structure Session where
  context : Context
  outline : FileOutline
  spent : Bool

namespace Session

/-- A session that has not been used. -/
def new (vocabulary : Vocabulary) : Session :=
  ⟨.new vocabulary, .empty, false⟩

/-- Outline a file in a session. -/
def run (session : Session) (stack : Stack) (tree : Node) (path : Option String) :
    Session × Logged (Except SessionError FileOutline) :=
  if session.spent then (session, ⟨[], .error .spent⟩)
  else
    let analysis := tree.outlineFile session.context.scope stack path
    let (context, outcome) := session.context.run fun _ => analysis
    match outcome with
    | .ok outline => (⟨context, outline, true⟩, ⟨analysis.events, .ok outline⟩)
    | .error failure =>
        (⟨context, session.outline, true⟩, ⟨analysis.events, .error (.failed failure)⟩)

end Session

end ViewOutline
