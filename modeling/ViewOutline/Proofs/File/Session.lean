import ViewOutline.Proofs.File.Declaration

/-!
# Sessions

A session outlines the first tree it is given and refuses all others.  Whether
the first tree can be outlined, and what is wrong with it if not, is seen from
the tree and the stack: it has to be a file, no declaration of the file may be at
fault, and the stack has to last for each of them.  A session that failed keeps
nothing of the file.
-/

namespace ViewOutline

/-- Why a tree cannot be outlined, where it is said why a declaration stops the outline
of its file. -/
inductive Node.Fault (stops : List String → Node → Failure → Prop) : Node → Failure → Prop
  | notAFile {tree : Node} :
      (∀ file, tree ≠ .file file) → Fault stops tree (.notAFile tree.shapeName)
  | declaration {file : SourceFile} {failure : Failure} :
      FirstStop stops [] file.decls failure → Fault stops (.file file) failure

/-- The top-level declarations of a tree. -/
def Node.topLevels : Node → List Node
  | .file root => root.decls
  | _ => []

/-! ## One fault decides -/

theorem Node.FaultAfter.unique {ceiling : Ceiling} {earlier : List String} {decl : Node}
    {failure other : Failure} (first : decl.FaultAfter ceiling earlier failure)
    (second : decl.FaultAfter ceiling earlier other) : failure = other := by
  cases first with
  | nameless nameless =>
      cases second with
      | nameless => rfl
      | repeated named => exact absurd nameless named
      | deep named => exact absurd nameless named
  | repeated named taken =>
      cases second with
      | nameless nameless => exact absurd nameless named
      | repeated => rfl
      | deep _ new => exact absurd taken new
  | deep named new =>
      cases second with
      | nameless nameless => exact absurd nameless named
      | repeated _ taken => exact absurd taken new
      | deep => rfl

theorem Node.StopsAfter.unique {stack : Stack} {ceiling : Ceiling} {earlier : List String}
    {decl : Node} {failure other : Failure}
    (first : decl.StopsAfter stack ceiling earlier failure)
    (second : decl.StopsAfter stack ceiling earlier other) : failure = other := by
  cases first with
  | exhausted runsOut =>
      cases second with
      | exhausted => rfl
      | fault bears => exact absurd bears runsOut
  | fault bears fault =>
      cases second with
      | exhausted runsOut => exact absurd bears runsOut
      | fault _ otherFault => exact fault.unique otherFault

namespace FirstStop

variable {stops others : List String → Node → Failure → Prop} {earlier : List String}
  {decls : List Node} {failure : Failure}

theorem unique
    (one : ∀ names decl first second, stops names decl first → stops names decl second →
      first = second)
    {other : Failure} (first : FirstStop stops earlier decls failure)
    (second : FirstStop stops earlier decls other) : failure = other := by
  induction first with
  | here stop =>
      cases second with
      | here otherStop => exact one _ _ _ _ stop otherStop
      | later passes => exact absurd stop (passes _)
  | later passes _ ih =>
      cases second with
      | here stop => exact absurd stop (passes _)
      | later _ later => exact ih later

/-- Some declaration is the one that stops. -/
theorem exists_stop (first : FirstStop stops earlier decls failure) :
    ∃ names, ∃ decl ∈ decls, stops names decl failure := by
  induction first with
  | here stop => exact ⟨_, _, List.mem_cons_self, stop⟩
  | later _ _ ih =>
      rcases ih with ⟨names, decl, member, stop⟩
      exact ⟨names, decl, List.mem_cons_of_mem _ member, stop⟩

/-- What stops first depends only on what stops each of the declarations. -/
theorem congr (first : FirstStop stops earlier decls failure)
    (same : ∀ decl ∈ decls, ∀ names other, stops names decl other ↔ others names decl other) :
    FirstStop others earlier decls failure := by
  induction first with
  | here stop => exact .here ((same _ List.mem_cons_self _ _).mp stop)
  | later passes _ ih =>
      refine .later ?_ (ih fun decl member => same decl (List.mem_cons_of_mem _ member))
      intro other stop
      exact passes other ((same _ List.mem_cons_self _ _).mpr stop)

end FirstStop

/-- What is wrong with a tree depends only on what stops each of its declarations. -/
theorem Node.Fault.congr {stops others : List String → Node → Failure → Prop} {tree : Node}
    {failure : Failure} (fault : tree.Fault stops failure)
    (same : ∀ decl ∈ tree.topLevels, ∀ names other,
      stops names decl other ↔ others names decl other) :
    tree.Fault others failure := by
  cases fault with
  | notAFile noFile => exact .notAFile noFile
  | declaration first => exact .declaration (first.congr same)

theorem Node.Fault.unique {stack : Stack} {ceiling : Ceiling} {tree : Node}
    {failure other : Failure} (first : tree.Fault (Node.StopsAfter stack ceiling) failure)
    (second : tree.Fault (Node.StopsAfter stack ceiling) other) : failure = other := by
  cases first with
  | notAFile noFile =>
      cases second with
      | notAFile => rfl
      | declaration => exact absurd rfl (noFile _)
  | declaration stop =>
      cases second with
      | notAFile noFile => exact absurd rfl (noFile _)
      | declaration otherStop =>
          exact stop.unique (fun _ _ _ _ stops => stops.unique) otherStop

theorem Node.StopsAfter.kind {stack : Stack} {ceiling : Ceiling} {earlier : List String}
    {decl : Node} {failure : Failure} (stop : decl.StopsAfter stack ceiling earlier failure) :
    failure.isInputFault = true ∨ failure = .tooDeep ceiling := by
  cases stop with
  | exhausted => exact .inr rfl
  | fault _ fault =>
      cases fault with
      | nameless | repeated => exact .inl rfl
      | deep => exact .inr rfl

/-- What is wrong with a tree is its input, or it goes too deep. -/
theorem Node.Fault.kind {stack : Stack} {ceiling : Ceiling} {tree : Node} {failure : Failure}
    (fault : tree.Fault (Node.StopsAfter stack ceiling) failure) :
    failure.isInputFault = true ∨ failure = .tooDeep ceiling := by
  cases fault with
  | notAFile => exact .inl rfl
  | declaration first =>
      rcases first.exists_stop with ⟨names, decl, _, stop⟩
      exact stop.kind

/-! ## Outlining a tree -/

/-- The outline of a file is that of its declarations, with their notes. -/
theorem SourceFile.outcome_outline (scope : Scope) (stack : Stack) (file : SourceFile)
    (path : Option String) :
    (file.outline scope stack path).outcome =
      let decls := Node.outlineTopLevels scope stack file.package
        ((Text.given path).or file.path) .empty file.decls
      decls.outcome.mapError scope.reported >>= fun outline =>
        .ok { outline with notes := decls.notes } := by
  simp only [outline, Analysis.outcome_bind, Analysis.outcome_recover_fail]
  rfl

/-- A file is outlined where its declarations are. -/
theorem SourceFile.outline_eq_ok_iff {scope : Scope} {stack : Stack} {file : SourceFile}
    {path : Option String} {result : FileOutline} :
    (file.outline scope stack path).outcome = .ok result ↔
      ∃ inner,
        (Node.outlineTopLevels scope stack file.package ((Text.given path).or file.path) .empty
          file.decls).outcome = .ok inner ∧
        result = { inner with
          notes := (Node.outlineTopLevels scope stack file.package
            ((Text.given path).or file.path) .empty file.decls).notes } := by
  rw [outcome_outline]
  dsimp only
  cases (Node.outlineTopLevels scope stack file.package ((Text.given path).or file.path) .empty
      file.decls).outcome with
  | error failure =>
      constructor
      · rintro ⟨⟩
      · rintro ⟨inner, ⟨⟩, _⟩
  | ok inner =>
      constructor
      · rintro ⟨⟩
        exact ⟨inner, rfl, rfl⟩
      · rintro ⟨_, ⟨⟩, rfl⟩
        rfl

/-- A tree is outlined unless it is at fault, and then the fault is reported. -/
theorem Node.outlineFile_cases (vocabulary : Vocabulary) (stack : Stack) (tree : Node)
    (path : Option String) :
    (∃ failure, tree.Fault (Node.StopsAfter stack vocabulary.ceiling) failure ∧
        (tree.outlineFile (.outermost vocabulary) stack path).outcome = .error failure) ∨
      ((∀ failure, ¬ tree.Fault (Node.StopsAfter stack vocabulary.ceiling) failure) ∧
        ∃ outline,
          (tree.outlineFile (.outermost vocabulary) stack path).outcome = .ok outline) := by
  cases tree with
  | file root =>
      simp only [outlineFile, SourceFile.outcome_outline]
      rcases Node.outlineTopLevels_cases vocabulary stack root.package
          ((Text.given path).or root.path) FileOutline.Lists.empty root.decls with
        ⟨failure, stop, stops⟩ | ⟨faultless, outline, _, returns, _⟩
      · rw [stops]
        exact .inl ⟨_, .declaration stop, rfl⟩
      · rw [returns]
        refine .inr ⟨?_, _, rfl⟩
        rintro failure (noFile | stop)
        · exact noFile root rfl
        · exact faultless failure stop
  | _ => exact .inl ⟨_, .notAFile (by rintro _ ⟨⟩), rfl⟩

namespace Session

/-- A new session answers with the outline of the tree. -/
theorem value_run_new_eq_ok_iff (vocabulary : Vocabulary) (stack : Stack) (tree : Node)
    (path : Option String) (outline : FileOutline) :
    ((Session.new vocabulary).run stack tree path).2.value = .ok outline ↔
      (tree.outlineFile (.outermost vocabulary) stack path).outcome = .ok outline := by
  cases outcome : (tree.outlineFile (.outermost vocabulary) stack path).outcome with
  | error failure => simp [run, Context.run, Session.new, Context.new, outcome]
  | ok found => simp [run, Context.run, Session.new, Context.new, outcome]

end Session

/-! ## A stack of some levels -/

/-- The default names under a ceiling of some levels. -/
def Vocabulary.lowered (count : Nat) (positive : 0 < count) : Vocabulary :=
  { Vocabulary.default with ceiling := .levels count positive }

end ViewOutline
