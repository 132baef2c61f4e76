import ViewOutline.ClassOutline
import ViewOutline.Proofs.Nesting.Height

/-!
# Malformed members

A property or function of a class is analysed first.  If its input turns out to be
at fault, the member is noted and recorded without details.  The analysis of one
that has a name stops at the ceiling or not at all, so exactly the members without
a name are recorded in this way.
-/

namespace ViewOutline

/-! ## How far the analysis of a member goes -/

theorem PropertyDecl.settle_takes (scope : Scope) (decl : PropertyDecl) (summary : String)
    (found : Option (PropertyKind × Option String)) :
    scope.Takes 0 (decl.settle summary found).outcome := by
  cases found with
  | none => exact scope.takes_ok _
  | some found => exact scope.takes_ok _

theorem PropertyDecl.classify_takes (scope : Scope) (decl : PropertyDecl)
    (named : decl.name ≠ "") :
    scope.Takes (Node.highest .rendering decl.operands) (decl.classify scope).outcome := by
  rcases decl with ⟨name, type, value, delegate, mutable, text⟩
  rw [classify, if_neg named]
  cases value with
  | some value =>
      simp only [Analysis.outcome_bind]
      exact (value.render_takes scope).bind fun _ _ => settle_takes scope _ _ _
  | none =>
      cases delegate with
      | some delegate =>
          simp only [Analysis.outcome_bind]
          exact (delegate.render_takes scope).bind fun _ _ => settle_takes scope _ _ _
      | none =>
          dsimp only
          split
          · split
            · exact scope.takes_ok _
            · exact scope.takes_ok _
          · exact scope.takes_ok _

theorem FunctionDecl.outline_takes (scope : Scope) (decl : FunctionDecl)
    (named : decl.name ≠ "") :
    scope.Takes (Node.highest .rendering (decl.body.map (Step.body, ·)).toList)
      (decl.outline scope).outcome := by
  rcases decl with ⟨name, params, returnType, body, text⟩
  rw [outline, if_neg named]
  simp only [Analysis.outcome_bind]
  cases body with
  | none => exact scope.takes_ok _
  | some body =>
      simp only [Option.map_some, Option.toList_some, Node.highest_cons, Node.highest_nil,
        Nat.max_zero]
      cases body with
      | reference target receiver =>
          simp only [Node.referenceText?, Analysis.outcome_bind]
          exact (((Node.reference target receiver).render_takes scope).map _).map _
      | _ => exact (Node.bodyRecords_takes scope _ (by rintro ⟨⟩)).map _

/-! ## Faults of the input -/

/-- Stopping at the ceiling is no fault of the input. -/
theorem Scope.Takes.isInputFault_eq_false {α : Type} {scope : Scope} {levels : Nat}
    {outcome : Except Failure α} (takes : scope.Takes levels outcome) {failure : Failure}
    (fails : outcome = .error failure) : failure.isInputFault = false := by
  rcases takes.returns_or_exceeded with ⟨value, returns⟩ | exceeded
  · cases returns.symm.trans fails
  · cases exceeded.symm.trans fails
    rfl

/-- An analysis of something that has to have a name.  Its input is at fault where
the name is missing, and nowhere else. -/
structure Analysis.NeedsName {α : Type} (analysis : Analysis α) (name : String)
    (fault : Failure) : Prop where
  isInputFault : fault.isInputFault = true
  nameless : name = "" → analysis = fail fault
  named : name ≠ "" →
    ∀ failure, analysis.outcome = .error failure → failure.isInputFault = false

theorem PropertyDecl.classify_needsName (scope : Scope) (decl : PropertyDecl) :
    (decl.classify scope).NeedsName decl.name .namelessProperty where
  isInputFault := rfl
  nameless nameless := if_pos nameless
  named named _ fails := (decl.classify_takes scope named).isInputFault_eq_false fails

theorem FunctionDecl.outline_needsName (scope : Scope) (decl : FunctionDecl) :
    (decl.outline scope).NeedsName decl.name .namelessFunction where
  isInputFault := rfl
  nameless nameless := if_pos nameless
  named named _ fails := (decl.outline_takes scope named).isInputFault_eq_false fails

/-! ## The handlers -/

namespace Analysis

variable {α β : Type}

/-- A fault of the input is noted, and the fallback is taken. -/
theorem orNoted_fail {failure : Failure} (fault : failure.isInputFault = true)
    (subject : String) (fallback : α) :
    (fail failure : Analysis α).orNoted subject fallback = do
      degrade subject failure.message
      return fallback := by
  simp only [orNoted, recover, fail, fault, if_true, List.nil_append]

/-- Where the input is not at fault, nothing is handled. -/
theorem orNoted_eq_self {analysis : Analysis α}
    (faultless : ∀ failure, analysis.outcome = .error failure → failure.isInputFault = false)
    (subject : String) (fallback : α) : analysis.orNoted subject fallback = analysis := by
  rcases analysis with ⟨events, outcome⟩
  cases outcome with
  | ok value => rfl
  | error failure =>
      have other := faultless failure rfl
      simp only [orNoted, recover, fail, other, Bool.false_eq_true, if_false, List.append_nil]

/-- What needs a name is handled by asking for the name first. -/
theorem NeedsName.orNoted_eq {analysis : Analysis α} {name : String} {fault : Failure}
    (needs : analysis.NeedsName name fault) (wrap : α → β) (subject : String) (fallback : β) :
    (do return wrap (← analysis)).orNoted subject fallback =
      if name = "" then do
        degrade subject fault.message
        return fallback
      else do
        return wrap (← analysis) := by
  by_cases nameless : name = ""
  · rw [if_pos nameless, needs.nameless nameless]
    exact orNoted_fail needs.isInputFault subject fallback
  · rw [if_neg nameless]
    apply orNoted_eq_self
    intro failure fails
    have sameFails : analysis.outcome = .error failure := by
      rw [outcome_bind] at fails
      cases outcome : analysis.outcome with
      | error other =>
          rw [outcome] at fails
          cases fails
          rfl
      | ok value =>
          rw [outcome] at fails
          cases fails
    exact needs.named nameless failure sameFails

end Analysis

theorem recordedName_of_nameless {name : String} (nameless : name = "") :
    recordedName name = unknownText := by
  rw [nameless]
  rfl

/-- A property is recorded without details exactly where it has no name. -/
theorem Node.outlineMember_property (scope : Scope) (className : String) (decl : PropertyDecl) :
    (Node.property decl).outlineMember scope className =
      if decl.name = "" then do
        Analysis.degrade s!"{className} property" Failure.namelessProperty.message
        return .property ⟨unknownText, .unclassified, decl.type, decl.text⟩
      else do
        return .property (← decl.classify scope) := by
  rw [outlineMember, (decl.classify_needsName scope).orNoted_eq]
  split
  · rename_i nameless
    rw [recordedName_of_nameless nameless]
  · rfl

/-- A function is recorded without details exactly where it has no name. -/
theorem Node.outlineMember_function (scope : Scope) (className : String) (decl : FunctionDecl) :
    (Node.function decl).outlineMember scope className =
      if decl.name = "" then do
        Analysis.degrade s!"{className} method" Failure.namelessFunction.message
        return .method ⟨unknownText, .ofBody decl.body, [], "Unit", [], none⟩
      else do
        return .method (← decl.outline scope) := by
  rw [outlineMember, (decl.outline_needsName scope).orNoted_eq]
  split
  · rename_i nameless
    rw [recordedName_of_nameless nameless]
  · rfl

end ViewOutline
