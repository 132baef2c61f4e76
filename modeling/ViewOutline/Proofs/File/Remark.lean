import ViewOutline.Proofs.Traversal

/-!
# What is remarked while a file is outlined

Outlining a file leaves events about the file, its classes and what could not be
classified in it, and no others.  This holds of every step of a traversal, so it
holds of every declaration; a call stack that runs out only cuts off what would
still have been remarked.
-/

namespace ViewOutline

variable {α β : Type}

/-- All events of a computation are remarks on a file. -/
def Analysis.Remarks (analysis : Analysis α) : Prop :=
  ∀ event ∈ analysis.events, event.isRemark = true

namespace Analysis.Remarks

theorem pure (value : α) : (Pure.pure value : Analysis α).Remarks := by
  rintro _ ⟨⟩

theorem fail (failure : Failure) : (Analysis.fail failure : Analysis α).Remarks := by
  rintro _ ⟨⟩

theorem log {event : Event} (remark : event.isRemark = true) : (Analysis.log event).Remarks := by
  intro other member
  rw [List.mem_singleton.mp member]
  exact remark

theorem bind {first : Analysis α} {next : α → Analysis β} (remarks : first.Remarks)
    (rest : ∀ value, (next value).Remarks) : (first >>= next).Remarks := by
  intro event member
  cases outcome : first.outcome with
  | error failure =>
      rw [events_bind_error next outcome] at member
      exact remarks event member
  | ok value =>
      rw [events_bind_ok next outcome, List.mem_append] at member
      rcases member with before | after
      · exact remarks event before
      · exact rest value event after

theorem recover {analysis : Analysis α} {handler : Failure → Analysis α}
    (remarks : analysis.Remarks) (handled : ∀ failure, (handler failure).Remarks) :
    (analysis.recover handler).Remarks := by
  rw [Analysis.recover]
  split
  · exact remarks
  · intro event member
    rcases List.mem_append.mp member with before | after
    · exact remarks event before
    · exact handled _ event after

theorem carry {analysis : Analysis α} (remarks : analysis.Remarks) (stack : Stack)
    (decl : Node) : (stack.carry decl analysis).Remarks := by
  rw [Stack.carry]
  split
  · exact remarks
  · intro event member
    exact remarks event (List.mem_of_mem_take member)

end Analysis.Remarks

open Analysis

/-- Every traversal leaves remarks only. -/
theorem Traversal.remarks {analysis : Scope → Analysis α} (traversal : Traversal analysis)
    (scope : Scope) : (analysis scope).Remarks := by
  induction traversal generalizing scope with
  | lift outcome => rintro _ ⟨⟩
  | log _ remark => exact .log remark
  | degrade subject detail => exact .log rfl
  | bind _ _ ihFirst ihNext => exact (ihFirst scope).bind fun value => ihNext value scope
  | @descend _ body _ ih =>
      have entering : (liftM scope.descend : Analysis Scope).Remarks := by
        rintro _ ⟨⟩
      exact entering.bind ih
  | consult question next _ _ ih => exact ih (question scope.vocabulary) scope

end ViewOutline
