import ViewOutline.Proofs.Class.Handler

/-!
# Nesting of the members of a class

The outline of a class and the search for its controls start from the same
expressions, but the outline leaves out the members that have no name.  Hence
the outline stops at the ceiling only where the search does.  For a function
with a name and a regular body the two stop together.
-/

namespace ViewOutline

/-- The expressions in which the outline of a member starts. -/
def Node.outlined : Node → List (Step × Node)
  | .property decl => if decl.name = "" then [] else decl.operands
  | .function decl => if decl.name = "" then [] else (decl.body.map (Step.body, ·)).toList
  | .initializer statements => [(.body, .block statements)]
  | _ => []

/-- The height of a member for the outline of its class. -/
def Node.outlineHeight (member : Node) : Nat :=
  Node.highest .rendering member.outlined

/-- The height of a member for the search for controls. -/
def Node.searchHeight (member : Node) : Nat :=
  Node.highest .search member.entries

theorem Node.outlined_subset_entries (member : Node) : member.outlined ⊆ member.entries := by
  cases member with
  | property decl =>
      rw [outlined]
      split
      · exact List.nil_subset _
      · exact decl.operands_sublist.subset
  | function decl =>
      rw [outlined]
      split
      · exact List.nil_subset _
      · exact List.Subset.refl _
  | _ => exact List.Subset.refl _

theorem Node.outlineHeight_le (member : Node) : member.outlineHeight ≤ member.searchHeight := by
  rw [outlineHeight, highest_le_iff]
  intro step node outlined
  calc node.height .rendering
      ≤ node.height .search := Nat.succ_le_succ node.levels_rendering_le
    _ ≤ member.searchHeight := height_le_highest (member.outlined_subset_entries outlined)

/-! ## The outline -/

theorem Node.outlineMember_takes (scope : Scope) (className : String) (member : Node) :
    scope.Takes member.outlineHeight (member.outlineMember scope className).outcome := by
  cases member with
  | property decl =>
      rw [outlineMember_property]
      by_cases named : decl.name = ""
      · simp only [outlineHeight, outlined, if_pos named]
        exact scope.takes_ok _
      · simp only [outlineHeight, outlined, if_neg named, Analysis.outcome_bind]
        exact (decl.classify_takes scope named).map _
  | function decl =>
      rw [outlineMember_function]
      by_cases named : decl.name = ""
      · simp only [outlineHeight, outlined, if_pos named]
        exact scope.takes_ok _
      · simp only [outlineHeight, outlined, if_neg named, Analysis.outcome_bind]
        exact (decl.outline_takes scope named).map _
  | initializer statements =>
      simp only [outlineMember, Analysis.outcome_bind]
      exact (Node.blockRecords_takes scope statements).map _
  | _ => exact scope.takes_ok _

theorem Node.outlineMembers_takes (scope : Scope) (className : String) (members : List Node) :
    scope.Takes (Node.highest .rendering (members.flatMap Node.outlined))
      (Node.outlineMembers scope className members).outcome := by
  induction members with
  | nil => exact scope.takes_ok []
  | cons member rest ih =>
      rw [List.flatMap_cons, highest_append]
      simp only [outlineMembers, Analysis.outcome_bind]
      apply (member.outlineMember_takes scope className).bind
      intro first _
      exact ih.map _

theorem StructuredDecl.outline_takes (scope : Scope) (decl : StructuredDecl)
    (className : Option String) (named : (Text.given className).getD decl.name ≠ "") :
    scope.Takes (Node.highest .rendering (decl.members.flatMap Node.outlined))
      (decl.outline scope className).outcome := by
  rw [outline, if_neg named, Analysis.outcome_bind]
  exact (Node.outlineMembers_takes scope _ decl.members).map _

/-! ## The search -/

theorem Node.scanMember_takes (scope : Scope) (member : Node) {harvest : Harvest}
    (grown : harvest.Grown) :
    scope.Takes member.searchHeight (member.scanMember scope harvest) := by
  rw [scanMember_eq]
  exact scanParts_takes (fun _ child _ => child.scan_takes) grown fun _ => harvest.knows_none

theorem Node.scanMembers_takes (scope : Scope) (members : List Node) {harvest : Harvest}
    (grown : harvest.Grown) :
    scope.Takes (Node.highest .search (members.flatMap Node.entries))
      (Node.scanMembers scope members harvest) := by
  induction members generalizing harvest with
  | nil => exact scope.takes_ok harvest
  | cons member rest ih =>
      rw [List.flatMap_cons, highest_append, scanMembers]
      apply (member.scanMember_takes scope grown).bind
      intro next scanned
      rw [scanMember_eq] at scanned
      exact ih (scanParts_grown (fun _ child _ => child.scan_grown) grown scanned).1

theorem Node.findControls_takes (scope : Scope) (members : List Node) :
    scope.Takes (Node.highest .search (members.flatMap Node.entries))
      (Node.findControls scope members).outcome := by
  simp only [findControls, Analysis.outcome_bind]
  exact (Node.scanMembers_takes scope members .empty).map _

theorem Node.highest_outlined_le (members : List Node) :
    Node.highest .rendering (members.flatMap Node.outlined) ≤
      Node.highest .search (members.flatMap Node.entries) := by
  induction members with
  | nil => exact Nat.le_refl 0
  | cons member rest ih =>
      rw [List.flatMap_cons, List.flatMap_cons, highest_append, highest_append]
      apply Nat.max_le.mpr
      constructor
      · exact Nat.le_trans member.outlineHeight_le (Nat.le_max_left _ _)
      · exact Nat.le_trans ih (Nat.le_max_right _ _)

end ViewOutline
