import ViewOutline.Proofs.Nesting.Member

/-!
# How controls are named

The controls of a class are counted for each kind apart, and the count is glued
to the kind with a number sign.  A vocabulary may hold names with number signs
and digits of their own, so that kinds look like identifiers of other kinds, and
still no two controls are named alike.  A search therefore never has a control
refused, however far it gets.
-/

namespace ViewOutline

/-- The identifiers of controls: the kind, a number sign and the ordinal among
the controls of that kind, in decimal. -/
structure Control.NamedByKind (controls : List Control) : Prop where
  uid : ∀ kind index control, (controls.filter (·.kind == kind))[index]? = some control →
    control.uid.toList = kind.toList ++ '#' :: Nat.toDigits 10 (index + 1)
  nodup : (controls.map Control.uid).Nodup

theorem Control.Numbered.namedByKind {controls : List Control} (numbered : Numbered controls) :
    NamedByKind controls where
  uid kind index control found := by
    rw [numbered.uid_eq found, toList_identifier]
  nodup := numbered.nodup_uids

/-- The controls that a search finds are named by their kinds, and no search has
a control refused. -/
theorem findControls_namedByKind (scope : Scope) (members : List Node) :
    (∀ harvest, (Node.findControls scope members).outcome = .ok harvest →
      Control.NamedByKind harvest.controls) ∧
    ∀ error, (Node.findControls scope members).outcome ≠ .error (.containment error) := by
  constructor
  · intro harvest returns
    exact (Node.grown_of_findControls returns).numbered.namedByKind
  · intro error refused
    rcases (Node.findControls_takes scope members).returns_or_exceeded with
      ⟨harvest, returns⟩ | exceeded
    · rw [refused] at returns
      cases returns
    · rw [Scope.Exceeded, refused] at exceeded
      cases exceeded

/-- One kind is named as a control of the other would be. -/
example : (Node.findControls (.outermost { Vocabulary.default with widgets := ["a", "a#1"] })
    [.initializer [.call ⟨"a", [], none, none⟩, .call ⟨"a#1", [], none, none⟩]]).outcome.map
      (·.controls.map Control.uid) = .ok ["a#1", "a#1#1"] := by
  rfl

end ViewOutline
