import ViewOutline.ClassOutline
import ViewOutline.Proofs.Text.Erasure
import ViewOutline.Proofs.Text.Trim

/-!
# Simple supertypes

Simplifying a supertype takes the type arguments out of every line and then the
constructor arguments, so pieces of a line come together that were apart.  No new
pair of brackets comes about in this way: what is kept of a line stands in the order
in which it stood there before, and a line keeps no closing bracket behind an
opening one of the same kind.  Hence one simplification is enough, and the texts that
it leaves as they are can be told without it.
-/

namespace ViewOutline

namespace Text

variable {left right : Char}

/-! ## Pairs of brackets on one line -/

theorem pair_sublist_append_iff {before : List Char} (first : left ∉ before) (rest : List Char) :
    [left, right].Sublist (before ++ rest) ↔ [left, right].Sublist rest := by
  constructor
  · intro pair
    obtain ⟨taken, others, split, inBefore, inRest⟩ := List.sublist_append_iff.mp pair
    cases taken with
    | nil => rwa [split, List.nil_append]
    | cons c taken =>
        obtain ⟨rfl, _⟩ := List.cons.inj split
        exact absurd (inBefore.subset List.mem_cons_self) first
  · exact fun pair => pair.trans (List.sublist_append_right before rest)

theorem exists_of_pair_sublist {line : List Char} (pair : [left, right].Sublist line) :
    ∃ before inner after, line = before ++ left :: (inner ++ right :: after) := by
  obtain ⟨before, rest, rfl, first⟩ :=
    List.eq_append_cons_of_mem (pair.subset List.mem_cons_self)
  rw [pair_sublist_append_iff first, List.cons_sublist_cons, List.singleton_sublist] at pair
  obtain ⟨inner, after, rfl⟩ := List.append_of_mem pair
  exact ⟨before, inner, after, rfl⟩

theorem pair_sublist (before inner after : List Char) :
    [left, right].Sublist (before ++ left :: (inner ++ right :: after)) := by
  have closing : [right].Sublist (inner ++ right :: after) :=
    List.singleton_sublist.mpr (List.mem_append_right inner List.mem_cons_self)
  exact (closing.cons_cons left).trans (List.sublist_append_right before _)

/-- An erased line has no pair of the brackets left. -/
theorem not_pair_sublist_eraseSpan (line : List Char) :
    ¬ [left, right].Sublist (eraseSpan left right line) := by
  have takes : TakesSpan left right line (eraseSpan left right line) := takesSpan_iff.mpr rfl
  generalize eraseSpan left right line = kept at takes
  intro pair
  cases takes with
  | span inner first last =>
      rw [pair_sublist_append_iff first] at pair
      exact last (pair.subset (List.mem_cons_of_mem left List.mem_cons_self))
  | unclosed first none =>
      rw [pair_sublist_append_iff first, List.cons_sublist_cons, List.singleton_sublist] at pair
      exact none pair
  | unopened none => exact none (pair.subset List.mem_cons_self)

theorem eraseSpan_eq_self_of_not_pair {line : List Char} (none : ¬ [left, right].Sublist line) :
    eraseSpan left right line = line := by
  have takes : TakesSpan left right line (eraseSpan left right line) := takesSpan_iff.mpr rfl
  generalize eraseSpan left right line = kept at takes
  cases takes with
  | span inner first last => exact absurd (pair_sublist _ inner _) none
  | unclosed => rfl
  | unopened => rfl

/-! ## Pairs of brackets in a text -/

/-- An opening bracket of a text is followed by a closing one on its line. -/
def Closes (left right : Char) (text : List Char) : Prop :=
  ∃ before inner after, text = before ++ left :: (inner ++ right :: after) ∧ '\n' ∉ inner

theorem Closes.append {text : List Char} (closes : Closes left right text)
    (opening closing : List Char) : Closes left right (opening ++ text ++ closing) := by
  obtain ⟨before, inner, after, rfl, unbroken⟩ := closes
  exact ⟨opening ++ before, inner, after ++ closing, by simp, unbroken⟩

theorem infix_intercalate {mark : Char} {line : List Char} {lines : List (List Char)}
    (member : line ∈ lines) : line <:+: [mark].intercalate lines := by
  induction lines with
  | nil => cases member
  | cons first rest ih =>
      cases rest with
      | nil =>
          obtain rfl := List.mem_singleton.mp member
          exact ⟨[], [], by simp⟩
      | cons second rest =>
          rw [List.intercalate_cons_cons]
          rcases List.mem_cons.mp member with rfl | later
          · rw [List.append_assoc]
            exact (List.prefix_append ..).isInfix
          · exact (ih later).trans (List.suffix_append ..).isInfix

/-- A part of a text without a line break stands on one line. -/
theorem exists_line_of_unbroken {part : List Char} (unbroken : '\n' ∉ part)
    (before after : List Char) :
    ∃ line ∈ (before ++ part ++ after).splitOn '\n', part <:+: line := by
  have onFirst : ∀ front, '\n' ∉ front →
      ∃ line ∈ (front ++ part ++ after).splitOn '\n', part <:+: line := by
    intro front unbrokenFront
    have joined : '\n' ∉ front ++ part := by
      simp [unbrokenFront, unbroken]
    obtain ⟨first, rest, split⟩ := List.exists_cons_of_ne_nil (List.splitOn_ne_nil '\n' after)
    rw [splitOn_append_of_not_mem joined, split, List.modifyHead_cons]
    exact ⟨_, List.mem_cons_self, front, first, rfl⟩
  by_cases broken : '\n' ∈ before
  · obtain ⟨lines, front, rfl, unbrokenFront⟩ := exists_last_of_mem broken
    obtain ⟨line, isLine, inside⟩ := onFirst front unbrokenFront
    refine ⟨line, ?_, inside⟩
    rw [List.append_assoc, List.append_assoc, List.cons_append, List.splitOn_append_cons_self,
      ← List.append_assoc]
    exact List.mem_append_right _ isLine
  · exact onFirst before broken

/-- A pair of brackets is closed in a text if it stands on one of the lines. -/
theorem closes_iff_exists_line (opens : left ≠ '\n') (ends : right ≠ '\n') (text : List Char) :
    Closes left right text ↔ ∃ line ∈ text.splitOn '\n', [left, right].Sublist line := by
  constructor
  · rintro ⟨before, inner, after, rfl, unbroken⟩
    have part : '\n' ∉ left :: (inner ++ [right]) := by
      simp [unbroken, opens.symm, ends.symm]
    obtain ⟨line, isLine, inside⟩ := exists_line_of_unbroken part before after
    refine ⟨line, by simpa using isLine, ?_⟩
    exact (pair_sublist [] inner []).trans inside.sublist
  · rintro ⟨line, isLine, pair⟩
    have onLine : Closes left right line := by
      obtain ⟨before, inner, after, rfl⟩ := exists_of_pair_sublist pair
      have unbroken := not_mem_of_mem_splitOn isLine
      exact ⟨before, inner, after, rfl, fun broken => unbroken (by simp [broken])⟩
    obtain ⟨opening, closing, whole⟩ := infix_intercalate isLine
    rw [List.intercalate_splitOn] at whole
    rw [← whole]
    exact onLine.append opening closing

theorem eraseSpans_eq_self (opens : left ≠ '\n') (ends : right ≠ '\n') {text : List Char}
    (none : ¬ Closes left right text) : eraseSpans left right text = text := by
  have kept : ∀ line ∈ text.splitOn '\n', eraseSpan left right line = line := by
    intro line isLine
    refine eraseSpan_eq_self_of_not_pair fun pair => none ?_
    exact (closes_iff_exists_line opens ends text).mpr ⟨line, isLine, pair⟩
  rw [eraseSpans, List.map_congr_left kept, List.map_id', List.intercalate_splitOn]

end Text

/-! ## Simple texts -/

/-- A text with nothing to take away from it as a supertype, not even a blank. -/
structure IsSimple (text : List Char) : Prop extends Text.Tight Text.isBlank text where
  /-- No angle bracket is closed on its line. -/
  angles : ¬ Text.Closes '<' '>' text
  /-- No parenthesis is closed on its line. -/
  parentheses : ¬ Text.Closes '(' ')' text

/-- Once both kinds of arguments are erased, no bracket of either kind is closed on its
line. -/
theorem not_closes_erased (text : List Char) :
    let erased := Text.eraseSpans '(' ')' (Text.eraseSpans '<' '>' text)
    ¬ Text.Closes '<' '>' erased ∧ ¬ Text.Closes '(' ')' erased := by
  dsimp only
  rw [Text.closes_iff_exists_line (by decide) (by decide),
    Text.closes_iff_exists_line (by decide) (by decide), Text.splitOn_eraseSpans]
  constructor
  · -- The second erasure only shortens a line that has lost its angle brackets.
    rintro ⟨_, isLine, pair⟩
    obtain ⟨_, isErased, rfl⟩ := List.mem_map.mp isLine
    rw [Text.splitOn_eraseSpans] at isErased
    obtain ⟨line, _, rfl⟩ := List.mem_map.mp isErased
    exact Text.not_pair_sublist_eraseSpan line (pair.trans (Text.eraseSpan_sublist _))
  · rintro ⟨_, isLine, pair⟩
    obtain ⟨line, _, rfl⟩ := List.mem_map.mp isLine
    exact Text.not_pair_sublist_eraseSpan line pair

theorem isSimple_toList_simplifySupertype (type : String) :
    IsSimple (simplifySupertype type).toList := by
  obtain ⟨angles, parentheses⟩ := not_closes_erased type.toList
  rw [simplifySupertype, String.toList_ofList]
  obtain ⟨tight, opening, closing, whole, _⟩ := Text.trims_trim
    (p := Text.isBlank) (Text.eraseSpans '(' ')' (Text.eraseSpans '<' '>' type.toList))
  refine ⟨tight, fun closes => angles ?_, fun closes => parentheses ?_⟩
  · rw [whole]
    exact closes.append opening closing
  · rw [whole]
    exact closes.append opening closing

theorem IsSimple.simplifySupertype_eq {text : String} (simple : IsSimple text.toList) :
    simplifySupertype text = text := by
  have unangled : Text.eraseSpans '<' '>' text.toList = text.toList :=
    Text.eraseSpans_eq_self (by decide) (by decide) simple.angles
  have unparenthesised : Text.eraseSpans '(' ')' text.toList = text.toList :=
    Text.eraseSpans_eq_self (by decide) (by decide) simple.parentheses
  rw [simplifySupertype, unangled, unparenthesised, simple.toTight.trim_eq_self,
    String.ofList_toList]

/-- A simplified supertype is simple, a second simplification does not change it, and
the simple texts are all that a simplification does not change. -/
theorem simplifySupertype_normalises (type : String) :
    IsSimple (simplifySupertype type).toList ∧
      simplifySupertype (simplifySupertype type) = simplifySupertype type ∧
      (simplifySupertype type = type ↔ IsSimple type.toList) := by
  have simple := isSimple_toList_simplifySupertype type
  refine ⟨simple, simple.simplifySupertype_eq, ?_, IsSimple.simplifySupertype_eq⟩
  intro unchanged
  rwa [unchanged] at simple

example : simplifySupertype " a > (b) < c" = "a >  < c" := by
  decide +kernel

end ViewOutline
