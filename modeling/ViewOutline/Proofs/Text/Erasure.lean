import ViewOutline.Text.Bracket
import ViewOutline.Proofs.Text.Split

/-!
# What erasing leaves of a text

Erasing spans works line by line.  A text in front that has neither a bracket nor a
line break is not touched, so what is left of a longer text is the text in front
followed by what is left of the rest.
-/

namespace ViewOutline.Text

/-! ## Erasing one span -/

/-- The span from the first opening bracket of a line to the last closing bracket
after it is taken out, if there is such a span. -/
inductive TakesSpan (left right : Char) : List Char → List Char → Prop
  | span {before after : List Char} (inner : List Char) : left ∉ before → right ∉ after →
      TakesSpan left right (before ++ left :: (inner ++ right :: after)) (before ++ after)
  | unclosed {before rest : List Char} : left ∉ before → right ∉ rest →
      TakesSpan left right (before ++ left :: rest) (before ++ left :: rest)
  | unopened {line : List Char} : left ∉ line → TakesSpan left right line line

variable {left right : Char}

theorem eraseSpan_append {front : List Char} (absent : left ∉ front) (line : List Char) :
    eraseSpan left right (front ++ line) = front ++ eraseSpan left right line := by
  have goes : ∀ c ∈ front, decide (c ≠ left) = true := by
    intro c member
    rw [decide_eq_true_eq]
    rintro rfl
    exact absent member
  rw [eraseSpan, eraseSpan, List.dropWhile_append_of_pos goes, List.takeWhile_append_of_pos goes]
  split
  · rfl
  · split
    · rw [List.append_assoc]
    · rfl

theorem eraseSpan_cons_of_mem {inner after : List Char} (last : right ∉ after) :
    eraseSpan left right (left :: (inner ++ right :: after)) = after := by
  have ends : ((inner ++ right :: after).reverse.takeWhile (· ≠ right)).reverse = after :=
    afterLast_append_cons inner last
  rw [eraseSpan, List.dropWhile_cons_of_neg (by simp), List.takeWhile_cons_of_neg (by simp)]
  dsimp only
  rw [if_pos (by simp), ends, List.nil_append]

theorem eraseSpan_cons_of_not_mem {rest : List Char} (unclosed : right ∉ rest) :
    eraseSpan left right (left :: rest) = left :: rest := by
  rw [eraseSpan, List.dropWhile_cons_of_neg (by simp)]
  dsimp only
  rw [if_neg unclosed]

/-- Erasing the span of a line is taking it out. -/
theorem takesSpan_iff {line kept : List Char} :
    TakesSpan left right line kept ↔ eraseSpan left right line = kept := by
  constructor
  · intro takes
    cases takes with
    | span inner first last => rw [eraseSpan_append first, eraseSpan_cons_of_mem last]
    | unclosed first none => rw [eraseSpan_append first, eraseSpan_cons_of_not_mem none]
    | unopened none => exact eraseSpan_eq_self_of_not_mem left right _ none
  · rintro rfl
    by_cases opened : left ∈ line
    · obtain ⟨before, rest, rfl, first⟩ := List.eq_append_cons_of_mem opened
      rw [eraseSpan_append first]
      by_cases closed : right ∈ rest
      · obtain ⟨inner, after, rfl, last⟩ := exists_last_of_mem closed
        rw [eraseSpan_cons_of_mem last]
        exact .span inner first last
      · rw [eraseSpan_cons_of_not_mem closed]
        exact .unclosed first closed
    · rw [eraseSpan_eq_self_of_not_mem left right _ opened]
      exact .unopened opened

/-- What is kept of a line stands there in the same order. -/
theorem eraseSpan_sublist (line : List Char) : (eraseSpan left right line).Sublist line := by
  have takes : TakesSpan left right line (eraseSpan left right line) := takesSpan_iff.mpr rfl
  generalize eraseSpan left right line = kept at takes
  cases takes with
  | span inner first last =>
      apply List.Sublist.append_left
      exact ((List.sublist_cons_self right _).trans (List.sublist_append_right inner _)).cons left
  | unclosed => exact List.Sublist.refl _
  | unopened => exact List.Sublist.refl _

/-! ## Erasing the spans of all lines -/

theorem eraseSpans_append {front : List Char} (unbroken : '\n' ∉ front) (absent : left ∉ front)
    (text : List Char) :
    eraseSpans left right (front ++ text) = front ++ eraseSpans left right text := by
  rw [eraseSpans, eraseSpans, splitOn_append_of_not_mem unbroken]
  obtain ⟨first, rest, split⟩ := List.exists_cons_of_ne_nil (List.splitOn_ne_nil '\n' text)
  rw [split, List.modifyHead_cons, List.map_cons, List.map_cons, eraseSpan_append absent]
  cases rest with
  | nil => simp
  | cons second rest => simp [List.intercalate_cons_of_ne_nil]

/-- On a single line there is one span to erase. -/
theorem eraseSpans_of_line {line : List Char} (unbroken : '\n' ∉ line) :
    eraseSpans left right line = eraseSpan left right line := by
  rw [eraseSpans, List.splitOn_eq_singleton unbroken]
  simp

/-- The lines of an erased text are those of the text, each without its span. -/
theorem splitOn_eraseSpans (text : List Char) :
    (eraseSpans left right text).splitOn '\n' =
      (text.splitOn '\n').map (eraseSpan left right) := by
  have unbroken : ∀ line ∈ (text.splitOn '\n').map (eraseSpan left right), '\n' ∉ line := by
    intro line member broken
    obtain ⟨whole, isLine, rfl⟩ := List.mem_map.mp member
    exact not_mem_of_mem_splitOn isLine ((eraseSpan_sublist whole).subset broken)
  rw [eraseSpans, List.splitOn_intercalate '\n' unbroken (by simp)]

/-- Two kinds of brackets can be erased line by line. -/
theorem eraseSpans_eraseSpans {opening closing : Char} (text : List Char) :
    eraseSpans left right (eraseSpans opening closing text) =
      ['\n'].intercalate ((text.splitOn '\n').map fun line =>
        eraseSpan left right (eraseSpan opening closing line)) := by
  rw [eraseSpans, splitOn_eraseSpans, List.map_map]
  rfl

end ViewOutline.Text
