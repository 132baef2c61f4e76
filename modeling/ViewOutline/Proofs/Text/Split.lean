import ViewOutline.Text.Search
import Mathlib.Data.List.TakeWhile

/-!
# Marks in a text

A text is split at a mark, read behind the last mark, and joined from parts with a
mark between them.
-/

namespace ViewOutline.Text

/-! ## Behind the last mark -/

/-- Read from its end, a list is kept up to the last item that stops. -/
theorem reverse_takeWhile_reverse {α : Type} {goes : α → Bool} (before : List α)
    {item : α} {after : List α} (stop : goes item = false)
    (go : ∀ later ∈ after, goes later = true) :
    ((before ++ item :: after).reverse.takeWhile goes).reverse = after := by
  have go' : ∀ later ∈ after.reverse, goes later = true :=
    fun later member => go later (List.mem_reverse.mp member)
  rw [List.reverse_append, List.reverse_cons, List.append_assoc,
    List.takeWhile_append_of_pos go', List.singleton_append,
    List.takeWhile_cons_of_neg (by simp [stop]), List.append_nil, List.reverse_reverse]

theorem afterLast_append_cons {mark : Char} (before : List Char) {after : List Char}
    (last : mark ∉ after) : afterLast mark (before ++ mark :: after) = after := by
  refine reverse_takeWhile_reverse before (by simp) fun c member => ?_
  rw [decide_eq_true_eq]
  rintro rfl
  exact last member

theorem afterLast_eq_self {mark : Char} {text : List Char} (absent : mark ∉ text) :
    afterLast mark text = text := by
  have goes : ∀ c ∈ text.reverse, decide (c ≠ mark) = true := by
    intro c member
    rw [decide_eq_true_eq]
    rintro rfl
    exact absent (List.mem_reverse.mp member)
  rw [afterLast, List.takeWhile_eq_self_iff.mpr goes, List.reverse_reverse]

theorem exists_last_of_mem {c : Char} {text : List Char} (member : c ∈ text) :
    ∃ before after, text = before ++ c :: after ∧ c ∉ after := by
  obtain ⟨after, before, split, last⟩ := List.eq_append_cons_of_mem (List.mem_reverse.mpr member)
  refine ⟨before.reverse, after.reverse, ?_, fun again => last (List.mem_reverse.mp again)⟩
  rw [← List.reverse_reverse text, split]
  simp

/-! ## Splitting -/

/-- A name without the mark is the end of the last part, whatever stands in
front of it. -/
theorem exists_splitOn_append {mark : Char} (front : List Char) {name : List Char}
    (free : mark ∉ name) :
    ∃ parts before, front.splitOn mark = parts ++ [before] ∧
      (front ++ name).splitOn mark = parts ++ [before ++ name] := by
  induction front with
  | nil => exact ⟨[], [], rfl, List.splitOn_eq_singleton free⟩
  | cons c rest ih =>
      obtain ⟨parts, before, split, splitAppend⟩ := ih
      rw [List.cons_append, List.splitOn_cons_eq_if_modifyHead,
        List.splitOn_cons_eq_if_modifyHead, split, splitAppend]
      -- A mark opens a part of its own; any other character joins the first one,
      -- which is also the last one as long as no mark was met.
      by_cases isMark : (c == mark) = true
      · rw [if_pos isMark, if_pos isMark]
        exact ⟨[] :: parts, before, rfl, rfl⟩
      · rw [if_neg isMark, if_neg isMark]
        cases parts with
        | nil => exact ⟨[], c :: before, rfl, rfl⟩
        | cons part parts => exact ⟨(c :: part) :: parts, before, rfl, rfl⟩

/-- A text without a mark joins the first part of what follows it. -/
theorem splitOn_append_of_not_mem {mark : Char} {front : List Char} (absent : mark ∉ front)
    (text : List Char) :
    (front ++ text).splitOn mark = (text.splitOn mark).modifyHead (front ++ ·) := by
  induction front with
  | nil =>
      obtain ⟨first, rest, split⟩ := List.exists_cons_of_ne_nil (List.splitOn_ne_nil mark text)
      rw [List.nil_append, split]
      rfl
  | cons c rest ih =>
      rw [List.mem_cons, not_or] at absent
      have other : ¬(c == mark) = true := by simpa using Ne.symm absent.1
      rw [List.cons_append, List.splitOn_cons_eq_if_modifyHead, if_neg other, ih absent.2,
        List.modifyHead_modifyHead]
      rfl

theorem not_mem_of_mem_splitOn {mark : Char} {text part : List Char}
    (member : part ∈ text.splitOn mark) : mark ∉ part := by
  induction text generalizing part with
  | nil =>
      rw [List.splitOn_nil, List.mem_singleton] at member
      rw [member]
      exact List.not_mem_nil
  | cons c rest ih =>
      rw [List.splitOn_cons_eq_if_modifyHead] at member
      obtain ⟨first, parts, split⟩ := List.exists_cons_of_ne_nil (List.splitOn_ne_nil mark rest)
      rw [split] at member ih
      split at member
      · rcases List.mem_cons.mp member with rfl | later
        · exact List.not_mem_nil
        · exact ih later
      · rename_i other
        rcases List.mem_cons.mp member with rfl | later
        · rw [List.mem_cons, not_or]
          exact ⟨fun same => other (by simp [same]), ih List.mem_cons_self⟩
        · exact ih (List.mem_cons_of_mem first later)

/-! ## Joining -/

/-- One more part is joined to a list of parts by one more separator. -/
theorem intercalate_concat {separator : List Char} {parts : List (List Char)}
    (parts_ne : parts ≠ []) (part : List Char) :
    separator.intercalate (parts ++ [part]) =
      separator.intercalate parts ++ separator ++ part := by
  induction parts with
  | nil => exact absurd rfl parts_ne
  | cons first rest ih =>
      cases rest with
      | nil => simp
      | cons second rest =>
          rw [List.cons_append, List.intercalate_cons_of_ne_nil (by simp),
            List.intercalate_cons_of_ne_nil (by simp), ih (by simp)]
          simp

/-- Parts with a separator between them show their last part. -/
theorem intercalate_concat_inj {separator : List Char} {parts : List (List Char)}
    {first second : List Char}
    (equal : separator.intercalate (parts ++ [first]) =
      separator.intercalate (parts ++ [second])) : first = second := by
  by_cases alone : parts = []
  · simpa [alone] using equal
  · rw [intercalate_concat alone, intercalate_concat alone] at equal
    exact List.append_cancel_left equal

theorem forall_mem_intercalate_iff {p : Char → Bool} {mark : Char} (marked : p mark = true)
    (lines : List (List Char)) :
    (∀ c ∈ [mark].intercalate lines, p c = true) ↔ ∀ line ∈ lines, ∀ c ∈ line, p c = true := by
  induction lines with
  | nil => simp
  | cons first rest ih =>
      cases rest with
      | nil => simp
      | cons second rest =>
          rw [List.intercalate_cons_cons, List.forall_mem_append, List.forall_mem_append,
            List.forall_mem_singleton, List.forall_mem_cons, ih, and_iff_left marked]

end ViewOutline.Text
