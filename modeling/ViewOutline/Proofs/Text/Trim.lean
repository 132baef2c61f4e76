import ViewOutline.Text.Blank
import Mathlib.Data.List.DropRight

/-!
# What trimming leaves of a text

Trimming takes no more than the two ends of a text.  What is left is the part in
between that is tight: it starts and ends outside the class that is trimmed.
-/

namespace ViewOutline.Text

variable {p : Char → Bool}

theorem trimEnd_eq_nil_iff (text : List Char) : trimEnd p text = [] ↔ ∀ c ∈ text, p c = true :=
  List.rdropWhile_eq_nil_iff

theorem trimEnd_append_of_all (text : List Char) {tail : List Char}
    (all : ∀ c ∈ tail, p c = true) : trimEnd p (text ++ tail) = trimEnd p text := by
  have all' : ∀ c ∈ tail.reverse, p c = true := fun c member => all c (List.mem_reverse.mp member)
  rw [trimEnd, List.reverse_append, List.dropWhile_append_of_pos all', trimEnd]

/-- A text without characters of the class shields itself from trimming. -/
theorem trimEnd_append_of_none {solid : List Char} (none : ∀ c ∈ solid, p c = false)
    (tail : List Char) : trimEnd p (solid ++ tail) = solid ++ trimEnd p tail := by
  induction tail using List.reverseRecOn with
  | nil =>
      rw [List.append_nil, trimEnd_nil, List.append_nil]
      refine List.rdropWhile_eq_self_iff.mpr fun nonempty => ?_
      rw [none _ (List.getLast_mem nonempty)]
      exact Bool.false_ne_true
  | append_singleton tail c ih =>
      rw [← List.append_assoc]
      cases inside : p c with
      | true => rw [trimEnd_append_mem p _ c inside, trimEnd_append_mem p _ c inside, ih]
      | false =>
          rw [trimEnd_append_singleton p _ c inside, trimEnd_append_singleton p _ c inside,
            List.append_assoc]

theorem trim_append_of_none {solid : List Char} (nonempty : solid ≠ [])
    (none : ∀ c ∈ solid, p c = false) (tail : List Char) :
    trim p (solid ++ tail) = solid ++ trimEnd p tail := by
  have kept : (solid ++ tail).dropWhile p = solid ++ tail := by
    cases solid with
    | nil => exact absurd rfl nonempty
    | cons c rest =>
        rw [List.cons_append, List.dropWhile_cons_of_neg]
        simp [none c List.mem_cons_self]
  rw [trim, kept, trimEnd_append_of_none none]

/-- Only the ends of a text are trimmed. -/
theorem trim_append_append {opening closing : List Char} (text : List Char)
    (opens : ∀ c ∈ opening, p c = true) (closes : ∀ c ∈ closing, p c = true) :
    trim p (opening ++ text ++ closing) = trim p text := by
  rw [trim, List.append_assoc, List.dropWhile_append_of_pos opens, List.dropWhile_append]
  split
  · rename_i nothing
    have all : text.dropWhile p = [] := List.isEmpty_iff.mp nothing
    have closing_nil : closing.dropWhile p = [] := List.dropWhile_eq_nil_iff.mpr closes
    rw [closing_nil, trim, all]
  · rw [trimEnd_append_of_all _ closes, trim]

/-- What encloses a text is trimmed with the rest of its ends. -/
theorem trim_enclosed {opening closing : Char} (text : List Char) (opens : p opening = true)
    (closes : p closing = true) : trim p ([opening] ++ text ++ [closing]) = trim p text :=
  trim_append_append text (List.forall_mem_singleton.mpr opens)
    (List.forall_mem_singleton.mpr closes)

/-- No character of a class stands at either end of a text. -/
structure Tight (p : Char → Bool) (text : List Char) : Prop where
  first : ∀ c, text.head? = some c → p c = false
  last : ∀ c, text.getLast? = some c → p c = false

theorem Tight.trim_eq_self {text : List Char} (tight : Tight p text) : trim p text = text := by
  cases text with
  | nil => rfl
  | cons c rest =>
      rw [trim, List.dropWhile_cons_of_neg (by simp [tight.first c rfl])]
      refine List.rdropWhile_eq_self_iff.mpr fun nonempty => ?_
      rw [tight.last _ (List.getLast?_eq_some_getLast nonempty)]
      exact Bool.false_ne_true

/-- A tight text stands between characters of the class. -/
structure Trims (p : Char → Bool) (text inner : List Char) : Prop extends Tight p inner where
  whole : ∃ opening closing, text = opening ++ inner ++ closing ∧
    (∀ c ∈ opening, p c = true) ∧ ∀ c ∈ closing, p c = true

theorem trims_trim (text : List Char) : Trims p text (trim p text) := by
  have split : text.dropWhile p = trim p text ++ (text.dropWhile p).rtakeWhile p :=
    List.rdropWhile_append_rtakeWhile.symm
  refine ⟨⟨?_, ?_⟩, text.takeWhile p, (text.dropWhile p).rtakeWhile p, ?_, ?_, ?_⟩
  · intro c first
    have head := List.head?_dropWhile_not p text
    rw [split, List.head?_append, first] at head
    exact head
  · intro c last
    have head := List.head?_dropWhile_not p (text.dropWhile p).reverse
    rw [trim, trimEnd, List.getLast?_reverse] at last
    rw [last] at head
    exact head
  · rw [List.append_assoc, ← split, List.takeWhile_append_dropWhile]
  · exact fun c member => List.mem_takeWhile_imp member
  · exact fun c member => List.mem_rtakeWhile_imp member

theorem trims_iff {text inner : List Char} : Trims p text inner ↔ trim p text = inner := by
  constructor
  · rintro ⟨tight, opening, closing, rfl, opens, closes⟩
    rw [trim_append_append _ opens closes, tight.trim_eq_self]
  · rintro rfl
    exact trims_trim text

end ViewOutline.Text
