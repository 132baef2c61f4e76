/-!
# Erasing bracketed spans

Type texts carry type arguments and constructor arguments in brackets.  On each
line the span from the first opening bracket to the last closing bracket after
it is erased; a line without such a pair is kept.
-/

namespace ViewOutline.Text

/-- Erase, within one line, the span from the first `left` to the last `right`
after it. -/
def eraseSpan (left right : Char) (line : List Char) : List Char :=
  match line.dropWhile (· ≠ left) with
  | [] => line
  | _ :: inner =>
      if right ∈ inner then
        line.takeWhile (· ≠ left) ++ (inner.reverse.takeWhile (· ≠ right)).reverse
      else
        line

/-- Erase the bracketed span of every line. -/
def eraseSpans (left right : Char) (text : List Char) : List Char :=
  ['\n'].intercalate ((text.splitOn '\n').map (eraseSpan left right))

/-- A line without an opening bracket is kept. -/
theorem eraseSpan_eq_self_of_not_mem (left right : Char) (line : List Char)
    (absent : left ∉ line) : eraseSpan left right line = line := by
  have nothing : line.dropWhile (· ≠ left) = [] := by
    induction line with
    | nil => rfl
    | cons c rest ih =>
        have different : c ≠ left := fun equal => absent (equal ▸ List.mem_cons_self)
        simpa [different] using ih fun member => absent (List.mem_cons_of_mem c member)
  simp only [eraseSpan, nothing]

end ViewOutline.Text
