/-!
# Blanks and trimming

The blank characters are the Unicode white space together with the four
information separators.  Trimming takes a class of characters off one or both
ends of a text and leaves the rest alone.
-/

namespace ViewOutline.Text

/-- White space, and the separators U+001C to U+001F. -/
def isBlank (c : Char) : Bool :=
  let n := c.toNat
  (decide (0x09 ≤ n) && decide (n ≤ 0x0d)) || (decide (0x1c ≤ n) && decide (n ≤ 0x20)) ||
    n == 0x85 || n == 0xa0 || n == 0x1680 || (decide (0x2000 ≤ n) && decide (n ≤ 0x200a)) ||
    n == 0x2028 || n == 0x2029 || n == 0x202f || n == 0x205f || n == 0x3000

/-- Take the characters of a class off the end of a text. -/
def trimEnd (p : Char → Bool) (text : List Char) : List Char :=
  (text.reverse.dropWhile p).reverse

/-- Take the characters of a class off both ends of a text. -/
def trim (p : Char → Bool) (text : List Char) : List Char :=
  trimEnd p (text.dropWhile p)

/-- A text without the blanks around it. -/
def strip (text : String) : String :=
  String.ofList (trim isBlank text.toList)

@[simp]
theorem trimEnd_nil (p : Char → Bool) : trimEnd p [] = [] :=
  rfl

/-- A text that ends outside the class keeps its end. -/
theorem trimEnd_append_singleton (p : Char → Bool) (text : List Char) (c : Char)
    (outside : p c = false) : trimEnd p (text ++ [c]) = text ++ [c] := by
  simp [trimEnd, outside]

/-- A text that ends inside the class loses its last character. -/
theorem trimEnd_append_mem (p : Char → Bool) (text : List Char) (c : Char)
    (inside : p c = true) : trimEnd p (text ++ [c]) = trimEnd p text := by
  simp [trimEnd, inside]

/-- A text that counts: one that was written and is not empty. -/
def given (text : Option String) : Option String :=
  text.filter (· ≠ "")

@[simp]
theorem given_none : given none = none :=
  rfl

@[simp]
theorem given_empty : given (some "") = none :=
  rfl

theorem given_eq_some_iff {text : Option String} {word : String} :
    given text = some word ↔ text = some word ∧ word ≠ "" := by
  simp [given, Option.filter_eq_some_iff]

end ViewOutline.Text
