import ViewOutline.Text.Blank
import ViewOutline.Text.Search
import ViewOutline.Text.Word

/-!
# Classes of characters

Lower case changes the capitals of ASCII and nothing else.  A character of a word is
no blank: the ranges of the two classes lie apart.
-/

namespace ViewOutline.Text

/-! ## Lower case -/

/-- Either a character is a capital, and its lower-case form stands 32 places
after it, or it is kept. -/
theorem toLower_cases (c : Char) :
    (65 ≤ c.toNat ∧ c.toNat ≤ 90 ∧ c.toLower.toNat = c.toNat + 32) ∨ c.toLower = c := by
  by_cases capital : c.val ≥ 'A'.val ∧ c.val ≤ 'Z'.val
  · have least : 65 ≤ c.toNat := capital.1
    have most : c.toNat ≤ 90 := capital.2
    have lower : c.toLower.toNat = (c.val + 32).toNat := congrArg Char.toNat (dif_pos capital)
    have code : (c.val + 32).toNat = (c.toNat + 32) % 2 ^ 32 := UInt32.toNat_add c.val 32
    exact .inl ⟨least, most, by omega⟩
  · exact .inr (dif_neg capital)

theorem eq_dot_of_toLower {c : Char} (lower : c.toLower = '.') : c = '.' := by
  rcases toLower_cases c with ⟨least, _, code⟩ | kept
  · have dot : c.toLower.toNat = 46 := congrArg Char.toNat lower
    omega
  · exact kept.symm.trans lower

/-- The Kelvin sign is the only character that `asciiLower` treats in its own
way, and its lower-case form in the sense of ASCII is the sign itself. -/
theorem asciiLower_eq_toLower {c : Char} (ascii : c.toLower.toNat < 128) :
    asciiLower c = c.toLower := by
  rw [asciiLower, if_neg]
  intro kelvin
  rcases toLower_cases c with ⟨_, most, _⟩ | kept
  · omega
  · rw [kept] at ascii
    omega

theorem toList_toLower (text : String) :
    text.toLower.toList = text.toList.map Char.toLower :=
  String.toList_map ..

theorem lowered_toList {text : String}
    (ascii : ∀ c ∈ text.toLower.toList, c.toNat < 128) :
    lowered text.toList = text.toLower.toList := by
  rw [toList_toLower] at ascii ⊢
  exact List.map_congr_left fun c member =>
    asciiLower_eq_toLower (ascii _ (List.mem_map_of_mem member))

/-! ## Word characters -/

/-- The blanks as closed ranges of code points. -/
def blankRanges : List (Nat × Nat) :=
  [(0x09, 0x0d), (0x1c, 0x20), (0x85, 0x85), (0xa0, 0xa0), (0x1680, 0x1680), (0x2000, 0x200a),
   (0x2028, 0x2029), (0x202f, 0x202f), (0x205f, 0x205f), (0x3000, 0x3000)]

theorem any_blankRanges {c : Char} (blank : isBlank c = true) :
    (blankRanges.any fun range =>
      decide (range.1 ≤ c.toNat) && decide (c.toNat ≤ range.2)) = true := by
  simp only [isBlank, Bool.or_eq_true, Bool.and_eq_true, decide_eq_true_eq, beq_iff_eq] at blank
  simp only [blankRanges, List.any_cons, List.any_nil, Bool.or_eq_true, Bool.and_eq_true,
    decide_eq_true_eq]
  omega

theorem blankRanges_apart :
    (blankRanges.all fun blank => alphanumericRanges.all fun word =>
      decide (word.2 < blank.1) || decide (blank.2 < word.1)) = true := by
  decide +kernel

theorem isBlank_eq_false_of_isWordChar {c : Char} (word : isWordChar c = true) :
    isBlank c = false := by
  rw [← Bool.not_eq_true]
  intro blank
  obtain ⟨blanks, isBlanks, inside⟩ := List.any_eq_true.mp (any_blankRanges blank)
  rw [isWordChar, Bool.or_eq_true, beq_iff_eq, List.any_eq_true] at word
  rcases word with rfl | ⟨letters, isLetters, between⟩
  · cases blank
  · have apart := List.all_eq_true.mp (List.all_eq_true.mp blankRanges_apart blanks isBlanks)
      letters isLetters
    simp only [Bool.or_eq_true, Bool.and_eq_true, decide_eq_true_eq] at apart between inside
    omega

theorem isWordChar_marks :
    (['.', '<', '>', '(', ')', '?'].all fun mark => !isWordChar mark) = true := by
  decide +kernel

end ViewOutline.Text
