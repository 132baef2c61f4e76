import ViewOutline.ClassOutline
import ViewOutline.Proofs.Class.Property
import ViewOutline.Proofs.Text.Character
import ViewOutline.Proofs.Text.Erasure
import ViewOutline.Proofs.Text.Trim

/-!
# The constructor in a type text

A type text is a dotted name, perhaps with type arguments, constructor arguments
or a mark of nullability.  On a single line the type arguments never count.
Constructor arguments behind type arguments can get in the way: the span that
starts at the type arguments ends at the last closing angle bracket of the line,
which may stand among the constructor arguments.  Then a parenthesis has to follow
this bracket, or a part of the arguments is left.

Over several lines every line is erased for itself.  The name is what is left
exactly if each line behind it vanishes.
-/

namespace ViewOutline

/-! ## Dotted names -/

/-- Words with dots between them. -/
structure DottedName where
  segments : List String
  segments_ne : segments ≠ []
  isWord : ∀ segment ∈ segments, ∀ c ∈ segment.toList, Text.isWordChar c = true
  written : ".".intercalate segments ≠ ""

namespace DottedName

/-- A name as it is written. -/
def text (name : DottedName) : String :=
  ".".intercalate name.segments

/-- The last word of a name. -/
def last (name : DottedName) : String :=
  name.segments.getLast name.segments_ne

variable (name : DottedName)

theorem toList_text : name.text.toList = ['.'].intercalate (name.segments.map String.toList) :=
  String.toList_intercalate ..

theorem text_ne_nil : name.text.toList ≠ [] := by
  intro nothing
  exact name.written (String.toList_eq_nil_iff.mp nothing)

theorem mem_text {c : Char} (member : c ∈ name.text.toList) :
    Text.isWordChar c = true ∨ c = '.' := by
  let belongs (c : Char) : Bool := Text.isWordChar c || c == '.'
  have words : ∀ word ∈ name.segments.map String.toList, ∀ c ∈ word, belongs c = true := by
    intro word member c inWord
    obtain ⟨segment, isSegment, rfl⟩ := List.mem_map.mp member
    exact Bool.or_eq_true_iff.mpr (.inl (name.isWord segment isSegment c inWord))
  have dot : belongs '.' = true := Bool.or_true _
  have all := (Text.forall_mem_intercalate_iff dot _).mpr words
  rw [← toList_text] at all
  simpa [belongs] using all c member

/-- No character of a name is a blank. -/
theorem isBlank_eq_false {c : Char} (member : c ∈ name.text.toList) : Text.isBlank c = false := by
  rcases name.mem_text member with word | rfl
  · exact Text.isBlank_eq_false_of_isWordChar word
  · rfl

/-- No character of a name is a mark other than the dot. -/
theorem mark_not_mem {mark : Char} (isMark : mark ∈ ['<', '>', '(', ')', '?']) :
    mark ∉ name.text.toList := by
  intro member
  rcases name.mem_text member with word | rfl
  · have none := List.all_eq_true.mp Text.isWordChar_marks mark (List.mem_cons_of_mem _ isMark)
    rw [word] at none
    cases none
  · exact absurd isMark (by decide)

theorem newline_not_mem : '\n' ∉ name.text.toList := by
  intro member
  cases name.isBlank_eq_false member

theorem dot_not_mem_last : '.' ∉ name.last.toList := by
  intro member
  have word := name.isWord name.last (List.getLast_mem name.segments_ne) '.' member
  have none := List.all_eq_true.mp Text.isWordChar_marks '.' List.mem_cons_self
  rw [word] at none
  cases none

theorem exists_front : ∃ front, name.text.toList = front ++ name.last.toList ∧
    (front = [] ∨ ∃ before, front = before ++ ['.']) := by
  have split := List.dropLast_append_getLast name.segments_ne
  rw [toList_text, ← split, List.map_append, List.map_singleton]
  by_cases alone : name.segments.dropLast = []
  · refine ⟨[], ?_, .inl rfl⟩
    rw [alone, List.map_nil, List.nil_append, List.intercalate_singleton, List.nil_append]
    rfl
  · refine ⟨_, Text.intercalate_concat (mt List.map_eq_nil_iff.mp alone) _, .inr ⟨_, rfl⟩⟩

/-- Behind the last dot of a name stands its last word, with what follows the name. -/
theorem afterLast_text_append {kept : List Char} (undotted : '.' ∉ kept) :
    Text.afterLast '.' (name.text.toList ++ kept) = name.last.toList ++ kept := by
  have word : '.' ∉ name.last.toList ++ kept := by
    rw [List.mem_append, not_or]
    exact ⟨name.dot_not_mem_last, undotted⟩
  obtain ⟨front, split, rfl | ⟨before, rfl⟩⟩ := name.exists_front
  · rw [split, List.nil_append, Text.afterLast_eq_self word]
  · rw [split, List.append_assoc, List.append_assoc, List.singleton_append,
      Text.afterLast_append_cons before word]

theorem afterLast_eq_last_iff (kept : List Char) :
    Text.afterLast '.' (name.text.toList ++ kept) = name.last.toList ↔
      kept = [] ∨ ∃ before, kept = before ++ '.' :: name.last.toList := by
  by_cases dotted : '.' ∈ kept
  · obtain ⟨before, after, rfl, undotted⟩ := Text.exists_last_of_mem dotted
    rw [← List.append_assoc, Text.afterLast_append_cons _ undotted]
    constructor
    · rintro rfl
      exact .inr ⟨before, rfl⟩
    · rintro (nothing | ⟨other, same⟩)
      · cases List.append_ne_nil_of_right_ne_nil before (List.cons_ne_nil _ _) nothing
      · have ends := congrArg (Text.afterLast '.') same
        rwa [Text.afterLast_append_cons _ undotted,
          Text.afterLast_append_cons _ name.dot_not_mem_last] at ends
  · rw [name.afterLast_text_append dotted, List.append_right_eq_self]
    constructor
    · exact .inl
    · rintro (nothing | ⟨before, rfl⟩)
      · exact nothing
      · exact absurd (by simp) dotted

end DottedName

/-! ## What is left of a type text -/

/-- Nothing but blanks is left of a line once its spans are erased. -/
def Text.Vanishes (line : List Char) : Prop :=
  ∃ kept rest, TakesSpan '<' '>' line kept ∧ TakesSpan '(' ')' kept rest ∧
    ∀ c ∈ rest, isBlank c = true

theorem Text.vanishes_iff (line : List Char) :
    Vanishes line ↔ ∀ c ∈ eraseSpan '(' ')' (eraseSpan '<' '>' line), isBlank c = true := by
  simp only [Vanishes, takesSpan_iff, exists_eq_left', exists_and_left]

namespace DottedName

variable (name : DottedName)

/-- A name is what is left if every line behind it vanishes. -/
theorem simplifySupertype_eq_iff (rest : String) :
    simplifySupertype (name.text ++ rest) = name.text ↔
      ∀ line ∈ rest.toList.splitOn '\n', Text.Vanishes line := by
  have erased : Text.eraseSpans '(' ')' (Text.eraseSpans '<' '>' (name.text ++ rest).toList) =
      name.text.toList ++ Text.eraseSpans '(' ')' (Text.eraseSpans '<' '>' rest.toList) := by
    rw [String.toList_append,
      Text.eraseSpans_append name.newline_not_mem (name.mark_not_mem (by decide)),
      Text.eraseSpans_append name.newline_not_mem (name.mark_not_mem (by decide))]
  have solid : ∀ c ∈ name.text.toList, Text.isBlank c = false := fun _ => name.isBlank_eq_false
  rw [simplifySupertype, erased, Text.trim_append_of_none name.text_ne_nil solid,
    ← String.toList_inj, String.toList_ofList, List.append_right_eq_self, Text.trimEnd_eq_nil_iff,
    Text.eraseSpans_eraseSpans, Text.forall_mem_intercalate_iff rfl, List.forall_mem_map]
  simp only [Text.vanishes_iff]

theorem simplifySupertype_line_iff {rest : String} (unbroken : '\n' ∉ rest.toList) :
    simplifySupertype (name.text ++ rest) = name.text ↔ Text.Vanishes rest.toList := by
  rw [simplifySupertype_eq_iff, List.splitOn_eq_singleton unbroken, List.forall_mem_singleton]

/-- What is left behind a name of a type text whose type arguments, marks of
nullability and blanks at the end are taken away. -/
def leftBehind (rest : String) : List Char :=
  Text.trimEnd Text.isBlank
    (Text.trimEnd (· == '?') (Text.eraseSpans '<' '>' rest.toList))

theorem baseType_eq (rest : String) :
    baseType (name.text ++ rest) =
      String.ofList (Text.afterLast '.' (name.text.toList ++ leftBehind rest)) := by
  have erased : Text.eraseSpans '<' '>' (name.text ++ rest).toList =
      name.text.toList ++ Text.eraseSpans '<' '>' rest.toList := by
    rw [String.toList_append,
      Text.eraseSpans_append name.newline_not_mem (name.mark_not_mem (by decide))]
  have solid : ∀ c ∈ name.text.toList, Text.isBlank c = false := fun _ => name.isBlank_eq_false
  have unmarked : ∀ c ∈ name.text.toList, (c == '?') = false := by
    intro c member
    rw [beq_eq_false_iff_ne]
    rintro rfl
    exact name.mark_not_mem (by decide) member
  rw [baseType, erased, Text.trimEnd_append_of_none unmarked,
    Text.trim_append_of_none name.text_ne_nil solid]
  rfl

/-- The last word of a name is its base type if nothing is left behind it, or
again a dot and this word. -/
theorem baseType_eq_last_iff (rest : String) :
    baseType (name.text ++ rest) = name.last ↔
      leftBehind rest = [] ∨ ∃ before, leftBehind rest = before ++ '.' :: name.last.toList := by
  rw [baseType_eq, ← String.toList_inj, String.toList_ofList, afterLast_eq_last_iff]

end DottedName

/-! ## Type texts on one line -/

namespace Text

/-- The last closing angle bracket among constructor arguments, if there is one, is
followed by a parenthesis. -/
def ReopensAfterAngle (inner : List Char) : Prop :=
  '>' ∉ inner ∨ ∃ before blanks after, inner = before ++ '>' :: (blanks ++ '(' :: after) ∧
    (∀ c ∈ blanks, isBlank c = true) ∧ '>' ∉ after

theorem vanishes_nil : Vanishes [] :=
  ⟨[], [], .unopened List.not_mem_nil, .unopened List.not_mem_nil, by rintro _ ⟨⟩⟩

theorem vanishes_angled (inner : List Char) : Vanishes ('<' :: (inner ++ ['>'])) :=
  ⟨[], [], .span inner List.not_mem_nil List.not_mem_nil, .unopened List.not_mem_nil,
    by rintro _ ⟨⟩⟩

/-- A character that is no bracket stays at the end of a line. -/
theorem eraseSpan_concat {left right c : Char} (notLeft : left ≠ c) (notRight : right ≠ c)
    (line : List Char) :
    eraseSpan left right (line ++ [c]) = eraseSpan left right line ++ [c] := by
  have takes : TakesSpan left right line (eraseSpan left right line) := takesSpan_iff.mpr rfl
  generalize eraseSpan left right line = kept at takes
  rw [← takesSpan_iff]
  cases takes with
  | span inner first last =>
      rw [List.append_assoc, List.cons_append, List.append_assoc, List.cons_append,
        List.append_assoc]
      exact .span inner first (by simp [last, notRight])
  | unclosed first none =>
      rw [List.append_assoc, List.cons_append]
      exact .unclosed first (by simp [none, notRight])
  | unopened none => exact .unopened (by simp [none, notLeft])

theorem vanishes_parenthesised (inner : List Char) : Vanishes ('(' :: (inner ++ [')'])) := by
  have kept : eraseSpan '<' '>' ('(' :: (inner ++ [')'])) =
      '(' :: (eraseSpan '<' '>' inner ++ [')']) := by
    rw [← eraseSpan_concat (by decide) (by decide)]
    exact eraseSpan_append (by decide : '<' ∉ ['(']) _
  exact ⟨_, [], takesSpan_iff.mpr kept, .span _ List.not_mem_nil List.not_mem_nil,
    by rintro _ ⟨⟩⟩

theorem not_mem_of_blanks {blanks : List Char} (blank : ∀ c ∈ blanks, isBlank c = true) {c : Char}
    (ink : isBlank c = false) : c ∉ blanks := by
  intro member
  cases (blank c member).symm.trans ink

theorem eraseSpan_to_end {front : List Char} (none : '(' ∉ front) (rest : List Char) :
    eraseSpan '(' ')' (front ++ '(' :: rest ++ [')']) = front := by
  rw [List.append_assoc, List.cons_append, eraseSpan_append none,
    eraseSpan_cons_of_mem List.not_mem_nil, List.append_nil]

/-- Of constructor arguments whose front is gone nothing is left if a parenthesis
opens again behind blanks. -/
theorem blank_eraseSpan_iff (after : List Char) :
    (∀ c ∈ eraseSpan '(' ')' (after ++ [')']), isBlank c = true) ↔
      ∃ blanks rest, after = blanks ++ '(' :: rest ∧ ∀ c ∈ blanks, isBlank c = true := by
  by_cases reopened : '(' ∈ after
  · obtain ⟨blanks, rest, rfl, first⟩ := List.eq_append_cons_of_mem reopened
    rw [eraseSpan_to_end first]
    constructor
    · exact fun blank => ⟨blanks, rest, rfl, blank⟩
    · rintro ⟨others, after, same, blank⟩
      have none : '(' ∉ others := not_mem_of_blanks blank (by decide)
      have left := congrArg (fun text => eraseSpan '(' ')' (text ++ [')'])) same
      simp only [eraseSpan_to_end first, eraseSpan_to_end none] at left
      exact left ▸ blank
  · have unchanged : eraseSpan '(' ')' (after ++ [')']) = after ++ [')'] :=
      eraseSpan_eq_self_of_not_mem _ _ _ (by simp [reopened])
    rw [unchanged]
    refine iff_of_false (fun blank => ?_) ?_
    · cases blank ')' (by simp)
    · rintro ⟨blanks, rest, rfl, _⟩
      exact reopened (by simp)

/-- Only what stands behind the last closing angle bracket matters. -/
theorem reopensAfterAngle_iff {after : List Char} (last : '>' ∉ after) (before : List Char) :
    ReopensAfterAngle (before ++ '>' :: after) ↔
      ∃ blanks rest, after = blanks ++ '(' :: rest ∧ ∀ c ∈ blanks, isBlank c = true := by
  constructor
  · rintro (unclosed | ⟨other, blanks, rest, same, blank, none⟩)
    · exact absurd (by simp) unclosed
    · have behind : '>' ∉ blanks ++ '(' :: rest := by
        simp [not_mem_of_blanks blank (by decide : isBlank '>' = false), none]
      have tails := congrArg (afterLast '>') same
      rw [afterLast_append_cons _ last, afterLast_append_cons _ behind] at tails
      exact ⟨blanks, rest, tails, blank⟩
  · rintro ⟨blanks, rest, rfl, blank⟩
    refine .inr ⟨before, blanks, rest, rfl, blank, fun member => last ?_⟩
    exact List.mem_append_right _ (List.mem_cons_of_mem _ member)

/-- With type arguments in front, constructor arguments are erased up to their last
closing angle bracket first. -/
theorem vanishes_both_iff (inner arguments : List Char) :
    Vanishes ('<' :: (inner ++ '>' :: '(' :: (arguments ++ [')']))) ↔
      ReopensAfterAngle arguments := by
  rw [vanishes_iff]
  by_cases closed : '>' ∈ arguments
  · obtain ⟨before, after, rfl, last⟩ := exists_last_of_mem closed
    have regrouped : inner ++ '>' :: '(' :: (before ++ '>' :: after ++ [')']) =
        (inner ++ '>' :: '(' :: before) ++ '>' :: (after ++ [')']) := by
      simp
    rw [regrouped, eraseSpan_cons_of_mem (by simp [last]), blank_eraseSpan_iff,
      reopensAfterAngle_iff last]
  · have kept : eraseSpan '<' '>' ('<' :: (inner ++ '>' :: '(' :: (arguments ++ [')']))) =
        '(' :: (arguments ++ [')']) :=
      eraseSpan_cons_of_mem (by simp [closed])
    have gone : eraseSpan '(' ')' ('(' :: (arguments ++ [')'])) = [] :=
      eraseSpan_cons_of_mem List.not_mem_nil
    rw [kept, gone]
    exact iff_of_true (by rintro _ ⟨⟩) (.inl closed)

/-- The brackets that are erased. -/
def erasedBrackets : List (Char × Char) :=
  [('<', '>'), ('(', ')')]

/-- Brackets that are not closed on their line stay. -/
theorem not_vanishes_of_unclosed {brackets : Char × Char} (erased : brackets ∈ erasedBrackets)
    {inner : List Char} (unclosed : brackets.2 ∉ inner) : ¬ Vanishes (brackets.1 :: inner) := by
  intro vanishes
  rw [vanishes_iff] at vanishes
  rcases List.mem_pair.mp erased with rfl | rfl
  · have kept : eraseSpan '<' '>' ('<' :: inner) = '<' :: inner :=
      eraseSpan_cons_of_not_mem unclosed
    have first : eraseSpan '(' ')' ('<' :: inner) = '<' :: eraseSpan '(' ')' inner :=
      eraseSpan_append (by decide : '(' ∉ ['<']) inner
    rw [kept, first] at vanishes
    cases vanishes '<' List.mem_cons_self
  · have first : eraseSpan '<' '>' ('(' :: inner) = '(' :: eraseSpan '<' '>' inner :=
      eraseSpan_append (by decide : '<' ∉ ['(']) inner
    have kept : eraseSpan '(' ')' ('(' :: eraseSpan '<' '>' inner) =
        '(' :: eraseSpan '<' '>' inner :=
      eraseSpan_cons_of_not_mem fun member => unclosed ((eraseSpan_sublist inner).subset member)
    rw [first, kept] at vanishes
    cases vanishes '(' List.mem_cons_self

end Text

/-! ## Uses of a type -/

/-- A use of a type: its name, and its type arguments if it has some. -/
structure TypeUse where
  name : DottedName
  typeArguments : Option String

namespace TypeUse

/-- The type arguments of a use between their brackets. -/
def angled (use : TypeUse) : String :=
  match use.typeArguments with
  | none => ""
  | some inner => "<" ++ inner ++ ">"

/-- A use as it is written. -/
def text (use : TypeUse) : String :=
  use.name.text ++ use.angled

/-- The type arguments are on the line of the name. -/
def OnOneLine (use : TypeUse) : Prop :=
  '\n' ∉ use.angled.toList

variable {use : TypeUse}

theorem vanishes_angled (use : TypeUse) : Text.Vanishes use.angled.toList := by
  rcases use with ⟨name, _ | inner⟩
  · exact Text.vanishes_nil
  · rw [angled, String.toList_append, String.toList_append]
    exact Text.vanishes_angled inner.toList

theorem vanishes_constructed_iff (use : TypeUse) (inner : String) :
    Text.Vanishes (use.angled ++ "(" ++ inner ++ ")").toList ↔
      use.typeArguments = none ∨ Text.ReopensAfterAngle inner.toList := by
  simp only [String.toList_append]
  rcases use with ⟨name, _ | arguments⟩
  · exact iff_of_true (Text.vanishes_parenthesised inner.toList) (.inl rfl)
  · have both := Text.vanishes_both_iff arguments.toList inner.toList
    simpa [angled] using both

theorem leftBehind_angled (line : use.OnOneLine) {mark : String} (isMark : mark ∈ ["", "?"]) :
    DottedName.leftBehind (use.angled ++ mark) = [] := by
  have unbroken : '\n' ∉ (use.angled ++ mark).toList := by
    rw [String.toList_append, List.mem_append, not_or]
    refine ⟨line, ?_⟩
    rcases List.mem_pair.mp isMark with rfl | rfl <;> decide
  have erased : Text.eraseSpan '<' '>' (use.angled ++ mark).toList = mark.toList := by
    have unopened : '<' ∉ mark.toList ∧ '>' ∉ mark.toList := by
      rcases List.mem_pair.mp isMark with rfl | rfl <;> decide
    rw [String.toList_append]
    rcases use with ⟨name, _ | inner⟩
    · exact Text.eraseSpan_eq_self_of_not_mem _ _ _ unopened.1
    · rw [angled, String.toList_append, String.toList_append, List.append_assoc, List.append_assoc]
      exact Text.eraseSpan_cons_of_mem unopened.2
  rw [DottedName.leftBehind, Text.eraseSpans_of_line unbroken, erased]
  rcases List.mem_pair.mp isMark with rfl | rfl <;> rfl

/-- What a use is read as, as a supertype and as the type of a property. -/
structure ReadsAsName (use : TypeUse) : Prop where
  /-- A supertype is the name if every line behind the name vanishes. -/
  supertype_iff : ∀ rest, simplifySupertype (use.name.text ++ rest) = use.name.text ↔
    ∀ line ∈ rest.toList.splitOn '\n', Text.Vanishes line
  /-- On one line the type arguments do not count. -/
  supertype : use.OnOneLine → simplifySupertype use.text = use.name.text
  /-- On one line the constructor arguments do not count, except where they follow
  type arguments and hold a closing angle bracket with no parenthesis behind it. -/
  constructed_iff : use.OnOneLine → ∀ inner : String, '\n' ∉ inner.toList →
    (simplifySupertype (use.text ++ "(" ++ inner ++ ")") = use.name.text ↔
      use.typeArguments = none ∨ Text.ReopensAfterAngle inner.toList)
  /-- Arguments of either kind that are not closed on the line of the name do count. -/
  broken : ∀ brackets ∈ Text.erasedBrackets, ∀ first rest : String,
    '\n' ∉ first.toList → brackets.2 ∉ first.toList →
      simplifySupertype (use.name.text ++ (String.singleton brackets.1 ++ first ++ "\n" ++ rest)) ≠
        use.name.text
  /-- The type of a property is the last word of the name if nothing is left behind
  the name, or again a dot and this word. -/
  base_iff : ∀ rest, baseType (use.name.text ++ rest) = use.name.last ↔
    DottedName.leftBehind rest = [] ∨
      ∃ before, DottedName.leftBehind rest = before ++ '.' :: use.name.last.toList
  /-- On one line neither the type arguments nor a mark of nullability count. -/
  base : use.OnOneLine → ∀ mark ∈ ["", "?"], baseType (use.text ++ mark) = use.name.last
  /-- Then the last word of the name alone decides what a property with nothing but a
  declared type is. -/
  kind : use.OnOneLine → ∀ mark ∈ ["", "?"], ∀ (scope : Scope) (decl : PropertyDecl),
    decl.name ≠ "" → decl.IsBare → decl.type = some (use.text ++ mark) →
      ∃ property, (decl.classify scope).outcome = .ok property ∧
        property.kind = if use.name.last ∈ collectionTypes then .collection else .value

theorem baseType_line (line : use.OnOneLine) {mark : String} (isMark : mark ∈ ["", "?"]) :
    baseType (use.text ++ mark) = use.name.last := by
  rw [text, String.append_assoc, DottedName.baseType_eq_last_iff]
  exact .inl (leftBehind_angled line isMark)

theorem simplifySupertype_broken (use : TypeUse) {brackets : Char × Char}
    (erased : brackets ∈ Text.erasedBrackets) {first : String} (rest : String)
    (unbroken : '\n' ∉ first.toList) (unclosed : brackets.2 ∉ first.toList) :
    simplifySupertype (use.name.text ++ (String.singleton brackets.1 ++ first ++ "\n" ++ rest)) ≠
      use.name.text := by
  have lines : (String.singleton brackets.1 ++ first ++ "\n" ++ rest).toList.splitOn '\n' =
      (brackets.1 :: first.toList) :: rest.toList.splitOn '\n' := by
    have opened : '\n' ∉ brackets.1 :: first.toList := by
      rcases List.mem_pair.mp erased with rfl | rfl <;> simp [unbroken]
    rw [← List.splitOn_append_cons_self_of_not_mem opened]
    simp
  rw [ne_eq, DottedName.simplifySupertype_eq_iff, lines]
  intro vanish
  exact Text.not_vanishes_of_unclosed erased unclosed (vanish _ List.mem_cons_self)

theorem classify_line (line : use.OnOneLine) {mark : String} (isMark : mark ∈ ["", "?"])
    (scope : Scope) {decl : PropertyDecl} (named : decl.name ≠ "") (bare : decl.IsBare)
    (typed : decl.type = some (use.text ++ mark)) :
    ∃ property, (decl.classify scope).outcome = .ok property ∧
      property.kind = if use.name.last ∈ collectionTypes then .collection else .value := by
  obtain ⟨noValue, noDelegate⟩ := bare
  have returns : ∃ property, (decl.classify scope).outcome = .ok property := by
    refine (decl.classify_returns_iff scope).mpr ⟨named, fun node sourced => ?_⟩
    rw [noValue, noDelegate] at sourced
    cases sourced
  obtain ⟨property, returned⟩ := returns
  refine ⟨property, returned, ?_⟩
  rw [((decl.classify_verdict scope).holds property returned).1]
  have written : use.text ++ mark ≠ "" := by
    intro nothing
    have letters := congrArg String.toList nothing
    rw [text, String.append_assoc, String.toList_append] at letters
    exact use.name.text_ne_nil (List.append_eq_nil_iff.mp letters).1
  have given : Text.given decl.type = some (use.text ++ mark) :=
    Text.given_eq_some_iff.mpr ⟨typed, written⟩
  simp only [PropertyDecl.verdict, noValue, noDelegate, given, Option.map_some, Option.getD_some,
    baseType_line line isMark, List.contains_iff_mem]

/-- The name of a use is what is read wherever the use is on one line and no
closing angle bracket among constructor arguments is in the way. -/
theorem readsAsName (use : TypeUse) : use.ReadsAsName where
  supertype_iff := use.name.simplifySupertype_eq_iff
  supertype line := (use.name.simplifySupertype_line_iff line).mpr use.vanishes_angled
  constructed_iff line inner unbroken := by
    have whole : '\n' ∉ (use.angled ++ "(" ++ inner ++ ")").toList := by
      simpa [OnOneLine] using ⟨line, unbroken⟩
    have regrouped : use.text ++ "(" ++ inner ++ ")" =
        use.name.text ++ (use.angled ++ "(" ++ inner ++ ")") := by
      simp only [text, String.append_assoc]
    rw [regrouped, use.name.simplifySupertype_line_iff whole, vanishes_constructed_iff]
  broken _ erased _ rest := use.simplifySupertype_broken erased rest
  base_iff := use.name.baseType_eq_last_iff
  base line _ := baseType_line line
  kind line _ isMark scope _ := classify_line line isMark scope

end TypeUse

/-- Type arguments over several lines are kept, and so is the end of constructor
arguments in which a closing angle bracket stands. -/
theorem simplifySupertype_kept :
    simplifySupertype "Comparable<\n    Foo\n>" = "Comparable<\n    Foo\n>" ∧
    simplifySupertype "View<Model>(rows as List<Row>)" = "View)" ∧
    baseType "Map<\n    String,\n    Row\n>" = "Map<\n    String,\n    Row\n>" := by
  decide +kernel

end ViewOutline
