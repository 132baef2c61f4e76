import ViewOutline.Json
import Mathlib.Data.List.Nodup

/-!
# The texts of JSON documents

A text is written for a document by the rules of the format: blanks may stand
around every value and every mark, a string may spell a character in several ways,
and numbers have no leading zeros.  Numbers are whole here, as they are in
documents.  Every printed document is such a text, and pure ASCII.
-/

namespace ViewOutline.Json

/-! ## The rules of the format -/

/-- The characters that may stand between the parts of a document. -/
def isBlank (c : Char) : Bool :=
  c == ' ' || c == '\t' || c == '\n' || c == '\r'

/-- The value of a hexadecimal digit. -/
def hexDigit? (c : Char) : Option Nat :=
  if 0x30 ≤ c.toNat ∧ c.toNat ≤ 0x39 then some (c.toNat - 0x30)
  else if 0x61 ≤ c.toNat ∧ c.toNat ≤ 0x66 then some (c.toNat - 0x61 + 10)
  else if 0x41 ≤ c.toNat ∧ c.toNat ≤ 0x46 then some (c.toNat - 0x41 + 10)
  else none

/-- The UTF-16 unit that four hexadecimal digits stand for. -/
def unit? (a b c d : Char) : Option Nat := do
  let first ← hexDigit? a
  let second ← hexDigit? b
  let third ← hexDigit? c
  let fourth ← hexDigit? d
  return ((first * 16 + second) * 16 + third) * 16 + fourth

/-- The characters that may follow a backslash, with what they stand for then. -/
def shortEscapes : List (Char × Char) :=
  [('"', '"'), ('\\', '\\'), ('/', '/'), ('b', '\x08'), ('f', '\x0c'), ('n', '\n'),
   ('r', '\r'), ('t', '\t')]

/-- A text between quotation marks spells characters. -/
inductive Spells : List Char → List Char → Prop
  | nil : Spells [] []
  | plain {c : Char} {text chars : List Char} :
      0x20 ≤ c.toNat → c ≠ '"' → c ≠ '\\' → Spells text chars → Spells (c :: text) (c :: chars)
  | short {mark c : Char} {text chars : List Char} :
      (mark, c) ∈ shortEscapes → Spells text chars →
      Spells ('\\' :: mark :: text) (c :: chars)
  | unit {a b c d char : Char} {text chars : List Char} :
      unit? a b c d = some char.toNat → Spells text chars →
      Spells ('\\' :: 'u' :: a :: b :: c :: d :: text) (char :: chars)
  | pair {a b c d e f g h char : Char} {high low : Nat} {text chars : List Char} :
      unit? a b c d = some high → unit? e f g h = some low →
      0xd800 ≤ high → high < 0xdc00 → 0xdc00 ≤ low → low < 0xe000 →
      char.toNat = 0x10000 + (high - 0xd800) * 0x400 + (low - 0xdc00) →
      Spells text chars →
      Spells ('\\' :: 'u' :: a :: b :: c :: d :: '\\' :: 'u' :: e :: f :: g :: h :: text)
        (char :: chars)

/-- A text is a number in decimal digits, the first of them not zero unless it is
the only one. -/
inductive Numeral : List Char → Nat → Prop
  | digit {digit : Nat} : digit < 10 → Numeral [Nat.digitChar digit] digit
  | more {text : List Char} {value digit : Nat} :
      Numeral text value → value ≠ 0 → digit < 10 →
      Numeral (text ++ [Nat.digitChar digit]) (10 * value + digit)

/-- The parts of a text: a document, what stands inside a list or an object, and
one field of an object. -/
inductive Phrase where
  | value (document : Json)
  | items (items : List Json)
  | fields (fields : List (String × Json))
  | field (key : String) (document : Json)

/-- A text is one of the ways to write a phrase.  A document has no blanks around
it here; inside lists and objects blanks may stand around every part. -/
inductive Writes : List Char → Phrase → Prop
  | null : Writes "null".toList (.value .null)
  | trueWord : Writes "true".toList (.value (.bool true))
  | falseWord : Writes "false".toList (.value (.bool false))
  | natural {text : List Char} {value : Nat} :
      Numeral text value → Writes text (.value (.int value))
  | negative {text : List Char} {value : Nat} :
      Numeral text value → Writes ('-' :: text) (.value (.int (-value)))
  | text {text : List Char} {value : String} :
      Spells text value.toList → Writes ('"' :: (text ++ ['"'])) (.value (.text value))
  | emptyList {blanks : List Char} :
      blanks.all isBlank = true → Writes ('[' :: (blanks ++ [']'])) (.value (.list []))
  | list {text : List Char} {items : List Json} :
      Writes text (.items items) → Writes ('[' :: (text ++ [']'])) (.value (.list items))
  | emptyObject {blanks : List Char} :
      blanks.all isBlank = true →
      Writes ('\x7b' :: (blanks ++ ['\x7d'])) (.value (.object []))
  | object {text : List Char} {fields : List (String × Json)} :
      Writes text (.fields fields) →
      Writes ('\x7b' :: (text ++ ['\x7d'])) (.value (.object fields))
  | lastItem {before text after : List Char} {item : Json} :
      before.all isBlank = true → Writes text (.value item) → after.all isBlank = true →
      Writes (before ++ text ++ after) (.items [item])
  | moreItems {before text after rest : List Char} {item : Json} {items : List Json} :
      before.all isBlank = true → Writes text (.value item) → after.all isBlank = true →
      Writes rest (.items items) →
      Writes (before ++ text ++ after ++ ',' :: rest) (.items (item :: items))
  | field {before name between gap text after : List Char} {key : String} {value : Json} :
      before.all isBlank = true → Spells name key.toList → between.all isBlank = true →
      gap.all isBlank = true → Writes text (.value value) → after.all isBlank = true →
      Writes (before ++ '"' :: (name ++ '"' :: (between ++ ':' :: (gap ++ text ++ after))))
        (.field key value)
  | lastField {text : List Char} {key : String} {value : Json} :
      Writes text (.field key value) → Writes text (.fields [(key, value)])
  | moreFields {text rest : List Char} {key : String} {value : Json}
      {fields : List (String × Json)} :
      Writes text (.field key value) → Writes rest (.fields fields) →
      Writes (text ++ ',' :: rest) (.fields ((key, value) :: fields))

/-- A text is written for a document, with or without blanks around it. -/
def Written (text : List Char) (document : Json) : Prop :=
  ∃ before inner after, text = before ++ inner ++ after ∧ before.all isBlank = true ∧
    Writes inner (.value document) ∧ after.all isBlank = true

/-! ## Printed strings -/

theorem hexDigit?_digitChar {digit : Nat} (small : digit < 16) :
    hexDigit? (Nat.digitChar digit) = some digit := by
  have all : ∀ digit < 16, hexDigit? (Nat.digitChar digit) = some digit := by decide
  exact all digit small

theorem escapeUnit_eq (unit : Nat) :
    escapeUnit unit =
      ['\\', 'u', Nat.digitChar (unit / 16 / 16 / 16 % 16), Nat.digitChar (unit / 16 / 16 % 16),
        Nat.digitChar (unit / 16 % 16), Nat.digitChar (unit % 16)] :=
  rfl

/-- Four digits of a unit give the unit back. -/
theorem unit?_digits {unit : Nat} (small : unit < 0x10000) :
    unit? (Nat.digitChar (unit / 16 / 16 / 16 % 16)) (Nat.digitChar (unit / 16 / 16 % 16))
      (Nat.digitChar (unit / 16 % 16)) (Nat.digitChar (unit % 16)) = some unit := by
  have reduced : ∀ n : Nat, n % 16 < 16 := fun n => Nat.mod_lt n (by decide)
  simp only [unit?, hexDigit?_digitChar (reduced _), Option.bind_eq_bind, Option.bind_some,
    Option.pure_def, Option.some.injEq]
  omega

theorem toNat_lt (c : Char) : c.toNat < 0x110000 := by
  rcases c.valid with low | ⟨_, high⟩
  · exact Nat.lt_trans low (by decide)
  · exact high

/-- A character is printed by a short escape, by itself, or by its one or two units. -/
theorem escapeChar_cases (c : Char) :
    (∃ mark, (mark, c) ∈ shortEscapes ∧ escapeChar c = ['\\', mark]) ∨
      (c ≠ '"' ∧ c ≠ '\\' ∧ (0x20 ≤ c.toNat ∧ c.toNat ≤ 0x7e) ∧ escapeChar c = [c]) ∨
      (c.toNat < 0x10000 ∧ escapeChar c = escapeUnit c.toNat) ∨
      (0x10000 ≤ c.toNat ∧ escapeChar c =
        escapeUnit (0xd800 + (c.toNat - 0x10000) / 0x400) ++
          escapeUnit (0xdc00 + (c.toNat - 0x10000) % 0x400)) := by
  by_cases short : ∃ mark, (mark, c) ∈ shortEscapes ∧ escapeChar c = ['\\', mark]
  · exact .inl short
  have other : ∀ mark char, (mark, char) ∈ shortEscapes → escapeChar char = ['\\', mark] →
      c ≠ char := by
    rintro mark _ listed escaped rfl
    exact short ⟨mark, listed, escaped⟩
  have noQuote : c ≠ '"' := other '"' _ (by decide) rfl
  have noBackslash : c ≠ '\\' := other '\\' _ (by decide) rfl
  have noLineFeed : c ≠ '\n' := other 'n' _ (by decide) rfl
  have noReturn : c ≠ '\r' := other 'r' _ (by decide) rfl
  have noTab : c ≠ '\t' := other 't' _ (by decide) rfl
  have noBackspace : c.toNat ≠ 0x08 := fun same =>
    other 'b' '\x08' (by decide) rfl (Char.toNat_inj.mp same)
  have noFormFeed : c.toNat ≠ 0x0c := fun same =>
    other 'f' '\x0c' (by decide) rfl (Char.toNat_inj.mp same)
  refine .inr ?_
  simp only [escapeChar, if_neg noQuote, if_neg noBackslash, if_neg noLineFeed, if_neg noReturn,
    if_neg noTab, if_neg noBackspace, if_neg noFormFeed]
  by_cases printable : 0x20 ≤ c.toNat ∧ c.toNat ≤ 0x7e
  · exact .inl ⟨noQuote, noBackslash, printable, if_pos printable⟩
  rw [if_neg printable]
  by_cases small : c.toNat < 0x10000
  · exact .inr (.inl ⟨small, if_pos small⟩)
  · exact .inr (.inr ⟨Nat.le_of_not_lt small, if_neg small⟩)

/-- A printed character spells the character. -/
theorem spells_escapeChar (c : Char) {text chars : List Char} (spells : Spells text chars) :
    Spells (escapeChar c ++ text) (c :: chars) := by
  rcases escapeChar_cases c with ⟨mark, listed, escaped⟩ |
    ⟨noQuote, noBackslash, printable, escaped⟩ | ⟨small, escaped⟩ | ⟨large, escaped⟩
  · rw [escaped]
    exact .short listed spells
  · rw [escaped]
    exact .plain printable.1 noQuote noBackslash spells
  · rw [escaped, escapeUnit_eq]
    exact .unit (unit?_digits small) spells
  · have bound : c.toNat < 0x110000 := toNat_lt c
    rw [escaped, escapeUnit_eq, escapeUnit_eq]
    exact .pair (unit?_digits (by omega)) (unit?_digits (by omega)) (by omega) (by omega)
      (by omega) (by omega) (by omega) spells

theorem spells_escaped (chars : List Char) : Spells (chars.flatMap escapeChar) chars := by
  induction chars with
  | nil => exact .nil
  | cons c rest ih =>
      rw [List.flatMap_cons]
      exact spells_escapeChar c ih

/-! ## Printed numbers -/

theorem numeral_toDigits (value : Nat) : Numeral (Nat.toDigits 10 value) value := by
  induction value using Nat.strongRecOn with
  | ind value ih =>
      by_cases small : value < 10
      · rw [Nat.toDigits_of_lt_base small]
        exact .digit small
      · rw [Nat.toDigits_of_base_le (by decide) (Nat.le_of_not_lt small)]
        have more := Numeral.more (ih (value / 10) (by omega)) (by omega)
          (Nat.mod_lt value (by decide : 0 < 10))
        rwa [Nat.div_add_mod] at more

theorem writes_int (value : Int) : Writes (toString value).toList (.value (.int value)) := by
  cases value with
  | ofNat value =>
      have digits : (toString (Int.ofNat value)).toList = Nat.toDigits 10 value :=
        Nat.toList_repr
      rw [digits]
      exact .natural (numeral_toDigits value)
  | negSucc value =>
      have digits : (toString (Int.negSucc value)).toList = '-' :: Nat.toDigits 10 (value + 1) := by
        rw [← Nat.toList_repr]
        exact String.toList_append
      rw [digits]
      exact .negative (numeral_toDigits (value + 1))

/-! ## Printed documents -/

theorem all_isBlank_newline (level : Nat) : (newline level).all isBlank = true := by
  rw [newline, List.all_cons, List.all_replicate]
  simp [isBlank]

/-- A printed field, with blanks after its value. -/
theorem writes_field (level : Nat) (key : String) {text after : List Char} {value : Json}
    (written : Writes text (.value value)) (blank : after.all isBlank = true) :
    Writes (newline level ++ quote key ++ [':', ' '] ++ text ++ after) (.field key value) := by
  have nothing : [].all isBlank = true := rfl
  have gap : [' '].all isBlank = true := by decide
  have field := Writes.field (all_isBlank_newline level) (spells_escaped key.toList)
    nothing gap written blank
  simpa [quote] using field

mutual

/-- What is printed for a document is written for it. -/
theorem writes_renderAt (level : Nat) : ∀ document : Json,
    Writes (renderAt level document) (.value document)
  | .null => by
      rw [renderAt]
      exact .null
  | .bool true => by
      rw [renderAt]
      exact .trueWord
  | .bool false => by
      rw [renderAt]
      exact .falseWord
  | .int value => by
      rw [renderAt]
      exact writes_int value
  | .text value => by
      rw [renderAt]
      exact .text (spells_escaped value.toList)
  | .list [] => by
      rw [renderAt]
      exact @Writes.emptyList [] rfl
  | .list (item :: rest) => by
      obtain ⟨inner, innerEq, written⟩ :=
        exists_writes_items level rest (writes_renderAt (level + 1) item)
      rw [renderAt, List.cons_append, List.cons_append, innerEq]
      exact .list written
  | .object [] => by
      rw [renderAt]
      exact @Writes.emptyObject [] rfl
  | .object ((key, value) :: rest) => by
      obtain ⟨inner, innerEq, written⟩ :=
        exists_writes_fields level rest key (writes_renderAt (level + 1) value)
      rw [renderAt, List.cons_append, List.cons_append, List.cons_append, List.cons_append, innerEq]
      exact .object written

/-- What follows the first item of a list completes the list. -/
theorem exists_writes_items (level : Nat) : ∀ (rest : List Json) {text : List Char} {item : Json},
    Writes text (.value item) →
      ∃ inner, newline (level + 1) ++ text ++ renderItems level rest = inner ++ [']'] ∧
        Writes inner (.items (item :: rest))
  | [], chars, item, written => by
      refine ⟨newline (level + 1) ++ chars ++ newline level, ?_,
        .lastItem (all_isBlank_newline _) written (all_isBlank_newline _)⟩
      rw [renderItems, List.append_assoc _ (newline level)]
  | next :: more, chars, item, written => by
      obtain ⟨inner, innerEq, others⟩ :=
        exists_writes_items level more (writes_renderAt (level + 1) next)
      refine ⟨newline (level + 1) ++ chars ++ [] ++ ',' :: inner, ?_,
        .moreItems (all_isBlank_newline _) written rfl others⟩
      rw [renderItems, List.cons_append, List.cons_append, innerEq]
      simp

/-- What follows the first field of an object completes the object. -/
theorem exists_writes_fields (level : Nat) : ∀ (rest : List (String × Json)) (key : String)
    {text : List Char} {value : Json}, Writes text (.value value) →
      ∃ inner, newline (level + 1) ++ quote key ++ [':', ' '] ++ text ++ renderFields level rest =
          inner ++ ['\x7d'] ∧
        Writes inner (.fields ((key, value) :: rest))
  | [], key, chars, value, written => by
      refine ⟨newline (level + 1) ++ quote key ++ [':', ' '] ++ chars ++ newline level, ?_,
        .lastField (writes_field _ key written (all_isBlank_newline _))⟩
      rw [renderFields, List.append_assoc _ (newline level)]
  | (name, next) :: more, key, chars, value, written => by
      obtain ⟨inner, innerEq, others⟩ :=
        exists_writes_fields level more name (writes_renderAt (level + 1) next)
      refine ⟨newline (level + 1) ++ quote key ++ [':', ' '] ++ chars ++ [] ++ ',' :: inner, ?_,
        .moreFields (writes_field _ key written rfl) others⟩
      rw [renderFields, List.cons_append, List.cons_append, List.cons_append, List.cons_append,
        innerEq]
      simp

end

theorem written_render (document : Json) : Written document.render.toList document := by
  refine ⟨[], document.renderAt 0, [], ?_, rfl, writes_renderAt 0 document, rfl⟩
  rw [render, String.toList_ofList, List.nil_append, List.append_nil]

/-! ## ASCII -/

/-- Whether a character is ASCII. -/
def isAscii (c : Char) : Bool :=
  c.toNat < 128

theorem isAscii_digitChar {digit : Nat} (small : digit < 16) :
    isAscii (Nat.digitChar digit) = true := by
  have all : ∀ digit < 16, isAscii (Nat.digitChar digit) = true := by decide
  exact all digit small

theorem Numeral.all_isAscii {text : List Char} {value : Nat} (numeral : Numeral text value) :
    text.all isAscii = true := by
  induction numeral with
  | digit small => simp [isAscii_digitChar (Nat.lt_trans small (by decide : 10 < 16))]
  | more _ _ small ih =>
      simp [isAscii_digitChar (Nat.lt_trans small (by decide : 10 < 16)), ih]

theorem all_isAscii_escapeUnit (unit : Nat) : (escapeUnit unit).all isAscii = true := by
  have reduced : ∀ n : Nat, isAscii (Nat.digitChar (n % 16)) = true :=
    fun n => isAscii_digitChar (Nat.mod_lt n (by decide))
  rw [escapeUnit_eq]
  simp only [List.all_cons, List.all_nil, reduced, Bool.and_true]
  decide

theorem all_isAscii_escapeChar (c : Char) : (escapeChar c).all isAscii = true := by
  have marks : ∀ escape ∈ shortEscapes, ['\\', escape.1].all isAscii = true := by decide
  rcases escapeChar_cases c with ⟨mark, listed, escaped⟩ | ⟨_, _, printable, escaped⟩ |
    ⟨_, escaped⟩ | ⟨_, escaped⟩
  · rw [escaped]
    exact marks (mark, c) listed
  · have small : isAscii c = true := by
      rw [isAscii, decide_eq_true_eq]
      omega
    rw [escaped, List.all_cons, small]
    rfl
  · rw [escaped]
    exact all_isAscii_escapeUnit _
  · rw [escaped, List.all_append, all_isAscii_escapeUnit, all_isAscii_escapeUnit]
    rfl

theorem all_isAscii_quote (text : String) : (quote text).all isAscii = true := by
  have escaped : (text.toList.flatMap escapeChar).all isAscii = true := by
    rw [List.all_flatMap, List.all_eq_true]
    exact fun c _ => all_isAscii_escapeChar c
  rw [quote, List.all_append, List.all_cons, escaped]
  decide

theorem all_isAscii_newline (level : Nat) : (newline level).all isAscii = true := by
  rw [newline, List.all_cons, List.all_replicate]
  simp [isAscii]

theorem Writes.all_isAscii_of_int {text : List Char} {value : Int}
    (written : Writes text (.value (.int value))) : text.all isAscii = true := by
  cases written with
  | natural numeral => exact numeral.all_isAscii
  | negative numeral =>
      rw [List.all_cons, numeral.all_isAscii]
      decide

mutual

theorem all_isAscii_renderAt (level : Nat) : ∀ document : Json,
    (renderAt level document).all isAscii = true
  | .null | .bool true | .bool false => by
      rw [renderAt]
      decide
  | .int value => by
      rw [renderAt]
      exact (writes_int value).all_isAscii_of_int
  | .text value => by
      rw [renderAt]
      exact all_isAscii_quote value
  | .list [] | .object [] => by
      rw [renderAt]
      decide
  | .list (item :: rest) => by
      rw [renderAt]
      simp only [List.all_append, List.all_cons, all_isAscii_newline,
        all_isAscii_renderAt (level + 1) item, all_isAscii_renderItems level rest]
      decide
  | .object ((key, value) :: rest) => by
      rw [renderAt]
      simp only [List.all_append, List.all_cons, List.all_nil, all_isAscii_newline,
        all_isAscii_quote, all_isAscii_renderAt (level + 1) value,
        all_isAscii_renderFields level rest]
      decide

theorem all_isAscii_renderItems (level : Nat) : ∀ items : List Json,
    (renderItems level items).all isAscii = true
  | [] => by
      rw [renderItems, List.all_append, all_isAscii_newline]
      decide
  | item :: rest => by
      rw [renderItems]
      simp only [List.all_append, List.all_cons, all_isAscii_newline,
        all_isAscii_renderAt (level + 1) item, all_isAscii_renderItems level rest]
      decide

theorem all_isAscii_renderFields (level : Nat) : ∀ fields : List (String × Json),
    (renderFields level fields).all isAscii = true
  | [] => by
      rw [renderFields, List.all_append, all_isAscii_newline]
      decide
  | (key, value) :: rest => by
      rw [renderFields]
      simp only [List.all_append, List.all_cons, List.all_nil, all_isAscii_newline,
        all_isAscii_quote, all_isAscii_renderAt (level + 1) value,
        all_isAscii_renderFields level rest]
      decide

end

/-! ## Keys -/

/-- No object of a document has a key twice. -/
inductive DistinctKeys : Json → Prop
  | null : DistinctKeys .null
  | bool (value : Bool) : DistinctKeys (.bool value)
  | int (value : Int) : DistinctKeys (.int value)
  | text (value : String) : DistinctKeys (.text value)
  | list {items : List Json} :
      (∀ item ∈ items, DistinctKeys item) → DistinctKeys (.list items)
  | object {fields : List (String × Json)} :
      (fields.map Prod.fst).Nodup → (∀ field ∈ fields, DistinctKeys field.2) →
      DistinctKeys (.object fields)

end ViewOutline.Json
