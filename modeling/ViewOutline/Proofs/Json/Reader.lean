import ViewOutline.Proofs.Json.Grammar

/-!
# Reading JSON documents

A reader goes through a text once, character by character.  It keeps the word or
string it is in the middle of, and the lists and objects that are still open.  It
finds the document of every text that is written for one, so a text is written for
at most one document.
-/

namespace ViewOutline.Json

/-! ## Words and strings -/

/-- The value of a decimal digit. -/
def digit? (c : Char) : Option Nat :=
  if 0x30 ≤ c.toNat ∧ c.toNat ≤ 0x39 then some (c.toNat - 0x30) else none

/-- The number that decimal digits stand for. -/
def number? (text : List Char) : Option Nat :=
  text.foldlM (fun value c => (digit? c).map fun digit => 10 * value + digit) 0

/-- The document that a word or a number stands for. -/
def word? (text : List Char) : Option Json :=
  if text = "null".toList then some .null
  else if text = "true".toList then some (.bool true)
  else if text = "false".toList then some (.bool false)
  else if text.head? = some '-' then (number? text.tail).map fun value : Nat => .int (-value)
  else (number? text).map fun value : Nat => .int value

/-- The characters that a text between quotation marks spells. -/
def spelled? : List Char → Option (List Char)
  | [] => some []
  | '\\' :: 'u' :: a :: b :: c :: d :: rest => do
      let unit ← unit? a b c d
      if 0xd800 ≤ unit ∧ unit < 0xdc00 then
        match rest with
        | '\\' :: 'u' :: e :: f :: g :: h :: rest => do
            let low ← unit? e f g h
            let others ← spelled? rest
            return Char.ofNat (0x10000 + (unit - 0xd800) * 0x400 + (low - 0xdc00)) :: others
        | _ => none
      else do
        let others ← spelled? rest
        return Char.ofNat unit :: others
  | '\\' :: mark :: rest => do
      let c ← shortEscapes.lookup mark
      let others ← spelled? rest
      return c :: others
  | c :: rest => do
      let others ← spelled? rest
      return c :: others

/-! ## The reader -/

/-- A list or object that is still open.  An object waits for the value of a key. -/
inductive Frame where
  | list (items : List Json)
  | object (fields : List (String × Json)) (key : String)

/-- What has to come next. -/
inductive Expected where
  /-- A value, or the end of the list that has just been opened. -/
  | value (orEnd : Bool)
  /-- A key, or the end of the object that has just been opened. -/
  | key (fields : List (String × Json)) (orEnd : Bool)
  /-- The colon after a key. -/
  | colon (fields : List (String × Json)) (key : String)
  /-- What goes on after a value. -/
  | done (document : Json)

/-- How far a document has been read. -/
structure Progress where
  expected : Expected
  stack : List Frame

/-- Take a string, a number or a word. -/
def Progress.take (progress : Progress) (scalar : Json) : Option Progress :=
  match progress.expected, scalar with
  | .value _, _ => some ⟨.done scalar, progress.stack⟩
  | .key fields _, .text key => some ⟨.colon fields key, progress.stack⟩
  | _, _ => none

/-- Take a mark. -/
def Progress.mark : Progress → Char → Option Progress
  | ⟨.value _, stack⟩, '[' => some ⟨.value true, .list [] :: stack⟩
  | ⟨.value _, stack⟩, '\x7b' => some ⟨.key [] true, stack⟩
  | ⟨.value true, .list [] :: stack⟩, ']' => some ⟨.done (.list []), stack⟩
  | ⟨.key [] true, stack⟩, '\x7d' => some ⟨.done (.object []), stack⟩
  | ⟨.colon fields key, stack⟩, ':' => some ⟨.value false, .object fields key :: stack⟩
  | ⟨.done document, .list items :: stack⟩, ',' =>
      some ⟨.value false, .list (items ++ [document]) :: stack⟩
  | ⟨.done document, .list items :: stack⟩, ']' =>
      some ⟨.done (.list (items ++ [document])), stack⟩
  | ⟨.done document, .object fields key :: stack⟩, ',' =>
      some ⟨.key (fields ++ [(key, document)]) false, stack⟩
  | ⟨.done document, .object fields key :: stack⟩, '\x7d' =>
      some ⟨.done (.object (fields ++ [(key, document)])), stack⟩
  | _, _ => none

/-- What a reader is in the middle of. -/
inductive Lexeme where
  | nothing
  | word (letters : List Char)
  | string (raw : List Char) (escaped : Bool)

/-- A reader at some place of a text. -/
structure Reader where
  lexeme : Lexeme
  progress : Progress

/-- The characters of words and numbers. -/
def isWordChar (c : Char) : Bool :=
  c.isAlphanum || c == '-'

namespace Reader

/-- Take the word that has just ended, if there is one. -/
def settle (reader : Reader) : Option Progress :=
  match reader.lexeme with
  | .nothing => some reader.progress
  | .word letters => (word? letters).bind reader.progress.take
  | .string .. => none

/-- Read a character that belongs to nothing before it. -/
def enter (progress : Progress) (c : Char) : Option Reader :=
  if isBlank c then some ⟨.nothing, progress⟩
  else if c = '"' then some ⟨.string [] false, progress⟩
  else if isWordChar c then some ⟨.word [c], progress⟩
  else (progress.mark c).map fun next => ⟨.nothing, next⟩

/-- Read one character. -/
def step (reader : Reader) (c : Char) : Option Reader :=
  match reader.lexeme with
  | .nothing => enter reader.progress c
  | .word letters =>
      if isWordChar c then some ⟨.word (letters ++ [c]), reader.progress⟩
      else reader.settle.bind fun progress => enter progress c
  | .string raw true => some ⟨.string (raw ++ [c]) false, reader.progress⟩
  | .string raw false =>
      if c = '"' then do
        let chars ← spelled? raw
        let progress ← reader.progress.take (.text (String.ofList chars))
        return ⟨.nothing, progress⟩
      else some ⟨.string (raw ++ [c]) (c == '\\'), reader.progress⟩

/-- Read characters in order. -/
def run (reader : Reader) (text : List Char) : Option Reader :=
  text.foldlM step reader

end Reader

/-- The document that a text is written for. -/
def read? (text : String) : Option Json := do
  let reader ← Reader.run ⟨.nothing, ⟨.value false, []⟩⟩ text.toList
  match ← reader.settle with
  | ⟨.done document, []⟩ => some document
  | _ => none

/-! ## Strings and numbers are read -/

theorem lookup_shortEscapes {mark c : Char} (listed : (mark, c) ∈ shortEscapes) :
    shortEscapes.lookup mark = some c ∧ mark ≠ 'u' := by
  have all : ∀ escape ∈ shortEscapes,
      shortEscapes.lookup escape.1 = some escape.2 ∧ escape.1 ≠ 'u' := by
    decide
  exact all (mark, c) listed

theorem spelled?_of_spells {text chars : List Char} (spells : Spells text chars) :
    spelled? text = some chars := by
  induction spells with
  | nil => rfl
  | @plain c text chars _ _ noBackslash _ ih =>
      rw [spelled?]
      · rw [ih]
        rfl
      · rintro _ _ _ _ _ rfl
        exact absurd rfl noBackslash
      · rintro _ _ rfl
        exact absurd rfl noBackslash
  | @short mark c text chars listed _ ih =>
      obtain ⟨found, noUnit⟩ := lookup_shortEscapes listed
      rw [spelled?]
      · rw [found, ih]
        rfl
      · rintro _ _ _ _ _ rfl
        exact absurd rfl noUnit
  | @unit a b c d char text chars unit _ ih =>
      -- No character is a surrogate.
      have single : ¬ (0xd800 ≤ char.toNat ∧ char.toNat < 0xdc00) := by
        have valid : char.toNat < 0xd800 ∨ 0xdfff < char.toNat ∧ char.toNat < 0x110000 :=
          char.valid
        omega
      rw [spelled?, unit]
      simp only [Option.bind_eq_bind, Option.bind_some, if_neg single, ih, Char.ofNat_toNat]
      rfl
  | @pair a b c d e f g h char high low text chars highUnit lowUnit highFrom highTo _ _ code _ ih =>
      rw [spelled?, highUnit]
      simp only [Option.bind_eq_bind, Option.bind_some, if_pos (And.intro highFrom highTo),
        lowUnit, ih, ← code, Char.ofNat_toNat]
      rfl

theorem digit?_digitChar {digit : Nat} (small : digit < 10) :
    digit? (Nat.digitChar digit) = some digit := by
  have all : ∀ digit < 10, digit? (Nat.digitChar digit) = some digit := by decide
  exact all digit small

theorem number?_of_numeral {text : List Char} {value : Nat} (numeral : Numeral text value) :
    number? text = some value := by
  induction numeral with
  | digit small => simp [number?, digit?_digitChar small]
  | more _ _ small ih =>
      rw [number?] at ih
      simp [number?, List.foldlM_append, ih, digit?_digitChar small]

theorem isWordChar_digitChar {digit : Nat} (small : digit < 10) :
    isWordChar (Nat.digitChar digit) = true ∧ (Nat.digitChar digit).isDigit = true := by
  have all : ∀ digit < 10, isWordChar (Nat.digitChar digit) = true ∧
      (Nat.digitChar digit).isDigit = true := by
    decide
  exact all digit small

/-- A numeral consists of digits, of which there are some. -/
theorem Numeral.digits {text : List Char} {value : Nat} (numeral : Numeral text value) :
    text ≠ [] ∧ text.all isWordChar = true ∧ text.all Char.isDigit = true := by
  induction numeral with
  | digit small => simp [isWordChar_digitChar small]
  | more _ _ small ih => simp [isWordChar_digitChar small, ih]

/-- A text of digits is none of the words. -/
theorem word?_of_numeral {text : List Char} {value : Nat} (numeral : Numeral text value) :
    word? text = some (.int value) ∧ word? ('-' :: text) = some (.int (-value)) := by
  obtain ⟨proper, _, digits⟩ := numeral.digits
  have noWord : ∀ word : List Char, word.all Char.isDigit = false → text ≠ word := by
    rintro word others rfl
    rw [digits] at others
    cases others
  have noSign : text.head? ≠ some '-' := by
    intro signed
    have digit := List.all_eq_true.mp digits '-' (List.mem_of_head? signed)
    cases digit
  constructor
  · rw [word?, if_neg (noWord _ (by decide)), if_neg (noWord _ (by decide)),
      if_neg (noWord _ (by decide)), if_neg noSign, number?_of_numeral numeral]
    rfl
  · rw [word?, if_neg (by simp), if_neg (by simp), if_neg (by simp), List.head?_cons, if_pos rfl,
      List.tail_cons, number?_of_numeral numeral]
    rfl

/-! ## Parts of texts are read -/

theorem isWordChar_of_isBlank {c : Char} (blank : isBlank c = true) : isWordChar c = false := by
  simp only [isBlank, Bool.or_eq_true, beq_iff_eq] at blank
  obtain ((rfl | rfl) | rfl) | rfl := blank
  all_goals rfl

/-- Reading a text leads from one state of progress to another, once the word at its
end is taken. -/
def Reads (text : List Char) (before after : Progress) : Prop :=
  ∃ reader, Reader.run ⟨.nothing, before⟩ text = some reader ∧ reader.settle = some after

/-- A text that cannot continue a word. -/
def Delimited (text : List Char) : Prop :=
  ∀ c ∈ text.head?, isWordChar c = false

namespace Reader

theorem run_append (reader : Reader) (first second : List Char) :
    reader.run (first ++ second) = (reader.run first).bind fun next => next.run second := by
  rw [run, List.foldlM_append]
  rfl

theorem run_cons (reader : Reader) (c : Char) (rest : List Char) :
    reader.run (c :: rest) = (reader.step c).bind fun next => next.run rest := by
  rw [run, List.foldlM_cons]
  rfl

/-- A character that cannot continue a word comes after it. -/
theorem step_of_settle {reader : Reader} {progress : Progress}
    (settled : reader.settle = some progress) {c : Char} (delimits : isWordChar c = false) :
    reader.step c = enter progress c := by
  obtain ⟨lexeme, before⟩ := reader
  cases lexeme with
  | nothing =>
      cases settled
      rfl
  | word letters =>
      rw [step]
      simp only [delimits, settled]
      rfl
  | string => cases settled

theorem step_of_word {progress : Progress} {c : Char} (letter : isWordChar c = true) :
    step ⟨.nothing, progress⟩ c = some ⟨.word [c], progress⟩ := by
  have noBlank : isBlank c = false := by
    cases blank : isBlank c with
    | false => rfl
    | true => rw [isWordChar_of_isBlank blank] at letter; cases letter
  have noQuote : c ≠ '"' := by
    rintro rfl
    cases letter
  simp only [step, enter, noBlank, if_neg noQuote, letter, if_true]
  rfl

theorem run_blanks (progress : Progress) {blanks : List Char} (blank : blanks.all isBlank = true) :
    run ⟨.nothing, progress⟩ blanks = some ⟨.nothing, progress⟩ := by
  induction blanks with
  | nil => rfl
  | cons c rest ih =>
      rw [List.all_cons, Bool.and_eq_true] at blank
      rw [run_cons, step, enter, if_pos blank.1, Option.bind_some, ih blank.2]

/-- Letters are gathered into a word. -/
theorem run_word (progress : Progress) (letters : List Char) {text : List Char}
    (all : text.all isWordChar = true) :
    run ⟨.word letters, progress⟩ text = some ⟨.word (letters ++ text), progress⟩ := by
  induction text generalizing letters with
  | nil => rw [List.append_nil]; rfl
  | cons c rest ih =>
      rw [List.all_cons, Bool.and_eq_true] at all
      rw [run_cons, step]
      simp only [all.1, if_true, Option.bind_some]
      rw [ih _ all.2, List.append_assoc, List.singleton_append]

theorem run_escape (progress : Progress) (raw : List Char) (mark : Char) (text : List Char) :
    run ⟨.string raw false, progress⟩ ('\\' :: mark :: text) =
      run ⟨.string (raw ++ ['\\', mark]) false, progress⟩ text := by
  have gathered : raw ++ ['\\', mark] = raw ++ ['\\'] ++ [mark] := by simp
  have opened : step ⟨.string raw false, progress⟩ '\\' =
      some ⟨.string (raw ++ ['\\']) true, progress⟩ := rfl
  rw [run_cons, opened, Option.bind_some, run_cons, gathered]
  rfl

/-- Characters without a meaning of their own are gathered. -/
theorem run_plain (progress : Progress) (raw : List Char) {text : List Char} (rest : List Char)
    (plain : ∀ c ∈ text, c ≠ '"' ∧ c ≠ '\\') :
    run ⟨.string raw false, progress⟩ (text ++ rest) =
      run ⟨.string (raw ++ text) false, progress⟩ rest := by
  induction text generalizing raw with
  | nil => rw [List.append_nil]; rfl
  | cons c others ih =>
      rw [List.forall_mem_cons] at plain
      have noBackslash : (c == '\\') = false := by simpa using plain.1.2
      rw [List.cons_append, run_cons, step]
      simp only [if_neg plain.1.1, noBackslash, Option.bind_some]
      rw [ih _ plain.2, List.append_assoc, List.singleton_append]

theorem plain_of_hexDigit? {c : Char} {value : Nat} (digit : hexDigit? c = some value) :
    c ≠ '"' ∧ c ≠ '\\' := by
  constructor
  · rintro rfl
    cases digit
  · rintro rfl
    cases digit

theorem plain_of_unit? {a b c d : Char} {value : Nat} (unit : unit? a b c d = some value) :
    ∀ digit ∈ [a, b, c, d], digit ≠ '"' ∧ digit ≠ '\\' := by
  simp only [unit?, Option.bind_eq_bind, Option.bind_eq_some_iff] at unit
  obtain ⟨_, first, _, second, _, third, _, fourth, _⟩ := unit
  simp only [List.forall_mem_cons]
  exact ⟨plain_of_hexDigit? first, plain_of_hexDigit? second, plain_of_hexDigit? third,
    plain_of_hexDigit? fourth, by rintro _ ⟨⟩⟩

/-- An escaped unit is gathered as it stands. -/
theorem run_unit (progress : Progress) (raw : List Char) {a b c d : Char} {value : Nat}
    (unit : unit? a b c d = some value) (rest : List Char) :
    run ⟨.string raw false, progress⟩ ('\\' :: 'u' :: a :: b :: c :: d :: rest) =
      run ⟨.string (raw ++ ['\\', 'u', a, b, c, d]) false, progress⟩ rest := by
  have digits := run_plain progress (raw ++ ['\\', 'u']) rest (plain_of_unit? unit)
  rw [List.append_assoc] at digits
  rw [run_escape]
  exact digits

/-- The text between quotation marks is gathered as it stands. -/
theorem run_string (progress : Progress) (raw : List Char) {text chars : List Char}
    (spells : Spells text chars) :
    run ⟨.string raw false, progress⟩ text = some ⟨.string (raw ++ text) false, progress⟩ := by
  induction spells generalizing raw with
  | nil => rw [List.append_nil]; rfl
  | @plain c text chars _ noQuote noBackslash _ ih =>
      have gathered := run_plain progress raw text
        (List.forall_mem_singleton.mpr ⟨noQuote, noBackslash⟩)
      rw [List.singleton_append] at gathered
      rw [gathered, ih, List.append_assoc, List.singleton_append]
  | @short mark c text chars _ _ ih =>
      rw [run_escape, ih, List.append_assoc]
      rfl
  | @unit a b c d char text chars unit _ ih =>
      rw [run_unit progress raw unit, ih, List.append_assoc]
      rfl
  | @pair a b c d e f g h char high low text chars highUnit lowUnit _ _ _ _ _ _ ih =>
      rw [run_unit progress raw highUnit, run_unit progress _ lowUnit, ih, List.append_assoc,
        List.append_assoc]
      rfl

/-- A string is taken as a whole. -/
theorem run_quoted {before after : Progress} {text : List Char} {value : String}
    (spells : Spells text value.toList) (taken : before.take (.text value) = some after)
    (rest : List Char) :
    run ⟨.nothing, before⟩ ('"' :: (text ++ '"' :: rest)) = run ⟨.nothing, after⟩ rest := by
  have opened : step ⟨.nothing, before⟩ '"' = some ⟨.string [] false, before⟩ := rfl
  have closed : step ⟨.string text false, before⟩ '"' = some ⟨.nothing, after⟩ := by
    rw [step]
    simp only [if_true, spelled?_of_spells spells, Option.bind_eq_bind, Option.bind_some,
      String.ofList_toList, taken]
    rfl
  rw [run_cons, opened, Option.bind_some, run_append, run_string before [] spells,
    Option.bind_some, List.nil_append, run_cons, closed, Option.bind_some]

/-- A mark is taken at once. -/
theorem run_mark {before after : Progress} {c : Char} (isMark : c ∈ "[]\x7b\x7d,:".toList)
    (taken : before.mark c = some after) (rest : List Char) :
    run ⟨.nothing, before⟩ (c :: rest) = run ⟨.nothing, after⟩ rest := by
  have others : ("[]\x7b\x7d,:".toList.all fun mark =>
      !isBlank mark && mark != '"' && !isWordChar mark) = true := by
    decide
  have own := List.all_eq_true.mp others c isMark
  simp only [Bool.and_eq_true, Bool.not_eq_true', bne_iff_ne] at own
  obtain ⟨⟨noBlank, noQuote⟩, noLetter⟩ := own
  rw [run_cons, step]
  simp only [enter, noBlank, noQuote, noLetter, taken]
  rfl

end Reader

namespace Reads

variable {text rest : List Char} {before middle after : Progress}

theorem nil (progress : Progress) : Reads [] progress progress :=
  ⟨⟨.nothing, progress⟩, rfl, rfl⟩

/-- What is read without a word at its end can be followed by anything. -/
theorem after_run (ran : Reader.run ⟨.nothing, before⟩ (text ++ rest) =
      Reader.run ⟨.nothing, middle⟩ rest) (reads : Reads rest middle after) :
    Reads (text ++ rest) before after := by
  obtain ⟨reader, readRest, settled⟩ := reads
  exact ⟨reader, ran.trans readRest, settled⟩

/-- What may end in a word has to be followed by something else. -/
theorem append (reads : Reads text before middle) (others : Reads rest middle after)
    (delimited : Delimited rest) : Reads (text ++ rest) before after := by
  obtain ⟨reader, read, settled⟩ := reads
  cases rest with
  | nil =>
      obtain ⟨_, ran, otherSettled⟩ := others
      cases ran
      cases otherSettled
      rw [List.append_nil]
      exact ⟨reader, read, settled⟩
  | cons c rest =>
      obtain ⟨last, readRest, lastSettled⟩ := others
      refine ⟨last, ?_, lastSettled⟩
      have delimits : isWordChar c = false := delimited c rfl
      rw [Reader.run_append, read, Option.bind_some, Reader.run_cons,
        Reader.step_of_settle settled delimits, ← readRest, Reader.run_cons]
      rfl

theorem blanks (progress : Progress) (blank : text.all isBlank = true) :
    Reads text progress progress :=
  ⟨⟨.nothing, progress⟩, Reader.run_blanks progress blank, rfl⟩

theorem after_blanks (blank : text.all isBlank = true) (reads : Reads rest before after) :
    Reads (text ++ rest) before after := by
  apply after_run _ reads
  rw [Reader.run_append, Reader.run_blanks before blank, Option.bind_some]

theorem after_mark {c : Char} (isMark : c ∈ "[]\x7b\x7d,:".toList)
    (taken : before.mark c = some middle) (reads : Reads rest middle after) :
    Reads (c :: rest) before after :=
  @after_run [c] rest before middle after (Reader.run_mark isMark taken rest) reads

theorem after_quoted {value : String} (spells : Spells text value.toList)
    (taken : before.take (.text value) = some middle) (reads : Reads rest middle after) :
    Reads ('"' :: (text ++ '"' :: rest)) before after := by
  obtain ⟨reader, readRest, settled⟩ := reads
  exact ⟨reader, (Reader.run_quoted spells taken rest).trans readRest, settled⟩

theorem word {scalar : Json} (proper : text ≠ []) (letters : text.all isWordChar = true)
    (known : word? text = some scalar) (taken : before.take scalar = some after) :
    Reads text before after := by
  cases text with
  | nil => exact absurd rfl proper
  | cons c others =>
      rw [List.all_cons, Bool.and_eq_true] at letters
      refine ⟨⟨.word (c :: others), before⟩, ?_, ?_⟩
      · rw [Reader.run_cons, Reader.step_of_word letters.1, Option.bind_some,
          Reader.run_word before [c] letters.2, List.singleton_append]
      · rw [Reader.settle]
        simp only [known, Option.bind_some, taken]

end Reads

theorem delimited_cons {c : Char} (delimits : isWordChar c = false) (text : List Char) :
    Delimited (c :: text) := by
  rintro _ ⟨⟩
  exact delimits

theorem Delimited.after_blanks {blanks text : List Char} (blank : blanks.all isBlank = true)
    (delimited : Delimited text) : Delimited (blanks ++ text) := by
  cases blanks with
  | nil => exact delimited
  | cons c rest =>
      rw [List.all_cons, Bool.and_eq_true] at blank
      exact delimited_cons (isWordChar_of_isBlank blank.1) (rest ++ text)

theorem delimited_blanks {blanks : List Char} (blank : blanks.all isBlank = true) :
    Delimited blanks :=
  fun c head => isWordChar_of_isBlank (List.all_eq_true.mp blank c (List.mem_of_head? head))

/-- How a phrase is read, wherever it may stand. -/
def Phrase.IsRead (text : List Char) : Phrase → Prop
  | .value document => ∀ orEnd stack,
      Reads text ⟨.value orEnd, stack⟩ ⟨.done document, stack⟩
  | .items others => ∀ orEnd known stack,
      Reads (text ++ [']']) ⟨.value orEnd, .list known :: stack⟩
        ⟨.done (.list (known ++ others)), stack⟩
  | .field key document => ∀ orEnd known stack,
      Reads text ⟨.key known orEnd, stack⟩ ⟨.done document, .object known key :: stack⟩
  | .fields others => ∀ orEnd known stack,
      Reads (text ++ ['\x7d']) ⟨.key known orEnd, stack⟩
        ⟨.done (.object (known ++ others)), stack⟩

theorem Numeral.isRead {text : List Char} {value : Nat} (numeral : Numeral text value) :
    (Phrase.value (.int value)).IsRead text ∧
      (Phrase.value (.int (-value))).IsRead ('-' :: text) := by
  obtain ⟨proper, letters, _⟩ := numeral.digits
  obtain ⟨positive, negative⟩ := word?_of_numeral numeral
  have signed : ('-' :: text).all isWordChar = true := by
    rw [List.all_cons, letters]
    rfl
  exact ⟨fun _ _ => .word proper letters positive rfl,
    fun _ _ => .word (List.cons_ne_nil _ _) signed negative rfl⟩

/-- The reader follows every rule of the format. -/
theorem Writes.isRead {text : List Char} {phrase : Phrase} (writes : Writes text phrase) :
    phrase.IsRead text := by
  induction writes with
  | null => exact fun _ _ => .word (by decide) (by decide) rfl rfl
  | trueWord => exact fun _ _ => .word (by decide) (by decide) rfl rfl
  | falseWord => exact fun _ _ => .word (by decide) (by decide) rfl rfl
  | natural numeral => exact numeral.isRead.1
  | negative numeral => exact numeral.isRead.2
  | text spells => exact fun _ _ => .after_quoted spells rfl (.nil _)
  | emptyList blank =>
      exact fun _ _ => .after_mark (by decide) rfl
        (.after_blanks blank (.after_mark (by decide) rfl (.nil _)))
  | list _ ih => exact fun _ stack => .after_mark (by decide) rfl (ih true [] stack)
  | emptyObject blank =>
      exact fun _ _ => .after_mark (by decide) rfl
        (.after_blanks blank (.after_mark (by decide) rfl (.nil _)))
  | object _ ih => exact fun _ stack => .after_mark (by decide) rfl (ih true [] stack)
  | lastItem blank _ blankAfter ih =>
      -- An item may end in a word, which the blank or mark after it closes.
      intro orEnd known stack
      rw [List.append_assoc, List.append_assoc]
      refine .after_blanks blank ((ih orEnd _).append ?_ ?_)
      · exact .after_blanks blankAfter (.after_mark (by decide) rfl (.nil _))
      · exact .after_blanks blankAfter (delimited_cons (by decide) _)
  | @moreItems _ _ _ _ item items blank _ blankAfter _ ih ihRest =>
      intro orEnd known stack
      have others := ihRest false (known ++ [item]) stack
      rw [List.append_assoc, List.singleton_append] at others
      rw [List.append_assoc, List.append_assoc, List.append_assoc, List.cons_append]
      refine .after_blanks blank ((ih orEnd _).append ?_ ?_)
      · exact .after_blanks blankAfter (.after_mark (by decide) rfl others)
      · exact .after_blanks blankAfter (delimited_cons (by decide) _)
  | field blank spells between gap _ blankAfter ih =>
      intro orEnd known stack
      rw [List.append_assoc]
      exact .after_blanks blank (.after_quoted spells rfl (.after_blanks between
        (.after_mark (by decide) rfl (.after_blanks gap
          ((ih false _).append (.blanks _ blankAfter) (delimited_blanks blankAfter))))))
  | lastField _ ih =>
      exact fun orEnd known stack => (ih orEnd known stack).append
        (.after_mark (by decide) rfl (.nil _)) (delimited_cons (by decide) _)
  | @moreFields _ _ key value fields _ _ ih ihRest =>
      intro orEnd known stack
      have others := ihRest false (known ++ [(key, value)]) stack
      rw [List.append_assoc, List.singleton_append] at others
      rw [List.append_assoc, List.cons_append]
      exact (ih orEnd known stack).append (.after_mark (by decide) rfl others)
        (delimited_cons (by decide) _)

/-- A text is read as the document that it is written for. -/
theorem read?_of_written {text : String} {document : Json}
    (written : Written text.toList document) : read? text = some document := by
  obtain ⟨before, inner, after, whole, blankBefore, writes, blankAfter⟩ := written
  have reads : Reads text.toList ⟨.value false, []⟩ ⟨.done document, []⟩ := by
    rw [whole, List.append_assoc]
    exact .after_blanks blankBefore
      ((writes.isRead false []).append (.blanks _ blankAfter) (delimited_blanks blankAfter))
  obtain ⟨reader, ran, settled⟩ := reads
  rw [read?, ran, Option.bind_eq_bind, Option.bind_some, settled]
  rfl

/-- A text is written for one document. -/
theorem Written.unique {text : String} {first second : Json}
    (written : Written text.toList first) (other : Written text.toList second) :
    first = second :=
  Option.some.inj ((read?_of_written written).symm.trans (read?_of_written other))

end ViewOutline.Json
