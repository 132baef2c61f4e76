import ViewOutline.Toml.Scalar

/-!
# TOML documents

A document is a sequence of statements, one a line: a key with its value, the
header of a table, or the header of a further element of an array of tables.
Reading a document gives its top-level table, or the first fault in it.

What has been defined once may not be defined again: values given inline are
frozen, and a table that was opened by a header or grown by dotted keys may not
be opened by a header later.
-/

namespace ViewOutline.Toml

/-- A key: the names from the outside in. -/
abbrev Key := List String

/-- The entries of a table, in the order of their definition. -/
abbrev Entries := List (String × Setting)

/-! ## Blanks, comments and keys -/

/-- Skip the blanks of a line. -/
def skipSpaces (chars : List Char) : List Char :=
  chars.dropWhile isSpace

/-- Skip a comment up to the end of its line. -/
def skipComment? (chars : List Char) : Option (List Char) :=
  match chars with
  | '#' :: rest =>
      if (rest.takeWhile (· != '\n')).any isControl then none
      else some (rest.dropWhile (· != '\n'))
  | _ => some chars

/-- Skip blanks, line ends and comments, inside a comment or not. -/
def skipLines? : Bool → List Char → Option (List Char)
  | _, [] => some []
  | true, c :: rest =>
      if c = '\n' then skipLines? false rest
      else if isControl c then none
      else skipLines? true rest
  | false, c :: rest =>
      if isSpace c || c == '\n' then skipLines? false rest
      else if c = '#' then skipLines? true rest
      else some (c :: rest)

/-- Whether a character may stand in a key without quotation marks. -/
def isBareKeyChar (c : Char) : Bool :=
  c.isAlphanum || c == '-' || c == '_'

/-- Read one name of a key. -/
def keyPart? : Reader String
  | '"' :: rest => (basicInside rest).map fun (name, after) => (String.ofList name, after)
  | '\'' :: rest => (literalInside rest).map fun (name, after) => (String.ofList name, after)
  | chars =>
      let name := chars.takeWhile isBareKeyChar
      if name.isEmpty then none
      else some (String.ofList name, chars.dropWhile isBareKeyChar)

/-- Read the names of a key after those read so far.  Every name is followed by
blanks, and by a dot if the key goes on. -/
def keyParts? (parts : Key) (chars : List Char) : Option (Key × List Char) :=
  match keyPart? chars with
  | none => none
  | some (part, after) =>
      match skipSpaces after with
      | '.' :: rest =>
          let next := skipSpaces rest
          if next.length < chars.length then keyParts? (parts ++ [part]) next else none
      | rest => some (parts ++ [part], rest)
termination_by chars.length

/-- Read a key, and the blanks after it. -/
def key? : Reader Key :=
  keyParts? []

/-! ## Tables under construction -/

/-- Put a value in the place of a key that is present. -/
def replaceEntry (entries : Entries) (name : String) (value : Setting) : Entries :=
  entries.map fun entry => if entry.1 = name then (name, value) else entry

/-- Change the table behind a key, making the tables on the way where they are
missing.  With `throughArrays`, an array stands for its last element. -/
def modifyTable (throughArrays : Bool) (change : Entries → Option Entries) :
    Key → Entries → Option Entries
  | [], entries => change entries
  | name :: key, entries =>
      match entries.lookup name with
      | none => do
          let inner ← modifyTable throughArrays change key []
          return entries ++ [(name, .table inner)]
      | some (.table inner) => do
          let inner ← modifyTable throughArrays change key inner
          return replaceEntry entries name (.table inner)
      | some (.list items) =>
          match throughArrays, items.getLast? with
          | true, some (.table inner) => do
              let inner ← modifyTable throughArrays change key inner
              return replaceEntry entries name (.list (items.dropLast ++ [.table inner]))
          | _, _ => none
      | some _ => none

/-- Add an entry whose name is new. -/
def addEntry (name : String) (value : Setting) (entries : Entries) : Option Entries :=
  if (entries.lookup name).isSome then none else some (entries ++ [(name, value)])

/-- Add an empty table to the array of a name. -/
def addElement (name : String) (entries : Entries) : Option Entries :=
  match entries.lookup name with
  | none => some (entries ++ [(name, .list [.table []])])
  | some (.list items) => some (replaceEntry entries name (.list (items ++ [.table []])))
  | some _ => none

/-- The key of the enclosing table, and the last name of a key. -/
def splitKey (key : Key) : Key × String :=
  (key.dropLast, key.getLast?.getD "")

/-- Whether a key or one that it extends is among some keys. -/
def extendsOneOf (keys : List Key) (key : Key) : Bool :=
  keys.any fun other => !other.isEmpty && other.isPrefixOf key

/-- Whether a value is frozen when given inline. -/
def isInline : Setting → Bool
  | .list _ => true
  | .table _ => true
  | _ => false

/-! ## Values -/

/-- Enter a pair into an inline table of which some keys are frozen. -/
def addInline (frozen : List Key) (key : Key) (value : Setting) (entries : Entries) :
    Option Entries :=
  if extendsOneOf frozen key then none
  else
    let (outer, name) := splitKey key
    modifyTable false (addEntry name value) outer entries

/-- What a reader read, or the fault of a malformed document. -/
def wellFormed {α : Type} (read : Option α) : Except Fault α :=
  match read with
  | some found => .ok found
  | none => .error .malformed

/-- Read a string as a value. -/
def stringValue (chars : List Char) : Except Fault (Setting × List Char) :=
  (wellFormed (string? chars)).map fun (text, rest) => (.text (String.ofList text), rest)

mutual

/-- Read a value. -/
def value (chars : List Char) : Except Fault (Setting × List Char) :=
  match chars with
  | '"' :: _ => stringValue chars
  | '\'' :: _ => stringValue chars
  | 't' :: 'r' :: 'u' :: 'e' :: rest => .ok (.flag true, rest)
  | 'f' :: 'a' :: 'l' :: 's' :: 'e' :: rest => .ok (.flag false, rest)
  | '[' :: rest => items [] rest
  | '\x7b' :: rest =>
      match skipSpaces rest with
      | '\x7d' :: after => .ok (.table [], after)
      | inside => if inside.length ≤ rest.length then pairs [] [] inside else .error .malformed
  | _ => plain chars
termination_by (chars.length, 0)

/-- Read the items of an array that are left, and its end.  A comma may stand
after the last item. -/
def items (found : List Setting) (chars : List Char) : Except Fault (Setting × List Char) :=
  match skipLines? false chars with
  | some (']' :: rest) => .ok (.list found, rest)
  | some start =>
      if start.length ≤ chars.length then
        match value start with
        | .ok (item, after) =>
            match skipLines? false after with
            | some (']' :: rest) => .ok (.list (found ++ [item]), rest)
            | some (',' :: rest) =>
                if rest.length < chars.length then items (found ++ [item]) rest
                else .error .malformed
            | _ => .error .malformed
        | .error fault => .error fault
      else .error .malformed
  | none => .error .malformed
termination_by (chars.length, 1)
decreasing_by
  · rename_i small
    cases Nat.lt_or_eq_of_le small with
    | inl smaller => exact Prod.Lex.left 0 1 smaller
    | inr equal => exact equal ▸ Prod.Lex.right start.length Nat.zero_lt_one
  · rename_i smaller
    exact Prod.Lex.left 1 1 smaller

/-- Read the pairs of an inline table that are left, and its end. -/
def pairs (frozen : List Key) (entries : Entries) (chars : List Char) :
    Except Fault (Setting × List Char) :=
  match key? chars with
  | some (key, '=' :: afterKey) =>
      let start := skipSpaces afterKey
      if start.length < chars.length then
        match value start with
        | .ok (inner, afterValue) =>
            match addInline frozen key inner entries with
            | some entries =>
                match skipSpaces afterValue with
                | '\x7d' :: rest => .ok (.table entries, rest)
                | ',' :: rest =>
                    let next := skipSpaces rest
                    let frozen := if isInline inner then frozen ++ [key] else frozen
                    if next.length < chars.length then pairs frozen entries next
                    else .error .malformed
                | _ => .error .malformed
            | none => .error .malformed
        | .error fault => .error fault
      else .error .malformed
  | _ => .error .malformed
termination_by (chars.length, 1)

end

/-! ## Statements -/

/-- A document that has been read in part: its top-level table, the header that
is in force, the frozen keys, and the keys that may not be opened by a header
any more, now or from the next header on. -/
structure Progress where
  entries : Entries
  header : Key
  frozen : List Key
  closed : List Key
  closing : List Key

/-- A document of which nothing has been read. -/
def Progress.start : Progress :=
  ⟨[], [], [], [], []⟩

/-- The keys between a header and the last name of a dotted key. -/
def dottedKeys (header : Key) (key : Key) : List Key :=
  (List.range (key.length - 1)).map fun i => header ++ key.take (i + 1)

/-- Enter a pair under the header in force. -/
def Progress.addPair (progress : Progress) (key : Key) (value : Setting) : Option Progress :=
  let dotted := dottedKeys progress.header key
  let (outer, name) := splitKey key
  let place := progress.header ++ outer
  if dotted.any progress.closed.contains || extendsOneOf progress.frozen place then none
  else do
    let entries ← modifyTable true (addEntry name value) place progress.entries
    return { progress with
      entries
      closing := progress.closing ++ dotted
      frozen :=
        if isInline value then progress.frozen ++ [progress.header ++ key]
        else progress.frozen }

/-- Put the keys that are to be closed from this header on among the closed. -/
def Progress.atHeader (progress : Progress) : Progress :=
  { progress with closed := progress.closed ++ progress.closing, closing := [] }

/-- Open the table of a header. -/
def Progress.openTable (progress : Progress) (key : Key) : Option Progress :=
  let progress := progress.atHeader
  if progress.closed.contains key || extendsOneOf progress.frozen key then none
  else do
    let entries ← modifyTable true some key progress.entries
    return { progress with entries, header := key, closed := progress.closed ++ [key] }

/-- Open a further element of the array of a header.  What was said about the
element before it says nothing about the new one. -/
def Progress.openElement (progress : Progress) (key : Key) : Option Progress :=
  let progress := progress.atHeader
  if extendsOneOf progress.frozen key then none
  else
    let (outer, name) := splitKey key
    do
      let entries ← modifyTable true (addElement name) outer progress.entries
      return { progress with
        entries
        header := key
        frozen := progress.frozen.filter fun other => !key.isPrefixOf other
        closed := (progress.closed.filter fun other => !key.isPrefixOf other) ++ [key] }

/-- Read the key of a header, and its closing marks. -/
def headerKey? (marks : List Char) (chars : List Char) : Option (Key × List Char) :=
  match key? (skipSpaces chars) with
  | some (key, rest) =>
      if marks.isPrefixOf rest then some (key, rest.drop marks.length) else none
  | none => none

/-- Read one statement that is neither blank nor a comment. -/
def statement (progress : Progress) (chars : List Char) :
    Except Fault (Progress × List Char) :=
  match chars with
  | '[' :: '[' :: inside => do
      let (key, rest) ← wellFormed (headerKey? [']', ']'] inside)
      return (← wellFormed (progress.openElement key), rest)
  | '[' :: inside => do
      let (key, rest) ← wellFormed (headerKey? [']'] inside)
      return (← wellFormed (progress.openTable key), rest)
  | _ =>
      match key? chars with
      | some (key, '=' :: afterKey) => do
          let (found, rest) ← value (skipSpaces afterKey)
          return (← wellFormed (progress.addPair key found), rest)
      | _ => .error .malformed

/-- Read the statements that are left. -/
def statements (progress : Progress) (chars : List Char) : Except Fault Entries :=
  match skipSpaces chars with
  | [] => .ok progress.entries
  | '\n' :: rest =>
      if rest.length < chars.length then statements progress rest else .error .malformed
  | c :: line =>
      let read := if c = '#' then .ok (progress, c :: line) else statement progress (c :: line)
      match read with
      | .error fault => .error fault
      | .ok (progress, after) =>
          match skipComment? (skipSpaces after) with
          | none => .error .malformed
          | some [] => .ok progress.entries
          | some (d :: rest) =>
              if d = '\n' ∧ rest.length < chars.length then statements progress rest
              else .error .malformed
termination_by chars.length

/-- A text with single line feeds for line ends. -/
def joinLineEnds : List Char → List Char
  | '\r' :: '\n' :: rest => '\n' :: joinLineEnds rest
  | c :: rest => c :: joinLineEnds rest
  | [] => []

/-- Read a document. -/
def parse (text : List Char) : Except Fault Entries :=
  statements .start (joinLineEnds text)

end ViewOutline.Toml
