import ViewOutline.Text.Quoted

/-!
# JSON documents

A document is printed with two blanks of indentation for each level, one entry
a line, the fields of an object in their order, and `[]` or a pair of braces
for what is empty.  The text is pure ASCII: every character outside the
printable ASCII range is escaped by its UTF-16 units.
-/

namespace ViewOutline

/-- A JSON document.  The fields of an object are kept in order. -/
inductive Json where
  | null
  | bool (value : Bool)
  | int (value : Int)
  | text (value : String)
  | list (items : List Json)
  | object (fields : List (String × Json))

namespace Json

/-- A text, or nothing. -/
def ofOption : Option String → Json
  | some value => .text value
  | none => .null

/-- A list of texts. -/
def texts (values : List String) : Json :=
  .list (values.map .text)

/-- A UTF-16 unit in the form `\uXXXX`. -/
def escapeUnit (unit : Nat) : List Char :=
  '\\' :: 'u' :: Text.hexDigits 4 unit

/-- A character inside a string. -/
def escapeChar (c : Char) : List Char :=
  let n := c.toNat
  if c = '"' then ['\\', '"']
  else if c = '\\' then ['\\', '\\']
  else if c = '\n' then ['\\', 'n']
  else if c = '\r' then ['\\', 'r']
  else if c = '\t' then ['\\', 't']
  else if n = 0x08 then ['\\', 'b']
  else if n = 0x0c then ['\\', 'f']
  else if 0x20 ≤ n ∧ n ≤ 0x7e then [c]
  else if n < 0x10000 then escapeUnit n
  else
    escapeUnit (0xd800 + (n - 0x10000) / 0x400) ++ escapeUnit (0xdc00 + (n - 0x10000) % 0x400)

/-- A string with its quotation marks. -/
def quote (text : String) : List Char :=
  '"' :: text.toList.flatMap escapeChar ++ ['"']

/-- A line break and the indentation of a level. -/
def newline (level : Nat) : List Char :=
  '\n' :: List.replicate (2 * level) ' '

mutual

/-- Print a document that stands at a level of indentation. -/
def renderAt (level : Nat) : Json → List Char
  | .null => "null".toList
  | .bool true => "true".toList
  | .bool false => "false".toList
  | .int value => (toString value).toList
  | .text value => quote value
  | .list [] => ['[', ']']
  | .list (item :: rest) =>
      '[' :: newline (level + 1) ++ renderAt (level + 1) item ++ renderItems level rest
  | .object [] => ['\x7b', '\x7d']
  | .object ((key, value) :: rest) =>
      '\x7b' :: newline (level + 1) ++ quote key ++ [':', ' '] ++ renderAt (level + 1) value ++
        renderFields level rest

/-- Print the further items of a list, and its end. -/
def renderItems (level : Nat) : List Json → List Char
  | [] => newline level ++ [']']
  | item :: rest =>
      ',' :: newline (level + 1) ++ renderAt (level + 1) item ++ renderItems level rest

/-- Print the further fields of an object, and its end. -/
def renderFields (level : Nat) : List (String × Json) → List Char
  | [] => newline level ++ ['\x7d']
  | (key, value) :: rest =>
      ',' :: newline (level + 1) ++ quote key ++ [':', ' '] ++ renderAt (level + 1) value ++
        renderFields level rest

end

/-- The text of a document. -/
def render (document : Json) : String :=
  String.ofList (document.renderAt 0)

end Json

end ViewOutline
