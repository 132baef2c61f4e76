import ViewOutline.Text.Digit
import ViewOutline.Text.Quoted
import ViewOutline.Vocabulary.Moment

/-!
# Configuration values

Configuration files hold texts, numbers, flags, lists and tables.  A value is
shown in messages, and inside names made from lists and tables, by one rule:
texts are quoted, flags are `True` and `False`, an absent value is `None`,
lists stand in square brackets and tables in braces.  A value that holds a
number of too many digits cannot be shown.
-/

namespace ViewOutline

/-- A configuration value.  A real number is kept as the decimal text that
shows it. -/
inductive Setting where
  | absent
  | flag (value : Bool)
  | int (value : Int)
  | real (decimal : String)
  | text (value : String)
  | moment (value : Moment)
  | list (items : List Setting)
  | table (entries : List (String × Setting))

namespace Setting

instance : Inhabited Setting :=
  ⟨.absent⟩

mutual

/-- How a value is shown inside a message, a list or a table. -/
def shown : Setting → String
  | .absent => "None"
  | .flag true => "True"
  | .flag false => "False"
  | .int value => toString value
  | .real decimal => decimal
  | .text value => Text.quoted value
  | .moment value => value.shown
  | .list items => "[" ++ ", ".intercalate (shownItems items) ++ "]"
  | .table entries => "\x7b" ++ ", ".intercalate (shownEntries entries) ++ "\x7d"

/-- The members of a list as they are shown. -/
def shownItems : List Setting → List String
  | [] => []
  | item :: rest => item.shown :: shownItems rest

/-- The entries of a table as they are shown. -/
def shownEntries : List (String × Setting) → List String
  | [] => []
  | (key, value) :: rest => (Text.quoted key ++ ": " ++ value.shown) :: shownEntries rest

end

mutual

/-- Whether a value holds a number of too many digits. -/
def holdsLongNumber : Setting → Bool
  | .int value => Text.exceedsDigitLimit value
  | .list items => itemsHoldLongNumber items
  | .table entries => entriesHoldLongNumber entries
  | _ => false

/-- Whether one of some values holds a number of too many digits. -/
def itemsHoldLongNumber : List Setting → Bool
  | [] => false
  | item :: rest => item.holdsLongNumber || itemsHoldLongNumber rest

/-- Whether the value of one of some entries holds a number of too many
digits. -/
def entriesHoldLongNumber : List (String × Setting) → Bool
  | [] => false
  | (_, value) :: rest => value.holdsLongNumber || entriesHoldLongNumber rest

end

/-- The name a value stands for: a text stands for itself, any other value for
the text that shows it. -/
def asName : Setting → String
  | .text value => value
  | .moment value => value.plain
  | other => other.shown

/-- The word for the kind of a value in messages. -/
def kindName : Setting → String
  | .absent => "NoneType"
  | .flag _ => "bool"
  | .int _ => "int"
  | .real _ => "float"
  | .text _ => "str"
  | .moment value => value.kindName
  | .list _ => "list"
  | .table _ => "dict"

/-- The members of a value that has members: the characters of a text, the
items of a list, the keys of a table. -/
def members? : Setting → Option (List Setting)
  | .text value => some (value.toList.map fun c => .text (String.singleton c))
  | .list items => some items
  | .table entries => some (entries.map fun (key, _) => .text key)
  | _ => none

/-- Whether a value says nothing: no value, `false`, zero, or no members. -/
def isVoid : Setting → Bool
  | .absent => true
  | .flag value => !value
  | .int value => value == 0
  | .real decimal => decimal == "0.0" || decimal == "-0.0"
  | .text value => value.isEmpty
  | .moment _ => false
  | .list items => items.isEmpty
  | .table entries => entries.isEmpty

/-- The value of a key.  A key without a value counts as missing. -/
def lookup (entries : List (String × Setting)) (key : String) : Option Setting :=
  match entries.lookup key with
  | some .absent => none
  | found => found

end Setting

end ViewOutline
