import ViewOutline.Decimal.Shortest
import ViewOutline.Vocabulary.Setting

/-!
# TOML scalars

Strings, numbers, dates and times as TOML writes them.  Every reader takes the
remaining characters of a document and gives what it read together with the
characters after it, or nothing if the document is malformed there.  A decimal
number of too many digits is well formed and yet cannot be read.

Line ends are single line feeds: a carriage return before a line feed has been
dropped before reading.
-/

namespace ViewOutline.Toml

/-- A reader of some kind of thing. -/
abbrev Reader (α : Type) := List Char → Option (α × List Char)

/-- Why a document cannot be read. -/
inductive Fault where
  | malformed
  /-- A whole number has too many digits. -/
  | longNumber (digits : Nat)

/-- Blanks within a line. -/
def isSpace (c : Char) : Bool :=
  c == ' ' || c == '\t'

/-- Control characters that may stand neither in comments nor in strings of
one line. -/
def isControl (c : Char) : Bool :=
  (decide (c.toNat < 0x20) && c != '\t') || c.toNat == 0x7f

/-- Control characters that may not stand in strings of several lines. -/
def isForbidden (c : Char) : Bool :=
  isControl c && c != '\n'

/-! ## Strings -/

/-- The value of a hexadecimal digit. -/
def hexValue? (c : Char) : Option Nat :=
  if '0' ≤ c ∧ c ≤ '9' then some (c.toNat - '0'.toNat)
  else if 'a' ≤ c ∧ c ≤ 'f' then some (c.toNat - 'a'.toNat + 10)
  else if 'A' ≤ c ∧ c ≤ 'F' then some (c.toNat - 'A'.toNat + 10)
  else none

/-- The number hexadecimal digits stand for. -/
def hexNumber? (digits : List Char) : Option Nat :=
  digits.foldl (fun value c => do return 16 * (← value) + (← hexValue? c)) (some 0)

/-- The character of a code point that is one. -/
def scalar? (code : Nat) : Option Char :=
  if code.isValidChar then some (Char.ofNat code) else none

/-- The character of hexadecimal digits. -/
def hexChar? (digits : List Char) : Option Char := do
  scalar? (← hexNumber? digits)

/-- The character a letter after a backslash stands for. -/
def escape? : Char → Option Char
  | 'b' => some '\x08'
  | 't' => some '\t'
  | 'n' => some '\n'
  | 'f' => some '\x0c'
  | 'r' => some '\r'
  | '"' => some '"'
  | '\\' => some '\\'
  | _ => none

/-- Put a character in front of what a reader read. -/
def consChar (c : Option Char) (rest : Option (List Char × List Char)) :
    Option (List Char × List Char) := do
  let (chars, after) ← rest
  return ((← c) :: chars, after)

/-- Read the inside of a basic string of one line, and its closing mark. -/
def basicInside : Reader (List Char)
  | '"' :: rest => some ([], rest)
  | '\\' :: 'u' :: a :: b :: c :: d :: rest =>
      consChar (hexChar? [a, b, c, d]) (basicInside rest)
  | '\\' :: 'U' :: a :: b :: c :: d :: e :: f :: g :: h :: rest =>
      consChar (hexChar? [a, b, c, d, e, f, g, h]) (basicInside rest)
  | '\\' :: letter :: rest => consChar (escape? letter) (basicInside rest)
  | c :: rest => if isControl c || c == '\\' then none else consChar (some c) (basicInside rest)
  | [] => none

/-- Read the inside of a literal string of one line, and its closing mark. -/
def literalInside : Reader (List Char)
  | '\'' :: rest => some ([], rest)
  | c :: rest => if isControl c then none else consChar (some c) (literalInside rest)
  | [] => none

/-- What a string of several lines is doing with the next character: reading
it, or skipping blanks after a backslash at the end of a line. -/
inductive LineMode where
  | reading
  /-- After a backslash and blanks: the line has to end. -/
  | ending
  /-- After the end of that line: blanks and line ends are skipped. -/
  | skipping

/-- Read the inside of a basic string of several lines, and its closing
marks. -/
def basicLinesInside : LineMode → Reader (List Char)
  | .reading, '"' :: '"' :: '"' :: rest => some ([], rest)
  | .reading, '\\' :: 'u' :: a :: b :: c :: d :: rest =>
      consChar (hexChar? [a, b, c, d]) (basicLinesInside .reading rest)
  | .reading, '\\' :: 'U' :: a :: b :: c :: d :: e :: f :: g :: h :: rest =>
      consChar (hexChar? [a, b, c, d, e, f, g, h]) (basicLinesInside .reading rest)
  | .reading, '\\' :: letter :: rest =>
      if letter = '\n' then basicLinesInside .skipping rest
      else if isSpace letter then basicLinesInside .ending rest
      else consChar (escape? letter) (basicLinesInside .reading rest)
  | .reading, c :: rest =>
      if isForbidden c || c == '\\' then none
      else consChar (some c) (basicLinesInside .reading rest)
  | .ending, c :: rest =>
      if isSpace c then basicLinesInside .ending rest
      else if c = '\n' then basicLinesInside .skipping rest
      else none
  | .skipping, c :: rest =>
      if isSpace c || c == '\n' then basicLinesInside .skipping rest
      else basicLinesInside .reading (c :: rest)
  | _, [] => none
termination_by mode chars => (chars.length, match mode with | .skipping => 1 | _ => 0)

/-- Read the inside of a literal string of several lines, and its closing
marks. -/
def literalLinesInside : Reader (List Char)
  | '\'' :: '\'' :: '\'' :: rest => some ([], rest)
  | c :: rest => if isForbidden c then none else consChar (some c) (literalLinesInside rest)
  | [] => none

/-- Up to two more marks directly after the closing marks belong to the
string. -/
def extraMarks (mark : Char) (inside : List Char × List Char) : List Char × List Char :=
  match inside.2 with
  | first :: second :: rest =>
      if first = mark then
        if second = mark then (inside.1 ++ [mark, mark], rest)
        else (inside.1 ++ [mark], second :: rest)
      else inside
  | [first] => if first = mark then (inside.1 ++ [mark], []) else inside
  | [] => inside

/-- A line end directly after the opening marks does not count. -/
def dropLineEnd : List Char → List Char
  | '\n' :: rest => rest
  | chars => chars

/-- Read a string of any of the four kinds. -/
def string? : Reader (List Char)
  | '"' :: '"' :: '"' :: rest =>
      (basicLinesInside .reading (dropLineEnd rest)).map (extraMarks '"')
  | '"' :: rest => basicInside rest
  | '\'' :: '\'' :: '\'' :: rest =>
      (literalLinesInside (dropLineEnd rest)).map (extraMarks '\'')
  | '\'' :: rest => literalInside rest
  | _ => none

/-! ## Numbers -/

/-- Whether a character is a digit of a base of at most sixteen. -/
def isDigitOf (base : Nat) (c : Char) : Bool :=
  (hexValue? c).any (decide <| · < base)

/-- Read digits with single underscores between them; underscores are
dropped. -/
def digitsOf (base : Nat) : List Char → List Char × List Char
  | '_' :: c :: rest =>
      if isDigitOf base c then
        let (digits, after) := digitsOf base rest
        (c :: digits, after)
      else ([], '_' :: c :: rest)
  | c :: rest =>
      if isDigitOf base c then
        let (digits, after) := digitsOf base rest
        (c :: digits, after)
      else ([], c :: rest)
  | [] => ([], [])

/-- Read digits that start with a digit. -/
def leadingDigits? (base : Nat) : Reader (List Char)
  | c :: rest => if isDigitOf base c then some (digitsOf base (c :: rest)) else none
  | [] => none

/-- The number that digits of a base stand for. -/
def numberOf (base : Nat) (digits : List Char) : Nat :=
  digits.foldl (fun value c => base * value + (hexValue? c).getD 0) 0

/-- Read the digits before the point: a single zero, or digits that do not
start with zero. -/
def wholePart? : Reader (List Char)
  | '0' :: rest => some (['0'], rest)
  | chars => leadingDigits? 10 chars

/-- Read a sign. -/
def sign : List Char → Bool × List Char
  | '-' :: rest => (true, rest)
  | '+' :: rest => (false, rest)
  | chars => (false, chars)

/-- Read a fraction, if there is one. -/
def fractionPart : List Char → List Char × List Char
  | '.' :: rest => (leadingDigits? 10 rest).getD ([], '.' :: rest)
  | chars => ([], chars)

/-- Read a power of ten, if there is one. -/
def exponentPart (chars : List Char) : Option Int × List Char :=
  match chars with
  | c :: rest =>
      if c = 'e' ∨ c = 'E' then
        let (negative, digits) := sign rest
        match leadingDigits? 10 digits with
        | some (found, after) =>
            let value : Int := numberOf 10 found
            (some (if negative then -value else value), after)
        | none => (none, chars)
      else (none, chars)
  | [] => (none, chars)

/-- A whole number with its sign. -/
def signed (negative : Bool) (value : Nat) : Int :=
  if negative then -(value : Int) else value

/-- The whole number of some digits, unless they are too many. -/
def wholeNumber (negative : Bool) (digits : List Char) : Except Fault Setting :=
  if Text.digitLimit < digits.length then .error (.longNumber digits.length)
  else .ok (.int (signed negative (numberOf 10 digits)))

/-- Read a decimal number, whole or not. -/
def decimal? : Reader (Except Fault Setting) := fun chars => do
  let (negative, unsigned) := sign chars
  let (whole, afterWhole) ← wholePart? unsigned
  let (fraction, afterFraction) := fractionPart afterWhole
  let (exponent, rest) := exponentPart afterFraction
  if fraction.isEmpty && exponent.isNone then
    return (wholeNumber negative whole, rest)
  else
    let digits := numberOf 10 (whole ++ fraction)
    let text := Decimal.text digits (exponent.getD 0 - fraction.length)
    return (.ok (.real (if negative then "-" ++ text else text)), rest)

/-- Read a whole number in another base, after its leading zero and letter. -/
def based? (base : Nat) : Reader (Except Fault Setting) := fun chars => do
  let (digits, rest) ← leadingDigits? base chars
  return (.ok (.int (numberOf base digits)), rest)

/-- Read a number. -/
def number? (chars : List Char) : Option (Except Fault Setting × List Char) :=
  let other := match chars with
    | '0' :: 'x' :: rest => based? 16 rest
    | '0' :: 'b' :: rest => based? 2 rest
    | '0' :: 'o' :: rest => based? 8 rest
    | _ => none
  other.or (decimal? chars)

/-- Read one of the words for numbers that are not finite. -/
def special? (chars : List Char) : Option (Setting × List Char) :=
  let (negative, unsigned) := sign chars
  match unsigned with
  | 'i' :: 'n' :: 'f' :: rest => some (.real (if negative then "-inf" else "inf"), rest)
  | 'n' :: 'a' :: 'n' :: rest => some (.real "nan", rest)
  | _ => none

/-! ## Dates and times -/

/-- Read a number of `width` decimal digits between two bounds. -/
def fixed? (width low high : Nat) : Reader Nat := fun chars =>
  let digits := chars.take width
  let value := numberOf 10 digits
  if digits.length = width ∧ digits.all (isDigitOf 10) ∧ low ≤ value ∧ value ≤ high then
    some (value, chars.drop width)
  else none

/-- Read a given character. -/
def mark? (mark : Char) : Reader Unit
  | c :: rest => if c = mark then some ((), rest) else none
  | [] => none

/-- The number of days of a month. -/
def daysIn (year month : Nat) : Nat :=
  if month = 2 then
    if year % 4 = 0 ∧ (year % 100 ≠ 0 ∨ year % 400 = 0) then 29 else 28
  else if month = 4 ∨ month = 6 ∨ month = 9 ∨ month = 11 then 30
  else 31

/-- Read the part of a second after its point, to the microsecond; further
digits are dropped. -/
def microsPart (chars : List Char) : Nat × List Char :=
  match chars with
  | '.' :: rest =>
      let digits := rest.takeWhile (isDigitOf 10)
      let kept := digits.take 6
      if digits.isEmpty then (0, chars)
      else (numberOf 10 kept * Nat.pow 10 (6 - kept.length), rest.drop digits.length)
  | _ => (0, chars)

/-- Read a time of day. -/
def clock? : Reader Clock := fun chars => do
  let (hour, chars) ← fixed? 2 0 23 chars
  let (_, chars) ← mark? ':' chars
  let (minute, chars) ← fixed? 2 0 59 chars
  let (_, chars) ← mark? ':' chars
  let (second, chars) ← fixed? 2 0 59 chars
  let (micros, chars) := microsPart chars
  return (⟨hour, minute, second, micros⟩, chars)

/-- Read hours and minutes. -/
def hoursMinutes? : Reader Nat := fun chars => do
  let (hour, chars) ← fixed? 2 0 23 chars
  let (_, chars) ← mark? ':' chars
  let (minute, chars) ← fixed? 2 0 59 chars
  return (60 * hour + minute, chars)

/-- Read a distance from universal time in minutes; nothing is read where there
is none. -/
def offsetPart (chars : List Char) : Option Int × List Char :=
  let distance := fun (negative : Bool) (rest : List Char) =>
    match hoursMinutes? rest with
    | some (minutes, after) => (some (signed negative minutes), after)
    | none => (none, chars)
  match chars with
  | 'Z' :: rest => (some 0, rest)
  | 'z' :: rest => (some 0, rest)
  | '+' :: rest => distance false rest
  | '-' :: rest => distance true rest
  | _ => (none, chars)

/-- Read a day, which may not be one of the calendar. -/
def day? : Reader Day := fun chars => do
  let (year, chars) ← fixed? 4 0 9999 chars
  let (_, chars) ← mark? '-' chars
  let (month, chars) ← fixed? 2 1 12 chars
  let (_, chars) ← mark? '-' chars
  let (day, chars) ← fixed? 2 1 31 chars
  return (⟨year, month, day⟩, chars)

/-- Whether a day is one of the calendar. -/
def inCalendar (day : Day) : Bool :=
  day.year != 0 && decide (day.day ≤ daysIn day.year day.month)

/-- Read the time after a day, if there is one. -/
def clockAfterDay? : Reader Clock
  | c :: rest => if c = 'T' ∨ c = 't' ∨ c = ' ' then clock? rest else none
  | [] => none

/-- Read what follows a day and put the moment together. -/
def momentAfterDay (day : Day) (chars : List Char) : Moment × List Char :=
  match clockAfterDay? chars with
  | some (clock, rest) =>
      let (offset, rest) := offsetPart rest
      (.instant day clock offset, rest)
  | none => (.day day, chars)

/-- Read a number, or one of the words for numbers that are not finite. -/
def numeral (chars : List Char) : Except Fault (Setting × List Char) :=
  match number? chars, special? chars with
  | some (value, rest), _ => value.map (·, rest)
  | none, some found => .ok found
  | none, none => .error .malformed

/-- Read a number, date or time.  What starts like a date is one. -/
def plain (chars : List Char) : Except Fault (Setting × List Char) :=
  match day? chars, clock? chars with
  | some (day, rest), _ =>
      if inCalendar day then
        let (moment, rest) := momentAfterDay day rest
        .ok (.moment moment, rest)
      else .error .malformed
  | none, some (clock, rest) => .ok (.moment (.clock clock), rest)
  | none, none => numeral chars

end ViewOutline.Toml
