import ViewOutline.Text.Blank

/-!
# Decimal digits and whole numbers

Every script with decimal digits has its ten digits in ten adjacent code
points.  A whole number may be written in any of them, with a sign, with single
underscores between digits, and with blanks around it.  Neither is a number of
too many decimal digits read, nor is it written.
-/

namespace ViewOutline.Text

/-- The zero of every run of ten decimal digits. -/
def digitZeros : List Nat :=
  [0x30, 0x0660, 0x06f0, 0x07c0, 0x0966, 0x09e6, 0x0a66, 0x0ae6, 0x0b66, 0x0be6, 0x0c66, 0x0ce6,
  0x0d66, 0x0de6, 0x0e50, 0x0ed0, 0x0f20, 0x1040, 0x1090, 0x17e0, 0x1810, 0x1946, 0x19d0, 0x1a80,
  0x1a90, 0x1b50, 0x1bb0, 0x1c40, 0x1c50, 0xa620, 0xa8d0, 0xa900, 0xa9d0, 0xa9f0, 0xaa50, 0xabf0,
  0xff10, 0x104a0, 0x10d30, 0x11066, 0x110f0, 0x11136, 0x111d0, 0x112f0, 0x11450, 0x114d0,
  0x11650, 0x116c0, 0x11730, 0x118e0, 0x11950, 0x11c50, 0x11d50, 0x11da0, 0x16a60, 0x16ac0,
  0x16b50, 0x1d7ce, 0x1d7d8, 0x1d7e2, 0x1d7ec, 0x1d7f6, 0x1e140, 0x1e2f0, 0x1e950, 0x1fbf0]

/-- The value of a decimal digit of any script. -/
def digitValue? (c : Char) : Option Nat :=
  (digitZeros.find? fun first => decide (first ≤ c.toNat) && decide (c.toNat < first + 10)).map
    (c.toNat - ·)

/-- The value of digits with single underscores between them, continued from
the value of the digits read so far.  `afterDigit` tells whether the character
in front was a digit: a number neither starts nor ends with an underscore. -/
def digitsValue? (value : Nat) : Bool → List Char → Option Nat
  | afterDigit, [] => if afterDigit then some value else none
  | afterDigit, c :: rest =>
      match digitValue? c with
      | some d => digitsValue? (10 * value + d) true rest
      | none => if c = '_' ∧ afterDigit then digitsValue? value false rest else none

/-- The most decimal digits that a whole number is read from or written in. -/
def digitLimit : Nat :=
  4300

/-- Whether a whole number has too many decimal digits to be written. -/
def exceedsDigitLimit (value : Int) : Bool :=
  decide (Nat.pow 10 digitLimit ≤ value.natAbs)

/-- The number of digits in a text. -/
def digitCount (text : List Char) : Nat :=
  text.countP fun c => (digitValue? c).isSome

/-- Blanks that may stand around a number: the information separators are not
among them. -/
def isNumberBlank (c : Char) : Bool :=
  isBlank c && !(decide (0x1c ≤ c.toNat) && decide (c.toNat ≤ 0x1f))

/-- Read a whole number: blanks around it, an optional sign, digits, not too
many of them. -/
def readInt? (text : String) : Option Int :=
  if digitLimit < digitCount text.toList then none
  else
    match trim isNumberBlank text.toList with
    | '-' :: digits => (digitsValue? 0 false digits).map fun n => -(n : Int)
    | '+' :: digits => (digitsValue? 0 false digits).map Int.ofNat
    | digits => (digitsValue? 0 false digits).map Int.ofNat

end ViewOutline.Text
