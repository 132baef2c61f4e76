import ViewOutline.Decimal.Nearest

/-!
# The shortest decimal of a double

A double is shown by the fewest decimal digits that read back as the same
double, and of these by the nearest.  The digits are laid out positionally for
exponents from -4 to 15 and with a power of ten otherwise.
-/

namespace ViewOutline.Decimal

/-- The decimal exponent of a fraction below one that is at least
`10 ^ -fuel`: how often it can be multiplied by ten before it reaches one. -/
def smallExponent : Nat → Nat → Nat → Nat
  | 0, _, _ => 0
  | fuel + 1, num, den => if den ≤ num then 0 else smallExponent fuel (num * 10) den + 1

/-- The exponent `e` with `10 ^ e ≤ num / den < 10 ^ (e + 1)`, for a positive
double. -/
def decimalExponent (num den : Nat) : Int :=
  if den ≤ num then ((toString (num / den)).length : Int) - 1
  else -(smallExponent 400 num den : Int)

/-- The digits of a fraction in units of `10 ^ exponent`, cut off, and what is
left of the fraction in the same units. -/
def cutOff (num den : Nat) (exponent : Int) : Nat × Nat × Nat :=
  let scaled : Nat × Nat :=
    if exponent < 0 then (num * Nat.pow 10 exponent.natAbs, den)
    else (num, den * Nat.pow 10 exponent.natAbs)
  (scaled.1 / scaled.2, scaled.1 % scaled.2, scaled.2)

/-- The neighbour of a double on the grid of `10 ^ exponent` that reads back as
the double: the nearer one if both do, the even one if they are as near. -/
def neighbour? (double : Double) (exponent : Int) : Option Nat :=
  let value := double.fraction
  let (low, rest, unit) := cutOff value.1 value.2 exponent
  let lowReads := low ≠ 0 ∧ ofDecimal? low exponent = some double
  let highReads := ofDecimal? (low + 1) exponent = some double
  if lowReads ∧ highReads then
    if 2 * rest < unit then some low
    else if unit < 2 * rest then some (low + 1)
    else some (low + low % 2)
  else if lowReads then some low
  else if highReads then some (low + 1)
  else none

/-- Look for the neighbour with the fewest digits, from a number of digits on.
Seventeen digits always suffice. -/
def search (double : Double) (exponent : Int) : Nat → Nat → Nat × Int
  | 0, digits =>
      let unit := exponent - digits + 1
      let value := double.fraction
      ((cutOff value.1 value.2 unit).1, unit)
  | tries + 1, digits =>
      let unit := exponent - digits + 1
      match neighbour? double unit with
      | some found => (found, unit)
      | none => search double exponent tries (digits + 1)

/-- The shortest decimal `digits · 10 ^ exponent` of a positive double. -/
def shortest (double : Double) : Nat × Int :=
  let value := double.fraction
  search double (decimalExponent value.1 value.2) 17 1

/-- The digits of a number without the zeros at its end. -/
def significant (digits : Nat) : List Char :=
  ((toString digits).toList.reverse.dropWhile (· == '0')).reverse

/-- The exponent of ten in the text of a number: a sign and two digits or
more. -/
def exponentText (exponent : Int) : String :=
  let magnitude := toString exponent.natAbs
  let padded := if magnitude.length < 2 then "0" ++ magnitude else magnitude
  (if exponent < 0 then "e-" else "e+") ++ padded

/-- Lay out digits of which the first stands for `10 ^ exponent`. -/
def layOut (digits : List Char) (exponent : Int) : String :=
  if exponent < -4 ∨ 16 ≤ exponent then
    let head := String.ofList (digits.take 1)
    let tail := String.ofList (digits.drop 1)
    head ++ (if tail = "" then "" else "." ++ tail) ++ exponentText exponent
  else if exponent < 0 then
    "0." ++ String.ofList (List.replicate (exponent.natAbs - 1) '0' ++ digits)
  else
    let whole := digits.take (exponent.natAbs + 1)
    let padding := List.replicate (exponent.natAbs + 1 - whole.length) '0'
    let rest := String.ofList (digits.drop (exponent.natAbs + 1))
    String.ofList (whole ++ padding) ++ "." ++ (if rest = "" then "0" else rest)

/-- The text of a positive double. -/
def Double.text (double : Double) : String :=
  let (digits, unit) := shortest double
  let first := unit + ((toString digits).length : Int) - 1
  layOut (significant digits) first

/-- The text of the double nearest to `digits · 10 ^ exponent`, without its
sign.  Decimals far outside the range of doubles are zero or infinite. -/
def text (digits : Nat) (exponent : Int) : String :=
  let magnitude := ((toString digits).length : Int) + exponent
  if digits = 0 ∨ magnitude < -330 then "0.0"
  else if 310 < magnitude then "inf"
  else
    match ofDecimal? digits exponent with
    | some double => if double.mantissa = 0 then "0.0" else double.text
    | none => "inf"

end ViewOutline.Decimal
