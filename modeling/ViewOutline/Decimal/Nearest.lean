/-!
# The double nearest to a decimal

A finite positive double is `mantissa · 2 ^ exponent` with fewer than 54 bits
in the mantissa and an exponent of at least -1074.  A decimal number is rounded
to the nearest of these in exact arithmetic, a tie to the even mantissa.
-/

namespace ViewOutline.Decimal

/-- The value `mantissa · 2 ^ exponent`. -/
structure Double where
  mantissa : Nat
  exponent : Int
  deriving DecidableEq

/-- A quotient rounded to the nearest whole number, a tie to the even one. -/
def roundDiv (num den : Nat) : Nat :=
  let quotient := num / den
  let twice := 2 * (num % den)
  if twice < den then quotient
  else if den < twice then quotient + 1
  else quotient + quotient % 2

/-- The fraction `num / den` divided by `2 ^ exponent`, as a fraction. -/
def scale (num den : Nat) (exponent : Int) : Nat × Nat :=
  if exponent < 0 then (num * Nat.pow 2 exponent.natAbs, den)
  else (num, den * Nat.pow 2 exponent.natAbs)

/-- The binary exponent at which a positive fraction has 53 bits before the
point, or the least exponent there is. -/
def binaryExponent (num den : Nat) : Int :=
  let estimate := max ((num.log2 : Int) - den.log2 - 53) (-1074)
  let scaled := scale num den estimate
  if Nat.pow 2 53 ≤ scaled.1 / scaled.2 then estimate + 1 else estimate

/-- The double nearest to the positive fraction `num / den`, unless it is too
large for one. -/
def nearest? (num den : Nat) : Option Double :=
  let exponent := binaryExponent num den
  let scaled := scale num den exponent
  let mantissa := roundDiv scaled.1 scaled.2
  let double : Double :=
    if mantissa = Nat.pow 2 53 then ⟨Nat.pow 2 52, exponent + 1⟩ else ⟨mantissa, exponent⟩
  if double.exponent ≤ 971 then some double else none

/-- The decimal `digits · 10 ^ exponent` as a fraction. -/
def fraction (digits : Nat) (exponent : Int) : Nat × Nat :=
  if exponent < 0 then (digits, Nat.pow 10 exponent.natAbs)
  else (digits * Nat.pow 10 exponent.natAbs, 1)

/-- The double nearest to a positive decimal. -/
def ofDecimal? (digits : Nat) (exponent : Int) : Option Double :=
  let value := fraction digits exponent
  nearest? value.1 value.2

/-- The exact value of a double as a fraction. -/
def Double.fraction (double : Double) : Nat × Nat :=
  if double.exponent < 0 then (double.mantissa, Nat.pow 2 double.exponent.natAbs)
  else (double.mantissa * Nat.pow 2 double.exponent.natAbs, 1)

end ViewOutline.Decimal
