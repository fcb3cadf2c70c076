set_option autoImplicit false

/-!
Binary floating-point numbers of 64 bits, as they occur in documents. A finite number is a
significand times a power of two; `ofDecimal` rounds a decimal numeral to the nearest such number,
a tie going to the even significand, and everything beyond the largest one to infinity. All of it
is exact arithmetic on natural numbers.
-/

namespace SchemaGrammar

/-- A finite number is `significand * 2 ^ exponent` with `significand < 2 ^ 53` and
`-1074 ≤ exponent`; of several such forms the one with the largest significand is used. -/
inductive Binary64 where
  | finite (negative : Bool) (significand : Nat) (exponent : Int)
  | infinite (negative : Bool)
  | nan
  deriving DecidableEq

namespace Binary64

/-- The exponent of the smallest positive number, `2 ^ (-1074)`. -/
def leastExponent : Int := -1074

/-- The exponent of the largest finite numbers. -/
def greatestExponent : Int := 971

def zero (negative : Bool) : Binary64 := .finite negative 0 leastExponent

/-- The quotient nearest to `numerator / denominator`; a tie goes to the even one. -/
def roundDivision (numerator denominator : Nat) : Nat :=
  let quotient := numerator / denominator
  let rest := numerator % denominator
  if 2 * rest < denominator then quotient
  else if denominator < 2 * rest then quotient + 1
  else quotient + quotient % 2

/-- The number nearest to a positive fraction. -/
def ofFraction (negative : Bool) (numerator denominator : Nat) : Binary64 :=
  let scaled (exponent : Int) : Nat × Nat :=
    (numerator * Nat.pow 2 (-exponent).toNat, denominator * Nat.pow 2 exponent.toNat)
  let estimate : Int := (Nat.log2 numerator : Int) - Nat.log2 denominator - 53
  let lower := scaled estimate
  let normal := if Nat.pow 2 53 ≤ lower.1 / lower.2 then estimate + 1 else estimate
  let exponent := max normal leastExponent
  let fraction := scaled exponent
  let significand := roundDivision fraction.1 fraction.2
  let (significand, exponent) :=
    if significand = Nat.pow 2 53 then (Nat.pow 2 52, exponent + 1) else (significand, exponent)
  if greatestExponent < exponent then .infinite negative
  else .finite negative significand exponent

/-- The number nearest to `digits * 10 ^ exponent`. Numerals far outside the range are settled by
their number of places alone. -/
def ofDecimal (negative : Bool) (digits : Nat) (exponent : Int) : Binary64 :=
  let places : Int := (Nat.toDigits 10 digits).length + exponent
  if digits = 0 ∨ places < -330 then zero negative
  else if 310 < places then .infinite negative
  else ofFraction negative (digits * Nat.pow 10 exponent.toNat) (Nat.pow 10 (-exponent).toNat)

/-- A whole number as an integer. -/
def toInt? : Binary64 → Option Int
  | .finite negative significand exponent =>
    let signed (magnitude : Nat) : Int := if negative then -magnitude else magnitude
    if 0 ≤ exponent then some (signed (significand * Nat.pow 2 exponent.toNat))
    else if significand % Nat.pow 2 (-exponent).toNat = 0 then
      some (signed (significand / Nat.pow 2 (-exponent).toNat))
    else none
  | _ => none

def isZero : Binary64 → Bool
  | .finite _ significand _ => significand == 0
  | _ => false

end Binary64

end SchemaGrammar
