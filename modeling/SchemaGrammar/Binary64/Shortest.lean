import SchemaGrammar.Binary64
set_option autoImplicit false

/-!
The shortest decimal text of a binary number: the fewest digits that read back as the number, and
of these the ones nearest to it; of two that are equally near, the even one. `Notation` holds the
choices of the written form: it is positional for magnitudes from `10 ^ (-4)` up to `10 ^ 16` and
scientific otherwise.
-/

namespace SchemaGrammar.Binary64

/-- The magnitude of a finite number as a fraction. -/
def fraction (significand : Nat) (exponent : Int) : Nat × Nat :=
  (significand * Nat.pow 2 exponent.toNat, Nat.pow 2 (-exponent).toNat)

/-- The least `e` between `low` and `low + count` with `numerator / denominator < 10 ^ (e + 1)`. -/
def decimalExponent (numerator denominator : Nat) (low : Int) : Nat → Int
  | 0 => low
  | count + 1 =>
    if numerator * Nat.pow 10 (-(low + 1)).toNat < denominator * Nat.pow 10 (low + 1).toNat then low
    else decimalExponent numerator denominator (low + 1) count

/-- The digits of the numeral with the given unit that reads back as the number, if one of the two
neighbours of the number on that decimal grid does; of two the nearer one. -/
def onGrid? (significand : Nat) (exponent : Int) (unit : Int) : Option Nat :=
  let (numerator, denominator) := fraction significand exponent
  let above := numerator * Nat.pow 10 (-unit).toNat
  let below := denominator * Nat.pow 10 unit.toNat
  let floor := above / below
  let readsBack (digits : Nat) : Bool :=
    ofDecimal false digits unit == .finite false significand exponent
  let nearer := roundDivision above below
  let farther := if nearer = floor then floor + 1 else floor
  if readsBack nearer then some nearer
  else if readsBack farther then some farther
  else none

/-- The numeral with the fewest digits, from `count` digits fewer than seventeen on, and its
unit. -/
def shortestFrom (significand : Nat) (exponent leading : Int) : Nat → Nat × Int
  | 0 => ((onGrid? significand exponent (leading - 16)).getD 0, leading - 16)
  | count + 1 =>
    let unit := leading - (16 - (count + 1 : Nat))
    match onGrid? significand exponent unit with
    | some digits => (digits, unit)
    | none => shortestFrom significand exponent leading count

/-- The significant digits of a positive finite number without zeros at the end, and the decimal
exponent of the first one. -/
def shortestDigits (significand : Nat) (exponent : Int) : List Char × Int :=
  let (numerator, denominator) := fraction significand exponent
  let leading := decimalExponent numerator denominator (-325) 640
  let (digits, unit) := shortestFrom significand exponent leading 16
  let written := Nat.toDigits 10 digits
  ((written.reverse.dropWhile (· == '0')).reverse, unit + written.length - 1)

/-- The choices of a written form of numbers. -/
structure Notation where
  /-- The least decimal exponent written positionally. -/
  leastPositional : Int
  /-- The first decimal exponent that is too large for the positional form. -/
  firstScientific : Int
  /-- The number of digits that an exponent has at least. -/
  exponentWidth : Nat
  infinity : String
  undefined : String

/-- The form in which a message shows a number. -/
def plain : Notation := ⟨-4, 16, 2, "inf", "nan"⟩

/-- The form of a number in a JSON text. -/
def json : Notation := ⟨-4, 16, 2, "Infinity", "NaN"⟩

def Notation.exponent (form : Notation) (value : Int) : List Char :=
  let digits := Nat.toDigits 10 value.natAbs
  (if value < 0 then '-' else '+') ::
    List.replicate (form.exponentWidth - digits.length) '0' ++ digits

/-- The digits with the point where the exponent of the first one puts it. -/
def Notation.place (form : Notation) (digits : List Char) (leading : Int) : List Char :=
  if form.leastPositional ≤ leading ∧ leading < 0 then
    '0' :: '.' :: List.replicate (-leading - 1).toNat '0' ++ digits
  else if 0 ≤ leading ∧ leading < form.firstScientific then
    let whole := leading.toNat + 1
    let fractional := digits.drop whole
    digits.take whole ++ List.replicate (whole - digits.length) '0' ++
      '.' :: (if fractional.isEmpty then ['0'] else fractional)
  else
    digits.take 1 ++ (if digits.length ≤ 1 then [] else '.' :: digits.drop 1) ++
      'e' :: form.exponent leading

/-- The text of a number in a written form. -/
def Notation.write (form : Notation) : Binary64 → String
  | .nan => form.undefined
  | .infinite negative => (if negative then "-" else "") ++ form.infinity
  | .finite negative significand exponent =>
    let magnitude :=
      if significand = 0 then ['0', '.', '0']
      else
        let (digits, leading) := shortestDigits significand exponent
        form.place digits leading
    String.ofList ((if negative then ['-'] else []) ++ magnitude)

end SchemaGrammar.Binary64
