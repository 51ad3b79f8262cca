/-!
Binary floating point numbers of 64 bits, exactly.

Every finite number of the format is a whole multiple of its least positive number,
`2 ^ -1074`.  A number is kept as that multiple, so that equality and order are those
of the integers and conversions lose nothing.  `ofRatio` is the one place where
rounding happens: to the nearest number of the format, a tie going to the even
neighbour.
-/
namespace MarkupLint

inductive Double where
  | finite (units : Int)
  | negativeZero
  | infinity (negative : Bool)
  | nan
  deriving DecidableEq, Repr, Inhabited

namespace Double

/-- How many units make one. -/
def scale : Nat := Nat.pow 2 1074

def bitLength (n : Nat) : Nat :=
  if n = 0 then 0 else n.log2 + 1

/-- The quotient rounded to the nearest integer, a tie to the even one. -/
def roundQuotient (num den : Nat) : Nat :=
  let quotient := num / den
  let twice := 2 * (num % den)
  if twice > den ∨ (twice = den ∧ quotient % 2 = 1) then quotient + 1 else quotient

/-- The size of the step between neighbours near `units`, as a power of two. -/
def stepBits (units : Nat) : Nat :=
  bitLength units - 53

/-- Units of the number of the format that is nearest to the quotient, or nothing
when that lies beyond the largest finite number. -/
def unitsOfRatio (num den : Nat) : Option Nat :=
  let bits := stepBits (num / den)
  let step := Nat.pow 2 bits
  let units := roundQuotient num (den * step) * step
  if units < Nat.pow 2 2098 then some units else none

def signed (negative : Bool) (units : Nat) : Double :=
  if negative then (if units = 0 then negativeZero else finite (-(units : Int)))
  else finite units

/-- The number of the format nearest to `± num / den`. -/
def ofRatio (negative : Bool) (num den : Nat) : Double :=
  match unitsOfRatio (num * scale) den with
  | some units => signed negative units
  | none => infinity negative

/-- `± digits * 10 ^ exponent`, rounded.  Exponents far outside the format's range
are settled without computing the power. -/
def ofDecimal (negative : Bool) (digits : Nat) (exponent : Int) : Double :=
  if digits = 0 then signed negative 0
  else
    let magnitude := exponent + (Nat.toDigits 10 digits).length
    if magnitude > 400 then infinity negative
    else if magnitude < -400 then signed negative 0
    else if 0 ≤ exponent then ofRatio negative (digits * Nat.pow 10 exponent.toNat) 1
    else ofRatio negative digits (Nat.pow 10 (-exponent).toNat)

/-- The nearest number to an integer, or nothing when the integer is too large. -/
def ofInt? (n : Int) : Option Double :=
  (unitsOfRatio (n.natAbs * scale) 1).map fun units =>
    finite (if n < 0 then -(units : Int) else units)

def ofNat (n : Nat) : Double :=
  ofRatio false n 1

/-- The exact value in units, for the numbers that have one. -/
def units? : Double → Option Int
  | finite units => some units
  | negativeZero => some 0
  | infinity _ => none
  | nan => none

def isNegative : Double → Bool
  | finite units => decide (units < 0)
  | negativeZero => true
  | infinity negative => negative
  | nan => false

def isZero (x : Double) : Bool :=
  x.units? == some 0

/-- The integer part, for numbers that have one. -/
def truncate? (x : Double) : Option Int :=
  x.units?.map (·.tdiv scale)

/-- Whether the number is finite and has no fraction. -/
def isIntegral (x : Double) : Bool :=
  x.units?.any fun (units : Int) => units % (scale : Int) == 0

/-- Order against an integer; a number that is not a number is below and above
nothing. -/
def lessThan (x : Double) (n : Int) : Bool :=
  match x with
  | infinity negative => negative
  | nan => false
  | other => other.units?.any fun units => decide (units < n * scale)

def atMost (x : Double) (n : Int) : Bool :=
  match x with
  | infinity negative => negative
  | nan => false
  | other => other.units?.any fun units => decide (units ≤ n * scale)

/-- Order of two numbers. -/
def below (x y : Double) : Bool :=
  match x, y with
  | nan, _ => false
  | _, nan => false
  | infinity negative, infinity negative' => negative && !negative'
  | infinity negative, _ => negative
  | _, infinity negative => !negative
  | x, y => decide (x.units?.getD 0 < y.units?.getD 0)

def negate : Double → Double
  | finite units => if units = 0 then negativeZero else finite (-units)
  | negativeZero => finite 0
  | infinity negative => infinity !negative
  | nan => nan

/-- A whole number of units, rounded; beyond the largest finite number it is infinite. -/
def ofUnits (units : Int) : Double :=
  match unitsOfRatio units.natAbs 1 with
  | some rounded => finite (if units < 0 then -(rounded : Int) else rounded)
  | none => infinity (decide (units < 0))

/-- The sum, rounded. -/
def add (x y : Double) : Double :=
  match x, y with
  | nan, _ => nan
  | _, nan => nan
  | infinity negative, infinity negative' => if negative = negative' then x else nan
  | infinity _, _ => x
  | _, infinity _ => y
  | negativeZero, y => y
  | x, negativeZero => x
  | finite a, finite b => ofUnits (a + b)

/-- The product, rounded. -/
def mul (x y : Double) : Double :=
  let negative := x.isNegative != y.isNegative
  match x.units?, y.units? with
  | some a, some b =>
      match unitsOfRatio (a.natAbs * b.natAbs) scale with
      | some units => signed negative units
      | none => infinity negative
  | _, _ => if x = nan || y = nan || x.isZero || y.isZero then nan else infinity negative

end Double

end MarkupLint
