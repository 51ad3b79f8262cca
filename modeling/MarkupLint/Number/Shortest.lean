import MarkupLint.Number.Double

/-!
The shortest decimal that reads back as a given number: of all decimals that round to
it, one with the fewest digits, and of those the nearest to it.

With at most `count` digits the candidates are the number's two neighbours on the grid
of decimals of that many digits; seventeen digits always suffice.
-/
namespace MarkupLint.Double

/-- Decimal digits and the place of the point: `0.d₁d₂… * 10 ^ point`. -/
structure Decimal where
  digits : Nat
  point : Int
  deriving Repr

/-- The reals that round to a number, in quarters of a unit. -/
structure Rounding where
  low : Nat
  value : Nat
  high : Nat
  closed : Bool

def rounding (units : Nat) : Rounding :=
  let step := Nat.pow 2 (stepBits units)
  let significand := units / step
  let below := if significand = Nat.pow 2 52 ∧ 1 < step then step else 2 * step
  { low := 4 * units - below, value := 4 * units, high := 4 * units + 2 * step,
    closed := significand % 2 == 0 }

/-- Whether `candidate * 10 ^ grid` rounds to the number. -/
def Rounding.accepts (r : Rounding) (candidate : Nat) (grid : Int) : Bool :=
  let up := Nat.pow 10 grid.toNat
  let down := Nat.pow 10 (-grid).toNat
  let place := candidate * up * scale * 4
  let low := r.low * down
  let high := r.high * down
  if r.closed then decide (low ≤ place) && decide (place ≤ high)
  else decide (low < place) && decide (place < high)

/-- Distance of `candidate * 10 ^ grid` from the number, in a common measure. -/
def Rounding.distance (r : Rounding) (candidate : Nat) (grid : Int) : Nat :=
  let place := candidate * Nat.pow 10 grid.toNat * scale * 4
  let value := r.value * Nat.pow 10 (-grid).toNat
  (place - value) + (value - place)

def Rounding.nearest? (r : Rounding) (grid : Int) : Option Nat :=
  let lower := r.value * Nat.pow 10 (-grid).toNat / (Nat.pow 10 grid.toNat * scale * 4)
  match r.accepts lower grid, r.accepts (lower + 1) grid with
  | true, true =>
      let down := r.distance lower grid
      let up := r.distance (lower + 1) grid
      some (if up < down ∨ (up = down ∧ lower % 2 = 1) then lower + 1 else lower)
  | true, false => some lower
  | false, true => some (lower + 1)
  | false, false => none

/-- The power of ten just above a positive number below one. -/
def smallPoint (units : Nat) : Nat → Nat → Int
  | 0, zeros => -(zeros : Int)
  | fuel + 1, zeros =>
      if scale ≤ units * Nat.pow 10 (zeros + 1) then -(zeros : Int)
      else smallPoint units fuel (zeros + 1)

/-- The place of the decimal point of a positive number. -/
def pointOf (units : Nat) : Int :=
  if scale ≤ units then (Nat.toDigits 10 (units / scale)).length else smallPoint units 330 0

def shortestFrom (r : Rounding) (point : Int) : Nat → Nat → Decimal
  | 0, count => ⟨r.value * Nat.pow 10 (count : Int).toNat, point⟩
  | fuel + 1, count =>
      match r.nearest? (point - count) with
      | some digits => ⟨digits, point - count + (Nat.toDigits 10 digits).length⟩
      | none => shortestFrom r point fuel (count + 1)

def dropZeros : Nat → Nat → Nat
  | 0, n => n
  | fuel + 1, n => if n % 10 = 0 ∧ n ≠ 0 then dropZeros fuel (n / 10) else n

/-- The shortest decimal of a positive number of units. -/
def shortest (units : Nat) : Decimal :=
  let decimal := shortestFrom (rounding units) (pointOf units) 17 1
  { decimal with digits := dropZeros 20 decimal.digits }

end MarkupLint.Double
