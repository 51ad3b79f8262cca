import MarkupLint.Number.Shortest

/-!
How numbers are written: floating point numbers by their shortest digits, either
positionally or with a power of ten, and with a fixed count of places.
-/
namespace MarkupLint

/-- Decisions of a written form for floating point numbers. -/
structure NumberFormat where
  /-- Positional notation is used while the point stands above this place. -/
  leastPoint : Int
  /-- Positional notation is used up to this place of the point. -/
  greatestPoint : Int
  exponentWidth : Nat
  infinity : String
  nan : String

/-- Positional from `0.0001` to below `10 ^ 16`; an exponent has a sign and two digits. -/
def NumberFormat.plain : NumberFormat :=
  { leastPoint := -4, greatestPoint := 16, exponentWidth := 2, infinity := "inf", nan := "nan" }

/-- As `plain`, with the names that JSON text uses. -/
def NumberFormat.json : NumberFormat :=
  { NumberFormat.plain with infinity := "Infinity", nan := "NaN" }

namespace Double

def zeroText (count : Nat) : String :=
  String.ofList (List.replicate count '0')

def positional (digits : List Char) (point : Int) : String :=
  if point ≤ 0 then "0." ++ zeroText (-point).toNat ++ String.ofList digits
  else
    let whole := point.toNat
    if digits.length ≤ whole then
      String.ofList digits ++ zeroText (whole - digits.length) ++ ".0"
    else
      String.ofList (digits.take whole) ++ "." ++ String.ofList (digits.drop whole)

def scientific (format : NumberFormat) (digits : List Char) (point : Int) : String :=
  let exponent := point - 1
  let power := toString exponent.natAbs
  let fraction := digits.drop 1
  String.ofList (digits.take 1) ++
    (if fraction.isEmpty then "" else "." ++ String.ofList fraction) ++
    (if exponent < 0 then "e-" else "e+") ++
    zeroText (format.exponentWidth - power.length) ++ power

def magnitudeText (format : NumberFormat) (units : Nat) : String :=
  if units = 0 then "0.0"
  else
    let decimal := shortest units
    let digits := Nat.toDigits 10 decimal.digits
    if decimal.point ≤ format.leastPoint ∨ format.greatestPoint < decimal.point then
      scientific format digits decimal.point
    else positional digits decimal.point

def text (format : NumberFormat) : Double → String
  | nan => format.nan
  | infinity negative => (if negative then "-" else "") ++ format.infinity
  | negativeZero => "-" ++ magnitudeText format 0
  | finite units => (if units < 0 then "-" else "") ++ magnitudeText format units.natAbs

/-- With `places` decimal places, a tie going to the even digit. -/
def fixed (places : Nat) (x : Double) : String :=
  match x.units? with
  | none => x.text .plain
  | some units =>
      let scaled := roundQuotient (units.natAbs * Nat.pow 10 places) scale
      let digits := Nat.toDigits 10 scaled
      let padded := List.replicate (places + 1 - digits.length) '0' ++ digits
      let whole := padded.length - places
      (if x.isNegative then "-" else "") ++ String.ofList (padded.take whole) ++
        (if places = 0 then "" else "." ++ String.ofList (padded.drop whole))

end Double

end MarkupLint
