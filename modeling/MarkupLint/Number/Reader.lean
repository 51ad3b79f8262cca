import MarkupLint.Number.Double
import MarkupLint.Text.Blank
import MarkupLint.Text.Digit

/-!
Reading numbers from text.  Surrounding white space is dropped, digits of any script
count, and a single underscore may stand between two digits.
-/
namespace MarkupLint.Number

open MarkupLint.Text

/-- White space around a number: that of ASCII without the separators of records, and all
beyond ASCII. -/
def isSpace (c : Char) : Bool :=
  let n := c.toNat
  n == 32 || (9 ≤ n && n ≤ 13) || (127 < n && isBlank c)

/-- Digits of every script as ASCII digits. -/
def asciiDigits (chars : List Char) : List Char :=
  chars.map fun c =>
    match digitValue? c with
    | some value => Char.ofNat (48 + value)
    | none => c

def trimSpace (chars : List Char) : List Char :=
  ((chars.dropWhile isSpace).reverse.dropWhile isSpace).reverse

/-- Drop the underscores of a text in which each stands between two digits. -/
def joinDigits? : Option Char → List Char → Option (List Char)
  | _, [] => some []
  | before, c :: rest =>
      if c = '_' then
        if before.any isAsciiDigit && rest.head?.any isAsciiDigit then joinDigits? (some c) rest
        else none
      else (joinDigits? (some c) rest).map (c :: ·)

/-- Split a leading sign off. -/
def signOf : List Char → Bool × List Char
  | '-' :: rest => (true, rest)
  | '+' :: rest => (false, rest)
  | text => (false, text)

def digitsValue (digits : List Char) : Nat :=
  ofDigits 10 (digits.map fun c => c.toNat - 48)

/-- Digits that a whole number may have in text. -/
def digitLimit : Nat := 4300

/-- Whether a whole number can be written as text. -/
def isWritable (n : Int) : Bool :=
  decide (n.natAbs < Nat.pow 10 digitLimit)

inductive IntError where
  | malformed
  | tooManyDigits (count : Nat)
  deriving DecidableEq, Repr

/-- Drop the mark of a base, after which an underscore may stand. -/
def dropBaseMark (base : Nat) (chars : List Char) : List Char :=
  let marks : List Char :=
    match base with
    | 2 => ['b', 'B']
    | 8 => ['o', 'O']
    | 16 => ['x', 'X']
    | _ => []
  match chars with
  | '0' :: mark :: rest =>
      if marks.contains mark then (if rest.head? = some '_' then rest.drop 1 else rest) else chars
  | _ => chars

/-- Whether every underscore stands between two characters that are none. -/
def joinsDigits : List Char → Bool
  | [] => true
  | ['_'] => false
  | '_' :: '_' :: _ => false
  | _ :: rest => joinsDigits rest

def isDigitBelow (base : Nat) (c : Char) : Bool :=
  (hexValue? c).any (· < base)

/-- A whole number in digits of a base, with a sign and the mark of the base if they are
there.  Only decimal digits are limited in number. -/
def readInt (base : Nat) (text : List Char) : Except IntError Int :=
  let (negative, body) := signOf ((asciiDigits text).dropWhile isSpace)
  let body := dropBaseMark base body
  let run := body.takeWhile fun c => c == '_' || isDigitBelow base c
  let digits := run.filter (· != '_')
  if body.head? = some '_' || !joinsDigits run then .error .malformed
  else if base = 10 && digitLimit < digits.length then .error (.tooManyDigits digits.length)
  else if digits.isEmpty || !(body.drop run.length).all isSpace then .error .malformed
  else
    let value : Int := ofDigits base (digits.filterMap hexValue?)
    .ok (if negative then -value else value)

/-- An optional exponent: nothing, or `e`, a sign and digits, up to the end. -/
def exponent? : List Char → Option Int
  | [] => some 0
  | mark :: rest =>
      if mark = 'e' ∨ mark = 'E' then
        let (negative, digits) := signOf rest
        if digits.isEmpty || !digits.all isAsciiDigit then none
        else some (if negative then -(digitsValue digits : Int) else digitsValue digits)
      else none

/-- Digits with an optional point and exponent; one digit before the exponent is
needed. -/
def unsignedDouble? (negative : Bool) (chars : List Char) : Option Double :=
  let (whole, rest) := chars.span isAsciiDigit
  let (fraction, rest) :=
    match rest with
    | '.' :: rest => rest.span isAsciiDigit
    | rest => ([], rest)
  if whole.isEmpty && fraction.isEmpty then none
  else (exponent? rest).map fun exponent =>
    Double.ofDecimal negative (digitsValue (whole ++ fraction)) (exponent - fraction.length)

/-- A floating point number; infinity and "not a number" may be spelled out. -/
def readDouble? (text : List Char) : Option Double :=
  (joinDigits? none (trimSpace (asciiDigits text))).bind fun chars =>
    let (negative, body) := signOf chars
    let word := String.ofList (body.map Char.toLower)
    if word = "inf" ∨ word = "infinity" then some (.infinity negative)
    else if word = "nan" then some .nan
    else unsignedDouble? negative body

end MarkupLint.Number
