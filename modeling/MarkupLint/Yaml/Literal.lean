import MarkupLint.Text.Base64
import MarkupLint.Text.Case
import MarkupLint.Value.Convert
import MarkupLint.Yaml.Tag
import MarkupLint.Yaml.Time

/-!
What the text of a scalar holds under its tag.

A tag may be given to any text, so that each reader has its own way of failing.  Numbers
follow the general rules of numbers in text once their underscores, their sign and the mark
of their base are taken off.
-/
namespace MarkupLint.Yaml

open MarkupLint.Text

def withoutUnderscores (text : String) : List Char :=
  text.toList.filter (· != '_')

/-- A sign, if there is one, and the rest. -/
def signed (text : List Char) : Except Fault (Bool × List Char) :=
  match text with
  | [] => .error .emptyNumber
  | '-' :: rest => .ok (true, rest)
  | '+' :: rest => .ok (false, rest)
  | rest => .ok (false, rest)

def lift {α : Type} : Except ConversionError α → Except Fault α
  | .ok x => .ok x
  | .error e => .error (.conversion e)

/-! ### Whole numbers -/

def inBase (base : Nat) (text : List Char) : Except Fault Int :=
  lift (Value.wholeInBase base (.str (String.ofList text)) text)

/-- Places in base sixty, the first one the highest. -/
def sixtieths (places : List Int) : Int :=
  places.foldl (fun total place => total * 60 + place) 0

def unsignedInt (text : List Char) : Except Fault Int :=
  match text with
  | ['0'] => .ok 0
  | '0' :: 'b' :: rest => inBase 2 rest
  | '0' :: 'x' :: rest => inBase 16 rest
  | '0' :: rest => inBase 8 ('0' :: rest)
  | [] => .error .emptyNumber
  | text =>
      if text.contains ':' then ((Plain.places text).mapM (inBase 10)).map sixtieths
      else inBase 10 text

def intOf (text : String) : Except Fault Int := do
  let (negative, body) ← signed (withoutUnderscores text)
  let n ← unsignedInt body
  return if negative then -n else n

/-! ### Real numbers -/

def real (text : List Char) : Except Fault Double :=
  lift (Value.realOfChars (.str (String.ofList text)) text)

/-- The sum of places in base sixty, the last one first. -/
def sumOfPlaces (total : Double) (base : Nat) : List Double → Except Fault Double
  | [] => .ok total
  | place :: rest =>
      match Double.ofInt? base with
      | none => .error (.conversion .tooLargeForReal)
      | some weight => sumOfPlaces (total.add (place.mul weight)) (base * 60) rest

def unsignedFloat (text : List Char) : Except Fault Double :=
  if String.ofList text = ".inf" then .ok (.infinity false)
  else if text.contains ':' then do
    let places ← (Plain.places text).mapM real
    sumOfPlaces (.ofNat 0) 1 places.reverse
  else real text

/-- A real number.  What is no number without being written as the constant for that is known
by where it comes from. -/
def floatOf (label : Label) (text : String) : Except Fault Scalar := do
  let (negative, body) ← signed (lower (withoutUnderscores text))
  if String.ofList body = ".nan" then return .nan none
  let x ← unsignedFloat body
  if x = .nan then return .nan (some label)
  return .float (if negative then x.negate else x)

/-! ### Other scalars -/

def boolOf (text : String) : Except Fault Bool :=
  let word := lowered text
  if ["yes", "true", "on"].contains word then .ok true
  else if ["no", "false", "off"].contains word then .ok false
  else .error (.notATruthValue word)

/-- The parts of a point in time; a newline at the end does not count. -/
def partsOf? (text : List Char) : Option Time.Parts :=
  (Time.parts? text).or
    (if text.getLast? = some '\n' then Time.parts? text.dropLast else none)

def timeOf (text : String) : Except Fault Timestamp :=
  match partsOf? text.toList with
  | none => .error .notATime
  | some parts =>
      match Time.timestamp parts with
      | .ok t => .ok t
      | .error fault => .error (.date fault)

def bytesOf (text : String) : Except Fault (List UInt8) :=
  if text.toList.all fun c => c.toNat < 128 then
    ((Base64.decode? text.toList).map .ok).getD (.error .malformed)
  else .error .malformed

/-- What a text holds under a tag; `label` is where it stands. -/
def scalarOf (label : Label) (tag : Tag) (text : String) : Except Fault Scalar :=
  match tag with
  | .null => .ok .null
  | .bool => (boolOf text).map .bool
  | .int => (intOf text).map .int
  | .float => floatOf label text
  | .str => .ok (.str text)
  | .time => (timeOf text).map (.time label)
  | .bytes => (bytesOf text).map .bytes
  | _ => .error .malformed

end MarkupLint.Yaml
