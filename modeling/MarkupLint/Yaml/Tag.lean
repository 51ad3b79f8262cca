import MarkupLint.Text.Digit

/-!
What a plain scalar is taken for, by its spelling.  The spellings that mean the same number
in several ways are all recognised: binary, octal and hexadecimal integers, and numbers in
base sixty with colons between the places.
-/
namespace MarkupLint.Yaml

open MarkupLint.Text

inductive Tag where
  | null
  | bool
  | int
  | float
  | str
  | time
  /-- Bytes, in base 64. -/
  | bytes
  /-- The key under which other mappings are merged in. -/
  | merge
  /-- A lone equals sign. -/
  | default
  | sequence
  | mapping
  | set
  /-- A sequence of mappings of one key each. -/
  | pairs
  | other (name : String)
  deriving DecidableEq, Repr, Inhabited

/-- The standard tags are written with this before their names. -/
def standardPrefix : String := "tag:yaml.org,2002:"

def Tag.ofName (name : String) : Tag :=
  let own := (name.toList.drop standardPrefix.length)
  if standardPrefix.toList.isPrefixOf name.toList then
    match String.ofList own with
    | "null" => .null
    | "bool" => .bool
    | "int" => .int
    | "float" => .float
    | "str" => .str
    | "timestamp" => .time
    | "binary" => .bytes
    | "merge" => .merge
    | "value" => .default
    | "seq" => .sequence
    | "map" => .mapping
    | "set" => .set
    | "omap" | "pairs" => .pairs
    | _ => .other name
  else .other name

namespace Plain

/-- Marks that cannot stand for themselves. -/
def reserved : List String := ["!", "&", "*"]

def truthWords : List String :=
  ["yes", "Yes", "YES", "true", "True", "TRUE", "on", "On", "ON"]

def untruthWords : List String :=
  ["no", "No", "NO", "false", "False", "FALSE", "off", "Off", "OFF"]

def nullWords : List String := ["~", "null", "Null", "NULL", ""]

def unsigned : List Char → List Char
  | '+' :: rest => rest
  | '-' :: rest => rest
  | text => text

def isDigitOf (base : Nat) (c : Char) : Bool :=
  (hexValue? c).any (· < base) || c == '_'

/-- A place in base sixty: one digit, or two of which the first is below six. -/
def isSixtieth : List Char → Bool
  | [d] => isAsciiDigit d
  | [d, e] => '0' ≤ d && d ≤ '5' && isAsciiDigit e
  | _ => false

/-- The pieces between colons. -/
def places : List Char → List (List Char)
  | [] => [[]]
  | c :: rest =>
      match places rest with
      | [] => [[c]]
      | piece :: more => if c = ':' then [] :: piece :: more else (c :: piece) :: more

/-- A digit, then digits and underscores. -/
def isCount (text : List Char) : Bool :=
  text.head?.any isAsciiDigit && text.all (isDigitOf 10)

def isInt (text : List Char) : Bool :=
  match unsigned text with
  | '0' :: 'b' :: rest => !rest.isEmpty && rest.all (isDigitOf 2)
  | '0' :: 'x' :: rest => !rest.isEmpty && rest.all (isDigitOf 16)
  | '0' :: rest => rest.all (isDigitOf 8)
  | rest =>
      match places rest with
      | first :: more => isCount first && more.all isSixtieth
      | [] => false

/-- Nothing, or an exponent with a sign. -/
def isExponent : List Char → Bool
  | [] => true
  | mark :: sign :: rest =>
      (mark == 'e' || mark == 'E') && (sign == '+' || sign == '-') && !rest.isEmpty &&
        rest.all isAsciiDigit
  | _ => false

/-- A point, digits and underscores, and an exponent if one is allowed. -/
def isFraction (exponent : Bool) : List Char → Bool
  | '.' :: rest =>
      let after := rest.dropWhile (isDigitOf 10)
      if exponent then isExponent after else after.isEmpty
  | _ => false

/-- Digits with a point, the last of several places in base sixty. -/
def isSixtiethFraction (text : List Char) : Bool :=
  isSixtieth (text.takeWhile (· != '.')) && isFraction false (text.dropWhile (· != '.'))

def isFloat (text : List Char) : Bool :=
  let body := unsigned text
  let whole := body.takeWhile (isDigitOf 10)
  (isCount whole && isFraction true (body.drop whole.length)) ||
    (text.head? == some '.' && text[1]?.any isAsciiDigit && isFraction true text) ||
    (match places body with
      | first :: second :: more =>
          isCount first &&
            ((second :: more).dropLast.all isSixtieth) &&
            ((second :: more).getLast?.any isSixtiethFraction)
      | _ => false) ||
    [".inf", ".Inf", ".INF"].contains (String.ofList body) ||
    [".nan", ".NaN", ".NAN"].contains (String.ofList text)

end Plain

end MarkupLint.Yaml
