import MarkupLint.Number.Reader
import MarkupLint.Value.Basic

/-!
JSON text.  Objects keep the order of their keys, a repeated key keeps its first place
and its last value, and `NaN`, `Infinity` and `-Infinity` are numbers.
-/
namespace MarkupLint.Json

open MarkupLint.Text

def isSpace (c : Char) : Bool :=
  c == ' ' || c == '\t' || c == '\n' || c == '\r'

def skipSpace (text : List Char) : List Char :=
  text.dropWhile isSpace

/-- Four hexadecimal digits. -/
def code? (text : List Char) : Option (Nat × List Char) :=
  match text with
  | a :: b :: c :: d :: rest =>
      ([a, b, c, d].mapM hexValue?).map fun digits => (ofDigits 16 digits, rest)
  | _ => none

/-- A character by its code, the second half of a surrogate pair included. -/
def escapedCode? (text : List Char) : Option (Char × List Char) :=
  (code? text).bind fun (high, rest) =>
    let isHalf := 0xD800 ≤ high ∧ high < 0xE000
    let alone := some (if isHalf then Char.ofNat 0xFFFD else Char.ofNat high, rest)
    if 0xD800 ≤ high ∧ high < 0xDC00 then
      match rest with
      | '\\' :: 'u' :: more =>
          match code? more with
          | some (low, rest') =>
              if 0xDC00 ≤ low ∧ low < 0xE000 then
                some (Char.ofNat (0x10000 + (high - 0xD800) * 0x400 + (low - 0xDC00)), rest')
              else alone
          | none => alone
      | _ => alone
    else alone

def simpleEscape? : Char → Option Char
  | '"' => some '"'
  | '\\' => some '\\'
  | '/' => some '/'
  | 'b' => some (Char.ofNat 8)
  | 'f' => some (Char.ofNat 12)
  | 'n' => some '\n'
  | 'r' => some '\r'
  | 't' => some '\t'
  | _ => none

/-- A string from behind its opening quote.  `bound` is at least as long as the text, of which
each step takes a character or more. -/
def stringFrom? (bound done text : List Char) : Option (String × List Char) :=
  match bound, text with
  | _ :: bound, c :: rest =>
      if c = '"' then some (String.ofList done.reverse, rest)
      else if c = '\\' then
        match rest with
        | 'u' :: more =>
            (escapedCode? more).bind fun (d, after) => stringFrom? bound (d :: done) after
        | e :: more => (simpleEscape? e).bind fun d => stringFrom? bound (d :: done) more
        | [] => none
      else if c.toNat < 32 then none
      else stringFrom? bound (c :: done) rest
  | _, _ => none

/-- The rest of a string after its opening quote. -/
def stringBody? (text : List Char) : Option (String × List Char) :=
  stringFrom? text [] text

/-- A number: whole unless it has a fraction or an exponent. -/
def number? (text : List Char) : Option (Value × List Char) :=
  let (negative, body) :=
    match text with
    | '-' :: rest => (true, rest)
    | rest => (false, rest)
  let (whole, rest) := body.span isAsciiDigit
  let whole? :=
    match whole with
    | [] => none
    | '0' :: more => some (['0'], more ++ rest)
    | digits => some (digits, rest)
  whole?.bind fun (digits, rest) =>
    let (fraction, rest) :=
      match rest with
      | '.' :: more =>
          let (places, after) := more.span isAsciiDigit
          if places.isEmpty then ([], rest) else (places, after)
      | other => ([], other)
    let exponent : Option (Int × List Char) :=
      match rest with
      | mark :: more =>
          if mark = 'e' ∨ mark = 'E' then
            let (down, more) := Number.signOf more
            let (places, after) := more.span isAsciiDigit
            if places.isEmpty then none
            else
              let power : Int := Number.digitsValue places
              some (if down then -power else power, after)
          else none
      | [] => none
    match fraction, exponent with
    | [], none =>
        if Number.digitLimit < digits.length then none
        else
          let n : Int := Number.digitsValue digits
          some (.int (if negative then -n else n), rest)
    | fraction, exponent =>
        let (power, after) := exponent.getD (0, rest)
        let units := Number.digitsValue (digits ++ fraction)
        some (.float (.ofDecimal negative units (power - fraction.length)), after)

/-- A word such as `true`. -/
def literal? (text : List Char) : Option (Value × List Char) :=
  let words : List (String × Value) :=
    [("null", .null), ("true", .bool true), ("false", .bool false), ("NaN", .float .nan),
     ("Infinity", .float (.infinity false)), ("-Infinity", .float (.infinity true))]
  (words.find? fun word => word.1.toList.isPrefixOf text).map fun word =>
    (word.2, text.drop word.1.length)

/-- Why a text has no JSON value. -/
inductive ReadFault where
  | malformed
  /-- More containers inside each other than there is room for; the innermost is an object or
  an array. -/
  | tooDeep (object : Bool)
  deriving DecidableEq, Repr

def orMalformed {α : Type} : Option α → Except ReadFault α
  | some x => .ok x
  | none => .error .malformed

mutual

/-- A value; `room` says how many containers may stand inside each other. -/
def valueAt : Nat → Nat → List Char → Except ReadFault (Value × List Char)
  | 0, _, _ => .error .malformed
  | fuel + 1, room, text =>
      match text with
      | '"' :: rest => do
          let (s, after) ← orMalformed (stringBody? rest)
          return (.str s, after)
      | '[' :: rest =>
          match room with
          | 0 => .error (.tooDeep false)
          | room + 1 =>
              match skipSpace rest with
              | ']' :: after => .ok (.ofList [], after)
              | inner => (itemsAt fuel room [] inner).map fun (items, after) =>
                  (.ofList items, after)
      | '\x7b' :: rest =>
          match room with
          | 0 => .error (.tooDeep true)
          | room + 1 =>
              match skipSpace rest with
              | '\x7d' :: after => .ok (.ofEntries [], after)
              | inner => (fieldsAt fuel room [] inner).map fun (entries, after) =>
                  (.ofEntries entries, after)
      | text => orMalformed ((literal? text).orElse fun _ => number? text)

/-- Items up to the closing bracket, collected in reverse. -/
def itemsAt : Nat → Nat → List Value → List Char →
    Except ReadFault (List Value × List Char)
  | 0, _, _, _ => .error .malformed
  | fuel + 1, room, done, text => do
      let (item, rest) ← valueAt fuel room text
      match skipSpace rest with
      | ',' :: more => itemsAt fuel room (item :: done) (skipSpace more)
      | ']' :: after => return ((item :: done).reverse, after)
      | _ => throw .malformed

def fieldsAt : Nat → Nat → Entries → List Char → Except ReadFault (Entries × List Char)
  | 0, _, _, _ => .error .malformed
  | fuel + 1, room, done, text =>
      match text with
      | '"' :: rest => do
          let (name, rest) ← orMalformed (stringBody? rest)
          match skipSpace rest with
          | ':' :: more =>
              let (value, rest) ← valueAt fuel room (skipSpace more)
              let done := done.set (.str name) value
              match skipSpace rest with
              | ',' :: more => fieldsAt fuel room done (skipSpace more)
              | '\x7d' :: after => return (done, after)
              | _ => throw .malformed
          | _ => throw .malformed
      | _ => .error .malformed

end

/-- The one value that a text holds, with nothing but space around it. -/
def read (room : Nat) (text : String) : Except ReadFault Value := do
  let chars := text.toList
  let (value, rest) ← valueAt (chars.length + 1) room (skipSpace chars)
  if (skipSpace rest).isEmpty then return value else throw .malformed

/-- As `read`, with room for any text. -/
def read? (text : String) : Option Value :=
  (read text.length text).toOption

end MarkupLint.Json
