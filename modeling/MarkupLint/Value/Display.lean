import MarkupLint.Number.Layout
import MarkupLint.Number.Reader
import MarkupLint.Text.Digit
import MarkupLint.Text.Printable
import MarkupLint.Value.Basic

/-!
The text of a value.  `display` is what a message shows for a value on its own;
`quoted` is its form inside containers and error messages, where texts carry quotes.
-/
namespace MarkupLint

namespace Text

/-- Escape of a character that cannot be shown, by the width its code needs. -/
def codeEscape (c : Char) : String :=
  let n := c.toNat
  if n < 0x100 then "\\x" ++ hexText false 2 n
  else if n < 0x10000 then "\\u" ++ hexText false 4 n
  else "\\U" ++ hexText false 8 n

def quotedChar (quote c : Char) : String :=
  if c = quote ∨ c = '\\' then String.ofList ['\\', c]
  else if c = '\n' then "\\n"
  else if c = '\r' then "\\r"
  else if c = '\t' then "\\t"
  else if isPrintable c then String.singleton c
  else codeEscape c

/-- A text in single quotes, or in double quotes when that saves escaping. -/
def quoted (text : String) : String :=
  let chars := text.toList
  let quote := if chars.contains '\'' && !chars.contains '"' then '"' else '\''
  let mark := String.singleton quote
  mark ++ String.join (chars.map (quotedChar quote)) ++ mark

end Text

def padded (width n : Nat) : String :=
  let digits := toString n
  Double.zeroText (width - digits.length) ++ digits

def Date.text (d : Date) : String :=
  padded 4 d.year ++ "-" ++ padded 2 d.month ++ "-" ++ padded 2 d.day

def ClockTime.text (t : ClockTime) : String :=
  padded 2 t.hour ++ ":" ++ padded 2 t.minute ++ ":" ++ padded 2 t.second ++
    (if t.micros = 0 then "" else "." ++ padded 6 t.micros) ++
    match t.offset with
    | none => ""
    | some minutes =>
        (if minutes < 0 then "-" else "+") ++ padded 2 (minutes.natAbs / 60) ++ ":" ++
          padded 2 (minutes.natAbs % 60)

/-- Date and time with a space between them. -/
def Timestamp.text (t : Timestamp) : String :=
  match t.time with
  | none => t.date.text
  | some time => t.date.text ++ " " ++ time.text

def ClockTime.arguments (t : ClockTime) : List String :=
  [toString t.hour, toString t.minute] ++
    (if t.second = 0 ∧ t.micros = 0 then [] else [toString t.second]) ++
    (if t.micros = 0 then [] else [toString t.micros]) ++
    match t.offset with
    | none => []
    | some 0 => ["tzinfo=datetime.timezone.utc"]
    | some minutes =>
        let (days, seconds) :=
          if minutes < 0 then (-1, (minutes + 1440) * 60) else (0, minutes * 60)
        let parts := (if days = 0 then [] else ["days=" ++ toString days]) ++
          (if seconds = 0 then [] else ["seconds=" ++ toString seconds])
        ["tzinfo=datetime.timezone(datetime.timedelta(" ++ ", ".intercalate parts ++ "))"]

def Timestamp.quoted (t : Timestamp) : String :=
  let date := [toString t.date.year, toString t.date.month, toString t.date.day]
  match t.time with
  | none => "datetime.date(" ++ ", ".intercalate date ++ ")"
  | some time => "datetime.datetime(" ++ ", ".intercalate (date ++ time.arguments) ++ ")"

/-- Bytes in quotes: those of visible ASCII characters as these, the others escaped. -/
def quotedBytes (bytes : List UInt8) : String :=
  let chars := bytes.map fun b => Char.ofNat b.toNat
  let quote := if chars.contains '\'' && !chars.contains '"' then '"' else '\''
  let shown (c : Char) : String :=
    if 126 < c.toNat then Text.codeEscape c else Text.quotedChar quote c
  "b" ++ String.singleton quote ++ String.join (chars.map shown) ++ String.singleton quote

def Scalar.display : Scalar → String
  | .null => "None"
  | .bool b => if b then "True" else "False"
  | .int n => toString n
  | .float x => x.text .plain
  | .nan _ => Double.nan.text .plain
  | .str s => s
  | .bytes b => quotedBytes b
  | .time _ t => t.text

def Scalar.quoted : Scalar → String
  | .str s => Text.quoted s
  | .time _ t => t.quoted
  | s => s.display

/-- Whether a scalar has a text; very long whole numbers have none. -/
def Scalar.isWritable : Scalar → Bool
  | .int n => Number.isWritable n
  | _ => true

namespace Value

/-- Whether a container is one of those that are open. -/
def isOpen (around : List Label) (label : Option Label) : Bool :=
  label.any around.contains

mutual

/-- The text of a value inside containers, given by their labels.  Dots stand for a
container inside itself. -/
def quotedWithin (around : List Label) : Value → String
  | .scalar s => s.quoted
  | .list label items =>
      if isOpen around label then "[...]"
      else "[" ++ ", ".intercalate (quotedItems (label.toList ++ around) items) ++ "]"
  | .pair label a b =>
      if around.contains label then "(...)"
      else
        "(" ++ quotedWithin (label :: around) a ++ ", " ++ quotedWithin (label :: around) b ++ ")"
  | .set _ members =>
      if members.isEmpty then "set()"
      else "\x7b" ++ ", ".intercalate (members.map Scalar.quoted) ++ "\x7d"
  | .map label entries =>
      if isOpen around label then "\x7b...\x7d"
      else
        "\x7b" ++ ", ".intercalate (quotedEntries (label.toList ++ around) entries) ++ "\x7d"
  | .again _ mapping => if mapping then "\x7b...\x7d" else "[...]"

def quotedItems (around : List Label) : List Value → List String
  | [] => []
  | item :: rest => quotedWithin around item :: quotedItems around rest

def quotedEntries (around : List Label) : List (Scalar × Value) → List String
  | [] => []
  | (key, value) :: rest =>
      (key.quoted ++ ": " ++ quotedWithin around value) :: quotedEntries around rest

end

def quoted (value : Value) : String := quotedWithin [] value

mutual

/-- Whether all scalars in a value have texts. -/
def isWritable : Value → Bool
  | .scalar s => s.isWritable
  | .list _ items => areWritable items
  | .pair _ a b => isWritable a && isWritable b
  | .set _ members => members.all Scalar.isWritable
  | .map _ entries => areWritableEntries entries
  | .again _ _ => true

def areWritable : List Value → Bool
  | [] => true
  | item :: rest => isWritable item && areWritable rest

def areWritableEntries : List (Scalar × Value) → Bool
  | [] => true
  | (key, value) :: rest => key.isWritable && isWritable value && areWritableEntries rest

end

def display : Value → String
  | .scalar s => s.display
  | value => value.quoted

end Value

end MarkupLint
