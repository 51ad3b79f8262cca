/-!
A place in a YAML text: what is still to be read, and the line and column it starts at.
Next line, line separator and paragraph separator end lines as a newline does, and a byte
order mark takes no column.
-/
namespace MarkupLint.Yaml

def isBreak (c : Char) : Bool :=
  c == '\n' || c == '\r' || c.toNat == 0x85 || c.toNat == 0x2028 || c.toNat == 0x2029

def isGap (c : Char) : Bool := c == ' ' || c == '\t'

/-- Nothing more on this line. -/
def endsLine (c : Option Char) : Bool := c.all isBreak

/-- A gap or the end of a line. -/
def endsWord (c : Option Char) : Bool := c.all fun c => isGap c || isBreak c

/-- A space or the end of a line. -/
def endsItem (c : Option Char) : Bool := c.all fun c => c == ' ' || isBreak c

def byteOrderMark : Char := Char.ofNat 0xFEFF

structure Cursor where
  rest : List Char
  /-- How many characters are still to be read. -/
  left : Nat
  index : Nat := 0
  line : Nat := 0
  column : Nat := 0

namespace Cursor

/-- The beginning of a text. -/
def ofText (text : List Char) : Cursor :=
  { rest := text, left := text.length }

def peek (c : Cursor) : Option Char := c.rest.head?

def peekAt (c : Cursor) (n : Nat) : Option Char := c.rest[n]?

def next (c : Cursor) : Cursor :=
  match c.rest with
  | [] => c
  | ch :: rest =>
      let (line, column) :=
        if isBreak ch then (c.line + 1, 0)
        else (c.line, if ch = byteOrderMark then c.column else c.column + 1)
      { rest := rest, left := c.left - 1, index := c.index + 1, line := line, column := column }

def skip : Nat → Cursor → Cursor
  | 0, c => c
  | n + 1, c => skip n c.next

/-- The characters up to the first that fails a test, and the place after them. -/
def takeWhile (p : Char → Bool) (c : Cursor) : List Char × Cursor :=
  let taken := c.rest.takeWhile p
  (taken, c.skip taken.length)

def skipWhile (p : Char → Bool) (c : Cursor) : Cursor :=
  (c.takeWhile p).2

def skipSpaces (c : Cursor) : Cursor :=
  c.skipWhile (· == ' ')

/-- Skip a comment, if one starts here. -/
def skipComment (c : Cursor) : Cursor :=
  if c.peek == some '#' then c.skipWhile (!isBreak ·) else c

/-- What a line end stands for in text, and the place after it. -/
def lineBreak? (c : Cursor) : Option (Char × Cursor) :=
  match c.peek with
  | some ch =>
      if isBreak ch then
        some (if ch.toNat = 0x2028 ∨ ch.toNat = 0x2029 then ch else '\n', c.next)
      else none
  | none => none

/-- Three dashes or three dots as a word of their own. -/
def atMarker (mark : Char) (c : Cursor) : Bool :=
  c.rest.take 3 == [mark, mark, mark] && endsWord (c.peekAt 3)

/-- Whether a document starts or ends here, at the beginning of a line. -/
def atSeparator (c : Cursor) : Bool :=
  c.atMarker '-' || c.atMarker '.'

/-- Spaces to a column at most. -/
def skipToColumn (column : Nat) (c : Cursor) : Cursor :=
  c.skip ((c.rest.takeWhile (· == ' ')).length.min (column - c.column))

end Cursor

end MarkupLint.Yaml
