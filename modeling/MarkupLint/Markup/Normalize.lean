import MarkupLint.Text.Blank
import MarkupLint.Text.Digit
import MarkupLint.Text.Scan

/-!
Raw text as it is checked: one quote taken off at either end, named entities replaced
by a space, wrapped lines joined, white space collapsed, and the ends trimmed.
-/
namespace MarkupLint.Normalize

open MarkupLint.Text

def isQuote (c : Char) : Bool :=
  c == '\'' || c == '"' || c.toNat == 0x60

/-- Drop a quote that is the last character or stands right before a final newline. -/
def dropClosingQuote : List Char → List Char
  | [] => []
  | c :: rest =>
      if isQuote c && (rest.isEmpty || rest == ['\n']) then rest else c :: dropClosingQuote rest

/-- The opening quote, if there is one, is never taken for the closing one. -/
def stripQuotes (text : List Char) : List Char :=
  match text with
  | [] => []
  | c :: rest => if isQuote c then dropClosingQuote rest else dropClosingQuote (c :: rest)

/-- An ampersand, letters and a semicolon. -/
def entity? : Recogniser (List Char)
  | '&' :: rest =>
      let letters := rest.takeWhile isAsciiLetter
      if !letters.isEmpty && (rest.drop letters.length).head? == some ';' then
        some ([' '], letters.length + 1)
      else none
  | _ => none

/-- A newline and the white space after it, of which there is some. -/
def wrappedLine? : Recogniser (List Char)
  | '\n' :: rest =>
      let blanks := rest.takeWhile isBlank
      if blanks.isEmpty then none else some ([' '], blanks.length)
  | _ => none

/-- White space of at least two characters. -/
def blankRun? : Recogniser (List Char)
  | c :: rest =>
      let blanks := rest.takeWhile isBlank
      if isBlank c && !blanks.isEmpty then some ([' '], blanks.length) else none
  | [] => none

def normalize (raw : List Char) : List Char :=
  trim (substitute blankRun? (substitute wrappedLine? (substitute entity? (stripQuotes raw))))

/-- Only text with a letter in it is worth checking. -/
def isCheckable (text : List Char) : Bool :=
  text.any isAsciiLetter

def normalized (raw : String) : String :=
  String.ofList (normalize raw.toList)

end MarkupLint.Normalize
