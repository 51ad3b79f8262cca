import MarkupLint.Text.Digit
import MarkupLint.Yaml.Page

/-!
How scalars are written: plain where the text reads back as itself, else in single quotes,
and in double quotes where characters have to be escaped or blank space would be lost.
-/
namespace MarkupLint.Yaml

open MarkupLint.Text

inductive Style where
  | plain
  | single
  | double
  deriving DecidableEq, Repr

namespace Style

def isBreak (c : Char) : Bool :=
  c = '\n' || c.toNat == 0x85 || c.toNat == 0x2028 || c.toNat == 0x2029

/-- The characters that set a mark apart from what follows it. -/
def isGap (c : Char) : Bool :=
  c = ' ' || c = '\t' || c = '\r' || c.toNat == 0 || isBreak c

/-- The characters that can stand without an escape, wherever they stand. -/
def isOpen (c : Char) : Bool :=
  let n := c.toNat
  c = '\n' || (0x20 ≤ n && n ≤ 0x7E) || n == 0x85 ||
    (((0xA0 ≤ n && n ≤ 0xD7FF) || (0xE000 ≤ n && n ≤ 0xFFFD) || (0x10000 ≤ n && n < 0x10FFFF)) &&
      n != 0xFEFF)

/-- Characters that mean something at the beginning of a scalar. -/
def openers : List Char :=
  ['#', ',', '[', ']', '\x7b', '\x7d', '&', '*', '!', '|', '>', '\'', '"', '%', '@', '\x60']

/-- Characters that mean something at the beginning when a gap follows. -/
def bullets : List Char := ['?', ':', '-']

def gapFollows (rest : List Char) : Bool :=
  rest.head?.all isGap

/-- Whether a colon before a gap, or a hash after one, stands behind the first character. -/
def hasInnerMark : Char → List Char → Bool
  | _, [] => false
  | before, c :: rest =>
      (c == ':' && gapFollows rest) || (c == '#' && isGap before) || hasInnerMark c rest

/-- Whether a text would be taken for more than a scalar. -/
def hasMarks (text : List Char) : Bool :=
  match text with
  | [] => false
  | c :: rest =>
      "---".toList.isPrefixOf text || "...".toList.isPrefixOf text || openers.contains c ||
        (bullets.contains c && gapFollows rest) || hasInnerMark c rest

/-- Neighbours of which the first and the second satisfy a condition each. -/
def hasPair (first second : Char → Bool) (text : List Char) : Bool :=
  (text.zip text.tail).any fun pair => first pair.1 && second pair.2

def isSpace (c : Char) : Bool := c == ' '

/-- Blank space at either end. -/
def isPadded (text : List Char) : Bool :=
  text.head?.any (fun c => isSpace c || isBreak c) ||
    text.getLast?.any fun c => isSpace c || isBreak c

def isMultiline (text : List Char) : Bool :=
  text.any isBreak

/-- Whether single quotes keep the text as it is. -/
def allowsSingle (text : List Char) : Bool :=
  text.all isOpen && !hasPair isBreak isSpace text && !hasPair isSpace isBreak text

/-- Whether the text can do without quotes. -/
def allowsPlain (text : List Char) : Bool :=
  allowsSingle text && !isPadded text && !isMultiline text && !hasMarks text

/-- The style of a scalar.  A key before a colon has to stay on its line; `readsBack` says
whether the plain text is taken for what it is. -/
def choose (key readsBack : Bool) (text : List Char) : Style :=
  if readsBack && allowsPlain text && !(key && text.isEmpty) then .plain
  else if allowsSingle text && !(key && isMultiline text) then .single
  else .double

end Style

/-! ### Text in a style -/

/-- Pieces of a text: spaces, line breaks, and what is neither. -/
inductive Piece where
  | spaces
  | breaks
  | words
  deriving DecidableEq, Repr

def Piece.of (c : Char) : Piece :=
  if Style.isSpace c then .spaces else if Style.isBreak c then .breaks else .words

/-- A text as its longest pieces of one kind each. -/
def pieces : List Char → List (Piece × List Char)
  | [] => []
  | c :: rest =>
      match pieces rest with
      | (kind, chars) :: others =>
          if kind = Piece.of c then (kind, c :: chars) :: others
          else (Piece.of c, [c]) :: (kind, chars) :: others
      | [] => [(Piece.of c, [c])]

namespace Page

/-- Whether a line is folded at these spaces. -/
def folds (split : Bool) (spaces : List Char) (page : Page) : Bool :=
  split && spaces.length == 1 && width < page.column

def putPlain (split : Bool) (indent : Nat) (text : List Char) (page : Page) : Page :=
  (pieces text).foldl (fun page piece =>
    if piece.1 = .spaces && page.folds split piece.2 then (page.indentTo indent).settle
    else page.put piece.2) page.space.settle

/-- Line breaks in quotes: the first one is written twice, since a lone break is a space. -/
def putBreaks (indent : Nat) (breaks : List Char) (page : Page) : Page :=
  let page := if breaks.head? = some '\n' then page.breakLine else page
  (breaks.foldl (fun page c => page.breakWith c) page).indentTo indent

/-- A quote inside single quotes is written twice. -/
def doubled (text : List Char) : List Char :=
  text.flatMap fun c => if c = '\'' then [c, c] else [c]

def putSinglePieces (split : Bool) (indent : Nat) :
    Bool → List (Piece × List Char) → Page → Page
  | _, [], page => page
  | first, (kind, chars) :: rest, page =>
      let page :=
        match kind with
        | .spaces =>
            if !first && !rest.isEmpty && page.folds split chars then page.indentTo indent
            else page.put chars
        | .breaks => page.putBreaks indent chars
        | .words => page.put (doubled chars)
      putSinglePieces split indent false rest page

def putSingle (split : Bool) (indent : Nat) (text : List Char) (page : Page) : Page :=
  (putSinglePieces split indent true (pieces text) (page.mark "'")).close "'"

/-- Escapes that have a letter. -/
def letterEscapes : List (Nat × Char) :=
  [(0, '0'), (7, 'a'), (8, 'b'), (9, 't'), (10, 'n'), (11, 'v'), (12, 'f'), (13, 'r'),
   (0x1B, 'e'), (0x22, '"'), (0x5C, '\\'), (0x85, 'N'), (0xA0, '_'), (0x2028, 'L'), (0x2029, 'P')]

/-- Whether a character is written as itself in double quotes. -/
def isBare (c : Char) : Bool :=
  let n := c.toNat
  ((0x20 ≤ n && n ≤ 0x7E) || (0xA0 ≤ n && n ≤ 0xD7FF) || (0xE000 ≤ n && n ≤ 0xFFFD)) &&
    n != 0x22 && n != 0x5C && n != 0x2028 && n != 0x2029 && n != 0xFEFF

def escape (c : Char) : List Char :=
  match letterEscapes.lookup c.toNat with
  | some letter => ['\\', letter]
  | none =>
      let n := c.toNat
      if n ≤ 0xFF then ("\\x" ++ hexText true 2 n).toList
      else if n ≤ 0xFFFF then ("\\u" ++ hexText true 4 n).toList
      else ("\\U" ++ hexText true 8 n).toList

/-- Break the line within double quotes; a space that comes next needs an escape. -/
def turn (indent : Nat) (next : Option Char) (page : Page) : Page :=
  let page := ((page.put ['\\']).indentTo indent).settle
  if next = some ' ' then page.put ['\\'] else page

/-- Lines break before a space and on either side of an escape, but neither before nor
after the outermost characters. -/
def putDoubleChars (split : Bool) (indent : Nat) :
    Bool → Bool → List Char → Page → Page
  | _, _, [], page => page
  | first, afterEscape, c :: rest, page =>
      let inner := split && !first && !rest.isEmpty
      if isBare c then
        let page :=
          if inner && (c == ' ' || afterEscape) && width < page.column then
            page.turn indent (some c)
          else page
        putDoubleChars split indent false false rest (page.put [c])
      else
        let page := page.put (escape c)
        let page := if inner && width + 1 < page.column then page.turn indent rest.head? else page
        putDoubleChars split indent false true rest page

def putDouble (split : Bool) (indent : Nat) (text : List Char) (page : Page) : Page :=
  (putDoubleChars split indent true false text (page.mark "\"")).close "\""

/-- Lines as they are, each with an end of its own. -/
def putLines (indent : Nat) (lines : List (List Char)) (page : Page) : Page :=
  lines.foldl (fun page line => ((page.indentTo indent).put line).breakLine)
    (page.mark "|").breakLine

/-- A scalar in a style; further lines of it start at `indent`. -/
def putScalar (style : Style) (split : Bool) (indent : Nat) (text : List Char) (page : Page) :
    Page :=
  match style with
  | .plain => page.putPlain split indent text
  | .single => page.putSingle split indent text
  | .double => page.putDouble split indent text

end Page

end MarkupLint.Yaml
