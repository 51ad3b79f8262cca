import MarkupLint.Text.Digit
import MarkupLint.Yaml.Cursor
import MarkupLint.Yaml.Fault

/-!
The three forms of scalars in a YAML text: plain words, quoted text, and blocks of lines.
Lines of the first two are folded; a block is folded or kept as its header says.

What a scan has read so far it holds with the last character first, so that each step costs
no more than what it adds.
-/
namespace MarkupLint.Yaml

open MarkupLint.Text

/-- What is wrong where nothing fits: the text ends there, or goes on with something else. -/
def Cursor.fault (c : Cursor) : Fault :=
  if c.rest.isEmpty then .cutOff else .malformed

/-- A text read from a place, and the place after it. -/
structure Span where
  text : List Char
  after : Cursor

/-! ### Folding -/

/-- What a line end and the empty lines after it stand for. -/
def folded (first : Char) (breaks : List Char) : List Char :=
  (if first != '\n' then [first] else if breaks.isEmpty then [' '] else []) ++ breaks

/-! ### Plain words -/

/-- Whether a plain word goes no further than `c`, which `after` follows. -/
def endsPlain (flow : Bool) (c : Char) (after : Option Char) : Bool :=
  isGap c || isBreak c ||
    (c == ':' && (endsWord after || (flow && after.any (",[]\x7b\x7d".toList.contains ·)))) ||
    (flow && ",?[]\x7b\x7d".toList.contains c)

/-- Length of a plain word. -/
def plainLength (flow : Bool) : List Char → Nat
  | [] => 0
  | c :: rest => if endsPlain flow c rest.head? then 0 else plainLength flow rest + 1

/-- Empty lines and indentation up to the next word.  Nothing is given when a document ends
on the way. -/
def plainBreaks : Nat → List Char → Cursor → Option (List Char) × Cursor
  | 0, breaks, c => (some breaks.reverse, c)
  | fuel + 1, breaks, c =>
      if c.peek == some ' ' then plainBreaks fuel breaks c.next
      else
        match c.lineBreak? with
        | none => (some breaks.reverse, c)
        | some (mark, after) =>
            if after.atSeparator then (none, after)
            else plainBreaks fuel (mark :: breaks) after

/-- What stands between two words of a plain scalar; a flag tells whether a line ended. -/
def plainGap (c : Cursor) : List Char × Cursor × Bool :=
  let (spaces, here) := c.takeWhile (· == ' ')
  match here.lineBreak? with
  | none => (spaces, here, false)
  | some (mark, after) =>
      if after.atSeparator then ([], after, true)
      else
        match plainBreaks after.left [] after with
        | (none, end_) => ([], end_, true)
        | (some breaks, end_) => (folded mark breaks, end_, true)

/-- A plain scalar, its lines indented at least to `indent` unless it stands in a flow
collection; a flag tells whether a line ended after it. -/
def plainFrom (flow : Bool) (indent : Nat) : Nat → List Char → List Char → Cursor → Bool →
    Span × Bool
  | 0, text, _, c, broke => (⟨text.reverse, c⟩, broke)
  | fuel + 1, text, gap, c, broke =>
      let length := if c.peek == some '#' then 0 else plainLength flow c.rest
      if length = 0 then (⟨text.reverse, c⟩, broke)
      else
        let text := (c.rest.take length).reverseAux (gap.reverseAux text)
        let (gap, after, broke) := plainGap (c.skip length)
        if gap.isEmpty || after.peek == some '#' || (!flow && after.column < indent) then
          (⟨text.reverse, after⟩, broke)
        else plainFrom flow indent fuel text gap after broke

def plain (flow : Bool) (indent : Nat) (c : Cursor) : Span × Bool :=
  plainFrom flow indent c.left [] [] c false

/-! ### Quoted text -/

/-- Empty lines inside quotes. -/
def quotedBreaks : Nat → List Char → Cursor → Except Fault (List Char × Cursor)
  | 0, breaks, c => .ok (breaks.reverse, c)
  | fuel + 1, breaks, c =>
      if c.atSeparator then .error .malformed
      else
        let here := c.skipWhile isGap
        match here.lineBreak? with
        | some (mark, after) => quotedBreaks fuel (mark :: breaks) after
        | none => .ok (breaks.reverse, here)

/-- Gaps and line ends inside quotes. -/
def quotedGap (c : Cursor) : Except Fault (List Char × Cursor) :=
  let (gap, here) := c.takeWhile isGap
  match here.peek, here.lineBreak? with
  | none, _ => .error .cutOff
  | some _, none => .ok (gap, here)
  | some _, some (mark, after) => do
      let (breaks, end_) ← quotedBreaks (after.left + 1) [] after
      return (folded mark breaks, end_)

/-- Escapes of one letter. -/
def escapes : List (Char × Nat) :=
  [('0', 0), ('a', 7), ('b', 8), ('t', 9), ('\t', 9), ('n', 10), ('v', 11), ('f', 12), ('r', 13),
   ('e', 27), (' ', 32), ('"', 34), ('\\', 92), ('/', 47), ('N', 0x85), ('_', 0xA0),
   ('L', 0x2028), ('P', 0x2029)]

/-- Escapes with a hexadecimal code, by the number of its digits. -/
def codeEscapes : List (Char × Nat) := [('x', 2), ('u', 4), ('U', 8)]

def isHexDigit (c : Char) : Bool := (hexValue? c).isSome

def charOfCode (code : Nat) : Except Fault Char :=
  if code < 0x110000 then .ok (Char.ofNat code)
  else if code < 0x80000000 then .error .noCharacter
  else .error .hugeCode

/-- What an escape stands for; the backslash is read already. -/
def escape (c : Cursor) : Except Fault (List Char × Cursor) :=
  match c.peek with
  | none => .error .cutOff
  | some letter =>
      match escapes.lookup letter, codeEscapes.lookup letter with
      | some code, _ => .ok ([Char.ofNat code], c.next)
      | none, some length =>
          let digits := ((c.next.rest.take length).takeWhile isHexDigit).filterMap hexValue?
          if digits.length = length then do
            let char ← charOfCode (ofDigits 16 digits)
            return ([char], c.next.skip length)
          else .error (c.next.skip digits.length).fault
      | none, none =>
          match c.lineBreak? with
          | some (_, after) => quotedBreaks (after.left + 1) [] after
          | none => .error .malformed

/-- Characters inside quotes up to a gap, a line end or the closing quote, put to the text
that was read before. -/
def quotedWord (double : Bool) : Nat → List Char → Cursor → Except Fault (List Char × Cursor)
  | 0, text, c => .ok (text, c)
  | fuel + 1, text, c =>
      match c.peek with
      | none => .ok (text, c)
      | some ch =>
          if isGap ch || isBreak ch then .ok (text, c)
          else if ch = '\'' && !double then
            if c.peekAt 1 == some '\'' then quotedWord double fuel ('\'' :: text) (c.skip 2)
            else .ok (text, c)
          else if ch = '"' && double then .ok (text, c)
          else if ch = '\\' && double then
            match escape c.next with
            | .ok (chars, after) => quotedWord double fuel (chars.reverseAux text) after
            | .error e => .error e
          else quotedWord double fuel (ch :: text) c.next

/-- Words and gaps up to the closing quote. -/
def quotedFrom (double : Bool) : Nat → List Char → Cursor → Except Fault Span
  | 0, _, _ => .error .malformed
  | fuel + 1, text, c => do
      let (text, here) ← quotedWord double c.left text c
      if here.peek == some (if double then '"' else '\'') then return ⟨text.reverse, here.next⟩
      else
        let (gap, after) ← quotedGap here
        quotedFrom double fuel (gap.reverseAux text) after

/-- A quoted scalar, from its opening quote. -/
def quoted (double : Bool) (c : Cursor) : Except Fault Span :=
  quotedFrom double (c.left + 1) [] c.next

/-! ### Blocks of lines -/

/-- What becomes of the line ends that close a block: all are dropped, one is kept, or all
are. -/
inductive Chomping where
  | strip
  | clip
  | keep
  deriving DecidableEq, Repr

structure BlockHeader where
  chomping : Chomping := .clip
  /-- Indentation relative to the surroundings, when given. -/
  indent : Option Nat := none

def chomping? (c : Cursor) : Option Chomping :=
  match c.peek with
  | some '+' => some .keep
  | some '-' => some .strip
  | _ => none

def indentDigit? (c : Cursor) : Option Nat :=
  match c.peek with
  | some d => if isAsciiDigit d then some (d.toNat - 48) else none
  | none => none

/-- The marks after the sign that opens a block, in either order, and the rest of the line,
which holds a comment at most. -/
def blockHeader (c : Cursor) : Except Fault (BlockHeader × Cursor) := do
  let (header, here) ← (match chomping? c, indentDigit? c with
    | some chomping, _ =>
        match indentDigit? c.next with
        | some 0 => .error .malformed
        | some n => .ok (⟨chomping, some n⟩, c.skip 2)
        | none => .ok (⟨chomping, none⟩, c.next)
    | none, some 0 => .error .malformed
    | none, some n =>
        match chomping? c.next with
        | some chomping => .ok (⟨chomping, some n⟩, c.skip 2)
        | none => .ok (⟨.clip, some n⟩, c.next)
    | none, none => .ok (⟨.clip, none⟩, c) : Except Fault (BlockHeader × Cursor))
  if !endsItem here.peek then throw here.fault
  let end_ := here.skipSpaces.skipComment
  if !endsLine end_.peek then throw end_.fault
  return (header, ((end_.lineBreak?).map (·.2)).getD end_)

/-- Empty lines before the first line with text, and the widest indentation among them. -/
def blockLead : Nat → List Char → Nat → Cursor → List Char × Nat × Cursor
  | 0, breaks, widest, c => (breaks.reverse, widest, c)
  | fuel + 1, breaks, widest, c =>
      if c.peek == some ' ' then blockLead fuel breaks (max widest c.next.column) c.next
      else
        match c.lineBreak? with
        | some (mark, after) => blockLead fuel (mark :: breaks) widest after
        | none => (breaks.reverse, widest, c)

/-- Empty lines inside a block. -/
def blockBreaks (indent : Nat) : Nat → List Char → Cursor → List Char × Cursor
  | 0, breaks, c => (breaks.reverse, c)
  | fuel + 1, breaks, c =>
      let here := c.skipToColumn indent
      match here.lineBreak? with
      | some (mark, after) => blockBreaks indent fuel (mark :: breaks) after
      | none => (breaks.reverse, here)

/-- What the last line of a block leaves behind: its line end and the empty lines after. -/
structure BlockEnd where
  text : List Char
  mark : List Char
  breaks : List Char
  after : Cursor

def atLine (indent : Nat) (c : Cursor) : Bool :=
  c.column == indent && c.peek.isSome

/-- The lines of a block, the line ends between them folded or kept. -/
def blockLines (fold : Bool) (indent : Nat) : Nat → List Char → List Char → Cursor → BlockEnd
  | 0, text, breaks, c => ⟨text.reverse, [], breaks, c⟩
  | fuel + 1, text, breaks, c =>
      let isText (c : Cursor) : Bool := c.peek.all (!isGap ·)
      let (line, end_) := c.takeWhile (!isBreak ·)
      let mark := (end_.lineBreak?).map (·.1)
      let text := line.reverseAux (breaks.reverseAux text)
      let (breaks, after) :=
        blockBreaks indent (end_.left + 1) [] (((end_.lineBreak?).map (·.2)).getD end_)
      if atLine indent after then
        let joint :=
          if fold && mark == some '\n' && isText c && isText after then
            if breaks.isEmpty then [' '] else []
          else mark.toList
        blockLines fold indent fuel (joint.reverseAux text) breaks after
      else ⟨text.reverse, mark.toList, breaks, after⟩

/-- A block scalar, from the sign that opens it, inside a collection indented to `outer`. -/
def block (fold : Bool) (outer : Nat) (c : Cursor) : Except Fault Span := do
  let (header, start) ← blockHeader c.next
  let least := max outer 1
  let (breaks, indent, here) :=
    match header.indent with
    | some n =>
        let indent := least + n - 1
        let (breaks, here) := blockBreaks indent (start.left + 1) [] start
        (breaks, indent, here)
    | none =>
        let (breaks, widest, here) := blockLead (start.left + 1) [] 0 start
        (breaks, max least widest, here)
  let ended : BlockEnd :=
    if atLine indent here then blockLines fold indent (here.left + 1) [] breaks here
    else ⟨[], [], breaks, here⟩
  return ⟨ended.text ++ (if header.chomping = .strip then [] else ended.mark) ++
    (if header.chomping = .keep then ended.breaks else []), ended.after⟩

end MarkupLint.Yaml
