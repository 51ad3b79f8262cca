import MarkupLint.Text.Utf8
import MarkupLint.Yaml.Scalar
import MarkupLint.Yaml.Supply

/-!
The tokens of a YAML text.  Indentation opens and closes collections with tokens of their
own, and a mapping key is recognised only by the colon after it: what may turn out to be a
key is remembered, and its token is put in before it when the colon comes.

A reader takes tokens one by one, and no more of the text is looked at than the token that it
wants needs.  So a fault comes first if it lies in what was taken before.
-/
namespace MarkupLint.Yaml

open MarkupLint.Text

inductive Token where
  | version (major : Nat)
  | tagHandle (handle expansion : String)
  | otherDirective
  | documentStart
  | documentEnd
  | blockSequence
  | blockMapping
  | blockEnd
  | flowSequence
  | flowSequenceEnd
  | flowMapping
  | flowMappingEnd
  | flowEntry
  | blockEntry
  | key
  | value
  | alias (name : String)
  | anchor (name : String)
  | tag (handle : Option String) (suffix : String)
  | scalar (text : String) (plain : Bool)
  deriving DecidableEq, Repr, Inhabited

/-! ### Directives, anchors and tags -/

def isNameChar (c : Char) : Bool :=
  isAsciiLetter c || isAsciiDigit c || c == '-' || c == '_'

/-- A name of at least one character. -/
def name (c : Cursor) : Except Fault (String × Cursor) :=
  let (chars, after) := c.takeWhile isNameChar
  if chars.isEmpty then .error after.fault else .ok (String.ofList chars, after)

def isUriChar (c : Char) : Bool :=
  isAsciiLetter c || isAsciiDigit c || "-;/?:@&=+$,_.!~*'()[]".toList.contains c

/-- Bytes in percent notation; the last of those read so far comes first. -/
def uriBytes : Nat → List UInt8 → Cursor → Except Fault (List UInt8 × Cursor)
  | 0, bytes, c => .ok (bytes.reverse, c)
  | fuel + 1, bytes, c =>
      if c.peek == some '%' then
        match (c.peekAt 1).bind hexValue?, (c.peekAt 2).bind hexValue? with
        | some high, some low => uriBytes fuel (UInt8.ofNat (high * 16 + low) :: bytes) (c.skip 3)
        | _, _ => .error (c.skip 3).fault
      else .ok (bytes.reverse, c)

/-- The characters of an address; the last of those read so far comes first. -/
def uriFrom : Nat → List Char → Cursor → Except Fault (List Char × Cursor)
  | 0, text, c => .ok (text.reverse, c)
  | fuel + 1, text, c =>
      match c.peek with
      | some '%' =>
          match uriBytes c.left [] c with
          | .error e => .error e
          | .ok (bytes, after) =>
              match Utf8.strict? bytes with
              | some chars => uriFrom fuel (chars.reverseAux text) after
              | none => .error .malformed
      | some ch =>
          if isUriChar ch then uriFrom fuel (ch :: text) c.next else .ok (text.reverse, c)
      | none => .ok (text.reverse, c)

/-- An address of at least one character. -/
def uri (c : Cursor) : Except Fault (String × Cursor) := do
  let (text, after) ← uriFrom (c.left + 1) [] c
  if text.isEmpty && after.index == c.index then throw after.fault
  return (String.ofList text, after)

/-- A tag handle: an exclamation mark, alone or with a name and a second one. -/
def handle (c : Cursor) : Except Fault (String × Cursor) :=
  if c.peek != some '!' then .error c.fault
  else if c.peekAt 1 == some ' ' then .ok ("!", c.next)
  else
    let (chars, after) := c.next.takeWhile isNameChar
    if after.peek == some '!' then .ok (String.ofList ('!' :: chars ++ ['!']), after.next)
    else .error after.fault

/-- The end of a directive's line, which holds a comment at most. -/
def directiveEnd (c : Cursor) : Except Fault Cursor :=
  let here := c.skipSpaces.skipComment
  if endsLine here.peek then .ok (((here.lineBreak?).map (·.2)).getD here) else .error here.fault

/-- Decimal digits; there is a limit to what can be read. -/
def digits (c : Cursor) : Except Fault (Nat × Cursor) :=
  let (chars, after) := c.takeWhile isAsciiDigit
  if chars.isEmpty then .error after.fault
  else if Number.digitLimit < chars.length then
    .error (.conversion (.tooManyDigits chars.length))
  else .ok (ofDigits 10 (chars.map fun d => d.toNat - 48), after)

/-- A directive, from its percent sign. -/
def directive (c : Cursor) : Except Fault (Token × Cursor) := do
  let (word, here) ← name c.next
  if !endsItem here.peek then throw here.fault
  if word = "YAML" then
    let (major, here) ← digits here.skipSpaces
    if here.peek != some '.' then throw here.fault
    let (_, here) ← digits here.next
    if !endsItem here.peek then throw here.fault
    return (.version major, ← directiveEnd here)
  else if word = "TAG" then
    let (mark, here) ← handle here.skipSpaces
    if here.peek != some ' ' then throw here.fault
    let (expansion, here) ← uri here.skipSpaces
    if !endsItem here.peek then throw here.fault
    return (.tagHandle mark expansion, ← directiveEnd here)
  else return (.otherDirective, ← directiveEnd (here.skipWhile (!isBreak ·)))

/-- The name after an ampersand or a star. -/
def reference (c : Cursor) : Except Fault (String × Cursor) := do
  let (word, here) ← name c.next
  if endsWord here.peek || here.peek.any ("?:,]\x7d%@\x60".toList.contains ·) then
    return (word, here)
  else throw .malformed

/-- Whether a second exclamation mark stands in the word after the first. -/
def hasHandle : List Char → Bool
  | [] => false
  | c :: rest => if c == ' ' || isBreak c then false else c == '!' || hasHandle rest

/-- A tag, from its exclamation mark. -/
def tagToken (c : Cursor) : Except Fault (Token × Cursor) := do
  let (token, here) ← (if c.peekAt 1 == some '<' then do
      let (suffix, here) ← uri (c.skip 2)
      if here.peek != some '>' then throw here.fault
      return (.tag none suffix, here.next)
    else if endsWord (c.peekAt 1) then return (.tag none "!", c.next)
    else do
      let (mark, here) ← if hasHandle (c.rest.drop 1) then handle c else .ok ("!", c.next)
      let (suffix, here) ← uri here
      return (.tag (some mark) suffix, here) : Except Fault (Token × Cursor))
  if endsItem here.peek then return (token, here) else throw .malformed

/-! ### Layout -/

/-- What may turn out to be the key of a mapping. -/
structure PendingKey where
  /-- The flow collection it stands in, by nesting. -/
  level : Nat
  /-- The place its token has among all tokens. -/
  place : Nat
  /-- Nothing else can stand here. -/
  required : Bool
  index : Nat
  line : Nat
  column : Nat

structure Layout where
  cursor : Cursor
  tokens : Array Token := #[]
  flow : Nat := 0
  /-- One more than the column of the innermost block collection; zero outside any. -/
  depth : Nat := 0
  outer : List Nat := []
  keyAllowed : Bool := true
  pending : List PendingKey := []

namespace Layout

def push (l : Layout) (token : Token) : Layout :=
  { l with tokens := l.tokens.push token }

/-- Keys stay on one line and are at most 1024 characters long. -/
def dropStale (l : Layout) : Except Fault Layout :=
  let stale (k : PendingKey) : Bool := k.line != l.cursor.line || 1024 < l.cursor.index - k.index
  if l.pending.any fun k => stale k && k.required then .error .malformed
  else .ok { l with pending := l.pending.filter (!stale ·) }

/-- Give up the key that may be open at this level. -/
def dropKey (l : Layout) : Except Fault Layout :=
  if l.pending.any fun k => k.level == l.flow && k.required then .error .malformed
  else .ok { l with pending := l.pending.filter (·.level != l.flow) }

/-- Remember that a key may start here. -/
def noteKey (l : Layout) : Except Fault Layout :=
  if l.keyAllowed then do
    let dropped ← l.dropKey
    let key : PendingKey :=
      { level := l.flow, place := l.tokens.size,
        required := l.flow == 0 && l.depth == l.cursor.column + 1,
        index := l.cursor.index, line := l.cursor.line, column := l.cursor.column }
    return { dropped with pending := key :: dropped.pending }
  else .ok l

/-- Close block collections down to a depth. -/
def closeTo (depth : Nat) : List Nat → Layout → Layout
  | [], l => l
  | outer :: rest, l =>
      if depth < l.depth then
        closeTo depth rest { l.push .blockEnd with depth := outer, outer := rest }
      else l

/-- Indentation means nothing inside a flow collection. -/
def unwind (l : Layout) (depth : Nat) : Layout :=
  if l.flow = 0 then closeTo depth l.outer l else l

/-- Open a block collection at a column, unless one is open there. -/
def openBlock (l : Layout) (column place : Nat) (token : Token) : Layout :=
  if l.depth < column + 1 then
    { l with
      tokens := l.tokens.insertIdxIfInBounds place token
      depth := column + 1
      outer := l.depth :: l.outer }
  else l

/-- Spaces, comments and line ends before the next token.  Outside flow collections a new
line may start with a key. -/
def toToken : Nat → Layout → Layout
  | 0, l => l
  | fuel + 1, l =>
      let here := l.cursor.skipSpaces.skipComment
      match here.lineBreak? with
      | none => { l with cursor := here }
      | some (_, after) =>
          toToken fuel { l with cursor := after, keyAllowed := l.keyAllowed || l.flow == 0 }

/-- Put a token at the cursor and go on after it. -/
def emit (l : Layout) (token : Token) (after : Cursor) : Layout :=
  { l.push token with cursor := after }

/-- A directive or document marker, which ends all block collections. -/
def atMargin (l : Layout) (token : Token) (after : Cursor) : Except Fault Layout := do
  let closed ← (l.unwind 0).dropKey
  return { closed.emit token after with keyAllowed := false }

/-- A word that may be a key. -/
def word (l : Layout) (token : Token) (after : Cursor) : Except Fault Layout := do
  let noted ← l.noteKey
  return { noted.emit token after with keyAllowed := false }

def openFlow (l : Layout) (token : Token) : Except Fault Layout := do
  let noted ← l.noteKey
  return { noted.emit token l.cursor.next with flow := l.flow + 1, keyAllowed := true }

/-- Nothing can be closed that was not opened. -/
def closeFlow (l : Layout) (token : Token) : Except Fault Layout :=
  if l.flow = 0 then .error .malformed
  else do
    let dropped ← l.dropKey
    return { dropped.emit token l.cursor.next with flow := l.flow - 1, keyAllowed := false }

def flowEntry (l : Layout) : Except Fault Layout := do
  let dropped ← l.dropKey
  return { dropped.emit .flowEntry l.cursor.next with keyAllowed := true }

/-- A dash, question mark or colon outside flow collections stands where a key may stand and
opens its collection. -/
def enterBlock (l : Layout) (token : Token) : Except Fault Layout :=
  if l.flow != 0 then .ok l
  else if l.keyAllowed then .ok (l.openBlock l.cursor.column l.tokens.size token)
  else .error .malformed

def blockEntry (l : Layout) : Except Fault Layout := do
  let entered ← l.enterBlock .blockSequence
  let dropped ← entered.dropKey
  return { dropped.emit .blockEntry l.cursor.next with keyAllowed := true }

def explicitKey (l : Layout) : Except Fault Layout := do
  let entered ← l.enterBlock .blockMapping
  let dropped ← entered.dropKey
  return { dropped.emit .key l.cursor.next with keyAllowed := l.flow == 0 }

/-- A colon: what was pending at this level was a key, so a key token goes before it, and a
mapping is opened there if none is. -/
def value (l : Layout) : Except Fault Layout :=
  match l.pending.find? (·.level == l.flow) with
  | some key =>
      let marked : Layout :=
        { l with
          pending := l.pending.filter (·.level != l.flow)
          tokens := l.tokens.insertIdxIfInBounds key.place .key }
      let opened :=
        if l.flow = 0 then marked.openBlock key.column key.place .blockMapping else marked
      .ok { opened.emit .value l.cursor.next with keyAllowed := false }
  | none => do
      let entered ← l.enterBlock .blockMapping
      let dropped ← entered.dropKey
      return { dropped.emit .value l.cursor.next with keyAllowed := l.flow == 0 }

def blockScalar (l : Layout) (fold : Bool) : Except Fault Layout := do
  let dropped ← l.dropKey
  let read ← block fold l.depth l.cursor
  let emitted := dropped.emit (.scalar (String.ofList read.text) false) read.after
  return { emitted with keyAllowed := true }

def quotedScalar (l : Layout) (double : Bool) : Except Fault Layout := do
  let read ← quoted double l.cursor
  l.word (.scalar (String.ofList read.text) false) read.after

def plainScalar (l : Layout) : Except Fault Layout := do
  let (read, broke) := plain (l.flow != 0) l.depth l.cursor
  let placed ← l.word (.scalar (String.ofList read.text) true) read.after
  return { placed with keyAllowed := broke }

/-- Whether a plain scalar can start with a character. -/
def startsPlain (l : Layout) (c : Char) (after : Option Char) : Bool :=
  if "-?:,[]\x7b\x7d#&*!|>'\"%@\x60".toList.contains c then
    !endsWord after && (c == '-' || (l.flow == 0 && (c == '?' || c == ':')))
  else !isGap c && !isBreak c

/-- The token that starts with a character. -/
def fetchAt (l : Layout) (c : Char) : Except Fault Layout :=
  let here := l.cursor
  let marks := endsWord (here.peekAt 1)
  if c = '%' && here.column == 0 then do
    let (token, after) ← directive here
    l.atMargin token after
  else if here.column == 0 && here.atMarker '-' then l.atMargin .documentStart (here.skip 3)
  else if here.column == 0 && here.atMarker '.' then l.atMargin .documentEnd (here.skip 3)
  else if c = '[' then l.openFlow .flowSequence
  else if c = '\x7b' then l.openFlow .flowMapping
  else if c = ']' then l.closeFlow .flowSequenceEnd
  else if c = '\x7d' then l.closeFlow .flowMappingEnd
  else if c = ',' then l.flowEntry
  else if c = '-' && marks then l.blockEntry
  else if c = '?' && (l.flow != 0 || marks) then l.explicitKey
  else if c = ':' && (l.flow != 0 || marks) then l.value
  else if c = '*' then do
    let (name, after) ← reference here
    l.word (.alias name) after
  else if c = '&' then do
    let (name, after) ← reference here
    l.word (.anchor name) after
  else if c = '!' then do
    let (token, after) ← tagToken here
    l.word token after
  else if c = '|' && l.flow == 0 then l.blockScalar false
  else if c = '>' && l.flow == 0 then l.blockScalar true
  else if c = '\'' then l.quotedScalar false
  else if c = '"' then l.quotedScalar true
  else if l.startsPlain c (here.peekAt 1) then l.plainScalar
  else .error .malformed

/-- Whether the token at a place may still become a key, so that what follows has to be seen
before it can be used. -/
def isOpen (l : Layout) (place : Nat) : Bool :=
  l.pending.any (·.place == place)

/-- Whether too little is left of a text to go on without what comes behind it. -/
def isSpent (l : Layout) : Bool :=
  match l.cursor.rest with
  | [] | [_] => true
  | _ => false

/-- The next token, or the end of the text, which closes everything; a flag tells which. -/
def fetch (l : Layout) : Except Fault (Layout × Bool) := do
  let fresh ← (l.toToken (l.cursor.left + 1)).dropStale
  match fresh.cursor.peek with
  | none => return (← (fresh.unwind 0).dropKey, true)
  | some c => return (← (fresh.unwind (fresh.cursor.column + 1)).fetchAt c, false)

/-- Fetch on behalf of a reader that has taken some tokens and wants the next.  What lies
behind the text, if anything, is met when the text is spent. -/
def fetchOn (behind : Option Fault) (l : Layout) : Except Fault (Layout × Bool) :=
  match l.fetch, behind with
  | .ok (fetched, ended), some fault =>
      if ended || fetched.isSpent then .error fault else .ok (fetched, false)
  | .error .cutOff, some fault => .error fault
  | result, _ => result

/-- All tokens from here on, `taken` of which a reader can use.  It gets no more of them than
are certain when a fault is met: what is wrong with those comes first. -/
def fetchAll (behind : Option Fault) : Nat → Nat → Layout → Array Token × Option Fault
  | 0, taken, l => (l.tokens.extract 0 taken, some .malformed)
  | fuel + 1, taken, l =>
      match if taken < l.tokens.size then l.dropStale else .ok l with
      | .error e => (l.tokens.extract 0 taken, some e)
      | .ok l =>
          if taken < l.tokens.size && !l.isOpen taken then fetchAll behind fuel (taken + 1) l
          else
            match fetchOn behind l with
            | .error e => (l.tokens.extract 0 taken, some e)
            | .ok (fetched, true) => (fetched.tokens, none)
            | .ok (fetched, false) => fetchAll behind fuel taken fetched

end Layout

/-- The tokens of a text, up to its end or the first fault. -/
def tokens (supply : Supply) : Array Token × Option Fault :=
  let start := Cursor.ofText supply.text
  let cursor := if start.peek == some byteOrderMark then start.next else start
  Layout.fetchAll supply.behind (8 * supply.text.length + 16) 0 { cursor := cursor }

end MarkupLint.Yaml
