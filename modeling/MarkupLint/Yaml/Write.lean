import MarkupLint.Text.Base64
import MarkupLint.Value.Convert
import MarkupLint.Yaml.Node
import MarkupLint.Yaml.Style

/-!
Writing a value as a YAML document: one item or key on a line, the items of a sequence below
the beginning of their key.  A container or a point in time that occurs several times is
written out once with an anchor, and stands as an alias from then on.
-/
namespace MarkupLint.Yaml

/-! ### Scalars -/

/-- A number as `Double.text`, with the point that marks it as real. -/
def realText (x : Double) : String :=
  match x with
  | .nan => ".nan"
  | .infinity negative => if negative then "-.inf" else ".inf"
  | x =>
      let text := x.text .plain
      if text.contains '.' then text
      else String.ofList (text.toList.flatMap fun c => if c = 'e' then ".0e".toList else [c])

def scalarText : Scalar → String
  | .null => "null"
  | .bool b => if b then "true" else "false"
  | .int n => toString n
  | .float x => realText x
  | .nan _ => realText .nan
  | .str s => s
  | .bytes b => String.ofList (Text.Base64.lines b).flatten
  | .time _ t => t.text

/-- The name of a scalar's tag. -/
def tagText : Scalar → String
  | .null => "!!null"
  | .bool _ => "!!bool"
  | .int _ => "!!int"
  | .float _ | .nan _ => "!!float"
  | .str _ => "!!str"
  | .bytes _ => "!!binary"
  | .time _ _ => "!!timestamp"

/-- Whether the plain text of a scalar is taken for what the scalar is; only texts can be
mistaken. -/
def readsBack : Scalar → Bool
  | .str s => Tag.ofPlain s = .str
  | _ => true

/-! ### Anchors -/

/-- What has a label has been met so far, and what of it was met again, in the order in which
that happened. -/
structure Encounters where
  met : List Label := []
  again : List Label := []
  /-- Whether each scalar that was met has a text. -/
  writable : Bool := true

/-- Meet something; the answer says whether it is new. -/
def Encounters.meet (label : Option Label) (e : Encounters) : Bool × Encounters :=
  match label with
  | none => (true, e)
  | some l =>
      if e.met.contains l then
        (false, if e.again.contains l then e else { e with again := e.again ++ [l] })
      else (true, { e with met := l :: e.met })

/-- Points in time are the only scalars that are not written anew each time. -/
def labelOf : Scalar → Option Label
  | .time label _ => some label
  | _ => none

def encounterScalar (s : Scalar) (e : Encounters) : Encounters :=
  let e := (e.meet (labelOf s)).2
  { e with writable := e.writable && s.isWritable }

mutual

/-- Meet everything in a value; what is met again is not entered again. -/
def encounter : Value → Encounters → Encounters
  | .scalar s, e => encounterScalar s e
  | .list label items, e =>
      match e.meet label with
      | (true, e) => encounterItems items e
      | (false, e) => e
  | .pair label a b, e =>
      match e.meet (some label) with
      | (true, e) => encounter b (encounter a e)
      | (false, e) => e
  | .set label members, e =>
      match e.meet (some label) with
      | (true, e) => members.foldl (fun e member => encounterScalar member e) e
      | (false, e) => e
  | .map label entries, e =>
      match e.meet label with
      | (true, e) => encounterEntries entries e
      | (false, e) => e
  | .again label _, e => (e.meet (some label)).2

def encounterItems : List Value → Encounters → Encounters
  | [], e => e
  | item :: rest, e => encounterItems rest (encounter item e)

def encounterEntries : List (Scalar × Value) → Encounters → Encounters
  | [], e => e
  | (key, value) :: rest, e =>
      encounterEntries rest (encounter value (encounterScalar key e))

end

/-- The anchor of what occurs several times. -/
def anchorOf (again : List Label) (label : Option Label) : Option String :=
  label.bind fun l =>
    if again.contains l then some ("id" ++ padded 3 (again.idxOf l + 1)) else none

/-! ### Nodes -/

/-- The page, and the anchors that are on it. -/
structure Sheet where
  page : Page := {}
  anchors : List String := []

namespace Sheet

def onPage (f : Page → Page) (sheet : Sheet) : Sheet :=
  { sheet with page := f sheet.page }

/-- Write an anchor, or the alias that stands for it; the answer says whether what carries
the anchor is still to be written. -/
def introduce (again : List Label) (label : Option Label) (sheet : Sheet) : Bool × Sheet :=
  match anchorOf again label with
  | none => (true, sheet)
  | some name =>
      if sheet.anchors.contains name then (false, sheet.onPage (·.mark ("*" ++ name)))
      else (true, { page := sheet.page.mark ("&" ++ name), anchors := name :: sheet.anchors })

end Sheet

/-- Where the further lines of a scalar start, by the column of what holds it. -/
def hanging (holder : Option Nat) : Nat :=
  holder.elim 2 (· + 2)

/-- Where the lines of a collection start.  The items of a sequence may start where their
key does. -/
def blockColumn (holder : Option Nat) (level : Bool) : Nat :=
  holder.elim 0 fun column => if level then column else column + 2

/-- Bytes as the lines of their text. -/
def putBytes (holder : Option Nat) (b : List UInt8) (page : Page) : Page :=
  let page := page.mark (tagText (.bytes b))
  if b.isEmpty then page.putDouble true (hanging holder) []
  else page.putLines (hanging holder) (Text.Base64.lines b)

def putScalarText (key : Bool) (holder : Option Nat) (s : Scalar) (page : Page) : Page :=
  match s with
  | .bytes b => putBytes holder b page
  | s =>
      let text := (scalarText s).toList
      page.putScalar (Style.choose key (readsBack s) text) (!key) (hanging holder) text

def putScalar (again : List Label) (key : Bool) (holder : Option Nat) (s : Scalar)
    (sheet : Sheet) : Sheet :=
  match sheet.introduce again (labelOf s) with
  | (false, sheet) => sheet
  | (true, sheet) => sheet.onPage (putScalarText key holder s)

/-- Keys that are too long, empty or of several lines get a line of their own. -/
def isSimpleKey (key : Scalar) : Bool :=
  match key with
  | .bytes _ => false
  | key =>
      let text := (scalarText key).toList
      !text.isEmpty && !Style.isMultiline text && (tagText key).length + text.length < 128

/-- A key of the mapping at a column, with its colon. -/
def putKey (again : List Label) (column : Nat) (key : Scalar) (sheet : Sheet) : Sheet :=
  let sheet := sheet.onPage (·.indentTo column)
  if isSimpleKey key then
    (putScalar again true (some column) key sheet).onPage (·.close ":")
  else
    (putScalar again false (some column) key (sheet.onPage (·.bullet "?"))).onPage fun page =>
      (page.indentTo column).bullet ":"

/-- An empty collection stands in brackets. -/
def putEmpty (brackets : String × String) (page : Page) : Page :=
  (page.opening brackets.1).close brackets.2

/-- The members of a set, as keys without values. -/
def putMembers (again : List Label) (column : Nat) (members : List Scalar) (sheet : Sheet) :
    Sheet :=
  members.foldl (fun sheet member =>
    putScalar again false (some column) .null (putKey again column member sheet)) sheet

/-- The mark of an item of the sequence at a column. -/
def putBullet (column : Nat) (sheet : Sheet) : Sheet :=
  sheet.onPage fun page => (page.indentTo column).bullet "-"

mutual

/-- Write a value held by the collection at column `holder`. -/
def putNode (again : List Label) (inMap : Bool) (holder : Option Nat) :
    Value → Sheet → Sheet
  | .scalar s, sheet => putScalar again false holder s sheet
  | .list label items, sheet =>
      match sheet.introduce again label with
      | (false, sheet) => sheet
      | (true, sheet) =>
          if items.isEmpty then sheet.onPage (putEmpty ("[", "]"))
          else putItems again (blockColumn holder (inMap && !sheet.page.fresh)) items sheet
  | .pair label a b, sheet =>
      match sheet.introduce again (some label) with
      | (false, sheet) => sheet
      | (true, sheet) =>
          let column := blockColumn holder (inMap && !sheet.page.fresh)
          let sheet := putNode again false (some column) a (putBullet column sheet)
          putNode again false (some column) b (putBullet column sheet)
  | .set label members, sheet =>
      match sheet.introduce again (some label) with
      | (false, sheet) => sheet
      | (true, sheet) =>
          let sheet := sheet.onPage (·.mark "!!set")
          if members.isEmpty then sheet.onPage (putEmpty ("\x7b", "\x7d"))
          else putMembers again (blockColumn holder false) members sheet
  | .map label entries, sheet =>
      match sheet.introduce again label with
      | (false, sheet) => sheet
      | (true, sheet) =>
          if entries.isEmpty then sheet.onPage (putEmpty ("\x7b", "\x7d"))
          else putEntries again (blockColumn holder false) entries sheet
  | .again label _, sheet => (sheet.introduce again (some label)).2

def putItems (again : List Label) (column : Nat) : List Value → Sheet → Sheet
  | [], sheet => sheet
  | item :: rest, sheet =>
      putItems again column rest (putNode again false (some column) item (putBullet column sheet))

def putEntries (again : List Label) (column : Nat) :
    List (Scalar × Value) → Sheet → Sheet
  | [], sheet => sheet
  | (key, value) :: rest, sheet =>
      putEntries again column rest
        (putNode again true (some column) value (putKey again column key sheet))

end

/-- A plain scalar by itself needs a mark where it ends. -/
def endsOpen : Value → Bool
  | .scalar (.bytes _) => false
  | .scalar s => Style.choose false (readsBack s) (scalarText s).toList = .plain
  | _ => false

/-- The text of a document with this value, of which it is known what occurs again. -/
def documentText (again : List Label) (value : Value) : String :=
  let page := (putNode again false none value {}).page.indentTo 0
  (if endsOpen value then (page.mark "...").indentTo 0 else page).text

/-- Write a value, if all in it has a text. -/
def write (value : Value) : Except ConversionError String :=
  let encounters := encounter value {}
  if encounters.writable then .ok (documentText encounters.again value) else .error .unwritable

end MarkupLint.Yaml
