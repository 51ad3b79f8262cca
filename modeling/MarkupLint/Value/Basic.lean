import MarkupLint.Number.Double
import MarkupLint.Value.Moment

/-!
Configuration values: scalars, and lists, pairs, sets and mappings of them.  Mappings keep
the order in which their keys were first set.

Two scalars are the same key, or equal items, when they agree as values: `true`, `1` and
`1.0` are one, and moments are one if they stand for the same time.  A number that is not a
number equals nothing, unless it is known where it comes from: then it is one with itself.

A container may hold itself.  The inner occurrence is then `again`, a leaf that names the
container around it; `Value.unfold` puts the container in the place of such leaves.
-/
namespace MarkupLint

/-- Tells a container from others like it: the document it was written in and its number
there. -/
structure Label where
  document : Nat
  number : Nat
  /-- Whether the container is inside itself or holds one that is. -/
  loops : Bool := false
  deriving DecidableEq, Repr

inductive Scalar where
  | null
  | bool (b : Bool)
  | int (n : Int)
  | float (x : Double)
  /-- A number that is not a number, by what it comes from.  Those that are written as a
  constant all have one origin, which needs no label. -/
  | nan (origin : Option Label)
  | str (s : String)
  | bytes (b : List UInt8)
  /-- Points in time with one label are one. -/
  | time (label : Label) (t : Timestamp)
  deriving DecidableEq, Repr, Inhabited

/-- What scalars are compared by. -/
inductive Scalar.Key where
  | null
  | units (n : Int)
  | infinity (negative : Bool)
  | nan (origin : Option Label)
  | str (s : String)
  | bytes (b : List UInt8)
  | time (instant : Instant)
  deriving DecidableEq, Repr

def Scalar.key? : Scalar → Option Key
  | .null => some .null
  | .bool b => some (.units (if b then Double.scale else 0))
  | .int n => some (.units (n * Double.scale))
  | .float .nan => none
  | .float (.infinity negative) => some (.infinity negative)
  | .float .negativeZero => some (.units 0)
  | .float (.finite units) => some (.units units)
  | .nan origin => some (.nan origin)
  | .str s => some (.str s)
  | .bytes b => some (.bytes b)
  | .time _ t => some (.time t.instant)

def Scalar.same (a b : Scalar) : Bool :=
  match a.key?, b.key? with
  | some k, some l => k == l
  | _, _ => false

/-- Containers with one label are one container: a change to it shows wherever it
occurs.  Containers without a label occur once. -/
inductive Value where
  | scalar (s : Scalar)
  | list (label : Option Label) (items : List Value)
  | pair (label : Label) (first second : Value)
  | set (label : Label) (members : List Scalar)
  | map (label : Option Label) (entries : List (Scalar × Value))
  /-- The container of this label, of which this is a part; it is a mapping or a list. -/
  | again (label : Label) (mapping : Bool)
  deriving Inhabited

abbrev Entries := List (Scalar × Value)

namespace Value

@[match_pattern] abbrev null : Value := .scalar .null
@[match_pattern] abbrev bool (b : Bool) : Value := .scalar (.bool b)
@[match_pattern] abbrev int (n : Int) : Value := .scalar (.int n)
@[match_pattern] abbrev float (x : Double) : Value := .scalar (.float x)
@[match_pattern] abbrev str (s : String) : Value := .scalar (.str s)

def ofList (items : List Value) : Value := .list none items

def ofEntries (entries : Entries) : Value := .map none entries

def ofStrings (texts : List String) : Value := .list none (texts.map .str)

/-- A mapping with text keys. -/
def ofFields (fields : List (String × Value)) : Value :=
  .map none (fields.map fun (name, value) => (.str name, value))

end Value

namespace Entries

def get? (entries : Entries) (key : Scalar) : Option Value :=
  (entries.find? fun entry => entry.1.same key).map (·.2)

def has (entries : Entries) (key : Scalar) : Bool :=
  (entries.get? key).isSome

/-- Give `key` a value: in place when the key is there already, else at the end. -/
def set : Entries → Scalar → Value → Entries
  | [], key, value => [(key, value)]
  | entry :: rest, key, value =>
      if entry.1.same key then (entry.1, value) :: rest else entry :: set rest key value

/-- Entries set one after another. -/
def ofPairs (pairs : List (Scalar × Value)) : Entries :=
  pairs.foldl (fun entries pair => entries.set pair.1 pair.2) []

def field? (entries : Entries) (name : String) : Option Value :=
  entries.get? (.str name)

end Entries

namespace Value

def entries? : Value → Option Entries
  | .map _ entries => some entries
  | _ => none

def items? : Value → Option (List Value)
  | .list _ items => some items
  | _ => none

def isMap : Value → Bool
  | .map _ _ => true
  | .again _ mapping => mapping
  | _ => false

def isList : Value → Bool
  | .list _ _ => true
  | .again _ mapping => !mapping
  | _ => false

def isNull : Value → Bool
  | .null => true
  | _ => false

/-- The value of a text key, or null: what a section that leaves a key out reads. -/
def field (value : Value) (name : String) : Value :=
  ((value.entries?.getD []).field? name).getD .null

/-- A value counts as given unless it is null, false, zero or empty. -/
def isGiven : Value → Bool
  | .scalar .null => false
  | .scalar (.bool b) => b
  | .scalar (.int n) => n != 0
  | .scalar (.float x) => !x.isZero
  | .scalar (.nan _) => true
  | .scalar (.str s) => !s.isEmpty
  | .scalar (.bytes b) => !b.isEmpty
  | .scalar (.time _ _) => true
  | .list _ items => !items.isEmpty
  | .pair _ _ _ => true
  | .set _ members => !members.isEmpty
  | .map _ entries => !entries.isEmpty
  | .again _ _ => true

/-- Whether two sets have the same members. -/
def sameMembers (xs ys : List Scalar) : Bool :=
  xs.length == ys.length && xs.all fun x => ys.any x.same

mutual

/-- Equality of values: lists item by item, mappings key by key in any order. -/
def same : Value → Value → Bool
  | .scalar a, .scalar b => a.same b
  | .list _ xs, .list _ ys => sameItems xs ys
  | .pair _ a b, .pair _ c d => same a c && same b d
  | .set _ xs, .set _ ys => sameMembers xs ys
  | .map _ es, .map _ fs => es.length == fs.length && sameEntries es fs
  | .again l _, .again m _ => l == m
  | _, _ => false

def sameItems : List Value → List Value → Bool
  | [], [] => true
  | x :: xs, y :: ys => same x y && sameItems xs ys
  | _, _ => false

def sameEntries : List (Scalar × Value) → Entries → Bool
  | [], _ => true
  | (key, value) :: rest, others =>
      (match others.get? key with
        | some other => same value other
        | none => false) && sameEntries rest others

end

/-- Whether some item of the list equals the value. -/
def isIn (value : Value) (items : List Value) : Bool :=
  items.any (·.same value)

/-- What a value is, in the words of the messages about it. -/
def kindName : Value → String
  | .scalar .null => "NoneType"
  | .scalar (.bool _) => "bool"
  | .scalar (.int _) => "int"
  | .scalar (.float _) | .scalar (.nan _) => "float"
  | .scalar (.str _) => "str"
  | .scalar (.bytes _) => "bytes"
  | .scalar (.time _ t) => if t.time.isSome then "datetime" else "date"
  | .list _ _ => "list"
  | .pair _ _ _ => "tuple"
  | .set _ _ => "set"
  | .map _ _ => "dict"
  | .again _ mapping => if mapping then "dict" else "list"

/-- As `kindName`, with the family that points in time belong to. -/
def fullKindName : Value → String
  | .scalar (.time _ t) => if t.time.isSome then "datetime.datetime" else "datetime.date"
  | value => value.kindName

/-! ### Containers inside themselves -/

mutual

/-- Put a container in the place of the leaves that stand for it.  Leaves inside a container of
the same label stand for that one. -/
def fill (label : Label) (container : Value) : Value → Value
  | .scalar s => .scalar s
  | .list l items =>
      if l = some label then .list l items else .list l (fillItems label container items)
  | .pair l a b => .pair l (fill label container a) (fill label container b)
  | .set l members => .set l members
  | .map l entries =>
      if l = some label then .map l entries else .map l (fillEntries label container entries)
  | .again l mapping => if l = label then container else .again l mapping

def fillItems (label : Label) (container : Value) : List Value → List Value
  | [] => []
  | item :: rest => fill label container item :: fillItems label container rest

def fillEntries (label : Label) (container : Value) : List (Scalar × Value) → Entries
  | [] => []
  | (key, value) :: rest => (key, fill label container value) :: fillEntries label container rest

end

/-- A part of a container with everything it refers to in its place. -/
def part (container : Value) (label : Option Label) (value : Value) : Value :=
  match label with
  | some l => if l.loops then fill l container value else value
  | none => value

/-- The same value, written out so that no leaf stands for a container in the uppermost
levels. -/
def unfold : Nat → Value → Value
  | 0, value => value
  | depth + 1, .list l items =>
      .list l (items.map fun item => unfold depth (part (.list l items) l item))
  | depth + 1, .map l entries =>
      .map l (entries.map fun (key, value) =>
        (key, unfold depth (part (.map l entries) l value)))
  | _ + 1, value => value

mutual

/-- Whether a container is inside itself or holds one that is.  Labels tell it of what lies
below them, which may be a great deal: a container occurs as often as it is referred to. -/
def loops : Value → Bool
  | .list (some l) _ | .map (some l) _ => l.loops
  | .list none items => anyLoops items
  | .map none entries => anyEntryLoops entries
  | .pair _ a b => loops a || loops b
  | .again _ _ => true
  | .scalar _ | .set _ _ => false

def anyLoops : List Value → Bool
  | [] => false
  | item :: rest => loops item || anyLoops rest

def anyEntryLoops : List (Scalar × Value) → Bool
  | [] => false
  | (_, value) :: rest => loops value || anyEntryLoops rest

end

mutual

/-- How many levels of mappings there are, one inside the other; a list is a level at the
end. -/
def depth : Value → Nat
  | .map _ entries => depthOfEntries entries + 1
  | .list _ _ => 1
  | _ => 0

def depthOfEntries : List (Scalar × Value) → Nat
  | [] => 0
  | (_, value) :: rest => max (depth value) (depthOfEntries rest)

end

/-- The same value, written out to a depth if anything in it is inside itself. -/
def unfoldTo (depth : Nat) (value : Value) : Value :=
  if value.loops then value.unfold depth else value

end Value

end MarkupLint
