import MarkupLint.Value.Convert

/-!
Layering of values.  Mappings merge key by key.  A later list takes the place of an
earlier one, unless it opens with a mark: `+` appends its remaining items, each once,
and `=` replaces outright.  Anything else is replaced.
-/
namespace MarkupLint.Value

def appendMark : String := "+"

def replaceMark : String := "="

/-- Append the items that equal no item already there. -/
def appendNew (base : List Value) (items : List Value) : List Value :=
  items.foldl (fun merged item => if item.isIn merged then merged else merged ++ [item]) base

def mergeItems (base override : List Value) : List Value :=
  match override with
  | .scalar (.str mark) :: rest =>
      if mark = appendMark then appendNew base rest
      else if mark = replaceMark then rest
      else override
  | _ => override

mutual

/-- What a key holds after an incoming value is laid over its current one. -/
def mergeOver (current : Option Value) : Value → Value
  | .map label incoming =>
      match current with
      | some (.map _ base) => .map none (mergeEntries base incoming)
      | _ => .map label incoming
  | .list label incoming =>
      match current with
      | some (.list _ base) => .list none (mergeItems base incoming)
      | _ => .list label incoming
  | other => other

/-- Lay a mapping over another. -/
def mergeEntries (base : Entries) : List (Scalar × Value) → Entries
  | [] => base
  | (key, incoming) :: rest =>
      mergeEntries (Entries.set base key (mergeOver (Entries.get? base key) incoming)) rest

end

/-- Whether both values have mappings at a place so many levels down. -/
def meetAt : Nat → Value → Value → Bool
  | 0, .map _ _, .map _ _ => true
  | levels + 1, .map l base, .map m incoming =>
      incoming.any fun (key, value) =>
        (Entries.get? base key).any fun current =>
          meetAt levels (part (.map l base) l current) (part (.map m incoming) m value)
  | _, _, _ => false

/-- The same value, written out so many levels down as it meets another one: what is in mappings and
lists that meet has everything it refers to in its place. -/
def unfoldWith : Nat → Value → Option Value → Value
  | _, .list l items, some (.list _ _) => .list l (items.map (part (.list l items) l))
  | levels + 1, .map l entries, some (.map m others) =>
      .map l (entries.map fun (key, value) =>
        (key, unfoldWith levels (part (.map l entries) l value)
          ((Entries.get? others key).map (part (.map m others) m))))
  | _, value, _ => value

/-- Values are merged down to this many levels. -/
def mergeLimit : Nat := 1000

/-- The same value, written out as far as it meets another one.  Values that go on without an end
are not merged beyond the limit, and others meet no further than one of them reaches. -/
def unfoldAlong (value other : Value) : Value :=
  unfoldWith (mergeLimit + (value.depth + other.depth)) value (some other)

/-- Lay a value over a mapping.  A value that is not given changes nothing. -/
def mergeLayer (base : Entries) (layer : Value) : Except ConversionError Entries :=
  if layer.isGiven then
    match layer with
    | .map _ incoming => .ok (mergeEntries base incoming)
    | other => .error (.noAttribute other.fullKindName "items")
  else .ok base

end MarkupLint.Value
