import MarkupLint.Text.Scan
import MarkupLint.Value.Basic

/-!
Places inside a value: paths of keys through nested mappings, and replacing a
container wherever it occurs.
-/
namespace MarkupLint.Value

/-- The value at the end of a path of keys. -/
def at? : Value → List Scalar → Option Value
  | value, [] => some value
  | .map _ entries, key :: path => (Entries.get? entries key).bind fun child => at? child path
  | _, _ :: _ => none

/-- The value under a key written with dots between its parts. -/
def lookup? (value : Value) (key : String) : Option Value :=
  let path := (Text.splitText "." key).map Scalar.str
  (value.unfoldTo path.length).at? path

mutual

/-- Give every container with the label these entries. -/
def refresh (label : Label) (entries : Entries) : Value → Value
  | .scalar s => .scalar s
  | .list l items => .list l (refreshItems label entries items)
  | .pair l a b => .pair l (refresh label entries a) (refresh label entries b)
  | .set l members => .set l members
  | .map l own =>
      if l = some label then .map l entries else .map l (refreshEntries label entries own)
  | .again l mapping => .again l mapping

def refreshItems (label : Label) (entries : Entries) : List Value → List Value
  | [] => []
  | item :: rest => refresh label entries item :: refreshItems label entries rest

def refreshEntries (label : Label) (entries : Entries) : List (Scalar × Value) → Entries
  | [] => []
  | (key, value) :: rest =>
      (key, refresh label entries value) :: refreshEntries label entries rest

end

mutual

/-- Leaves for the containers with the label. -/
def knot (label : Label) : Value → Value
  | .scalar s => .scalar s
  | .list l items => .list l (knotItems label items)
  | .pair l a b => .pair l (knot label a) (knot label b)
  | .set l members => .set l members
  | .map l own => if l = some label then .again label true else .map l (knotEntries label own)
  | .again l mapping => .again l mapping

def knotItems (label : Label) : List Value → List Value
  | [] => []
  | item :: rest => knot label item :: knotItems label rest

def knotEntries (label : Label) : List (Scalar × Value) → Entries
  | [] => []
  | (key, value) :: rest => (key, knot label value) :: knotEntries label rest

end

/-- The containers around the place that a path leads to, the innermost first. -/
def enclosing : Entries → List Scalar → List (Label × Entries)
  | entries, key :: next :: rest =>
      match Entries.get? entries key with
      | some (.map label child) => enclosing child (next :: rest) ++ label.toList.map (·, child)
      | _ => []
  | _, _ => []

/-- The entries of a container as they may stand anywhere.  Leaves for the containers around it
give way to these, and leaves inside them stand for it. -/
def standalone (label : Label) (outer : List (Label × Entries)) (entries : Entries) : Entries :=
  (outer.filter (·.1 != label)).foldl
    (fun inner around =>
      fillEntries around.1 (.map (some around.1) (knotEntries label around.2)) inner)
    (knotEntries label entries)

/-- Show the container at `path` wherever it occurs in the root. -/
def share (root : Entries) (path : List Scalar) : Entries :=
  match (Value.map none root).at? path with
  | some (.map (some label) entries) =>
      refreshEntries label (standalone label (enclosing root path) entries) root
  | _ => root

end MarkupLint.Value
