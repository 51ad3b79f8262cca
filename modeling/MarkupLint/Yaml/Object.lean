import MarkupLint.Value.SetOrder
import MarkupLint.Yaml.Literal
import MarkupLint.Yaml.Merge

/-!
What the nodes of a document stand for.  A scalar is read when it is met; a collection stands
empty at first and is filled later, in the order in which collections are met, so that one may
be part of itself.  A fault ends the work, and so of several faults the one that is met first
in this order counts.

`Objects.value` turns the finished objects into a value.  A collection to which there are many
references is made once, so that a short document whose collections refer to each other again
and again does not grow.
-/
namespace MarkupLint.Yaml

/-- An object, whose parts are known by the numbers of their nodes. -/
inductive Object where
  | scalar (s : Scalar)
  | list (items : List Nat)
  | map (entries : List (Scalar × Nat))
  | set (members : List Scalar)
  /-- Pairs, each with a number of its own. -/
  | pairs (pairs : List (Nat × Nat × Nat))
  deriving Repr, Inhabited

/-- The document, its number, the objects so far by their nodes, the collections in the
order in which they were met, and the next number that is free. -/
structure Objects where
  document : Nat
  graph : Graph
  objects : Array (Option Object)
  met : Array Nat := #[]
  next : Nat

namespace Objects

def ofGraph (document : Nat) (graph : Graph) : Objects :=
  { document := document, graph := graph, objects := .replicate graph.nodes.size none,
    next := graph.nodes.size }

def get? (o : Objects) (id : Nat) : Option Object :=
  (o.objects[id]?).join

def put (o : Objects) (id : Nat) (object : Object) : Objects :=
  { o with objects := o.objects.setIfInBounds id (some object) }

/-- Put a collection that is to be filled. -/
def putEmpty (o : Objects) (id : Nat) (object : Object) : Objects :=
  { o.put id object with met := o.met.push id }

/-- The text of a node: that of a scalar, or that under a lone equals sign in a mapping. -/
def textOf (g : Graph) : Nat → Nat → Except Fault String
  | 0, _ => .error .malformed
  | fuel + 1, id =>
      match g.node id with
      | .scalar _ text => .ok text
      | .sequence _ _ => .error .malformed
      | .mapping _ pairs =>
          match pairs.find? fun pair => g.tagOf pair.1 = .default with
          | some (_, value) => textOf g fuel value
          | none => .error .malformed

/-- The scalar of a node.  A point in time needs a node that is a scalar itself. -/
def scalar (o : Objects) (id : Nat) : Except Fault Scalar :=
  match textOf o.graph (o.graph.nodes.size + 1) id with
  | .error fault => .error fault
  | .ok text =>
      match o.graph.node id with
      | .mapping .time _ => .error (.noText "list")
      | _ => scalarOf { document := o.document, number := id } (o.graph.tagOf id) text

/-- Make the object of a node, unless that was done before. -/
def make (o : Objects) (id : Nat) : Except Fault Objects :=
  if (o.get? id).isSome then .ok o
  else
    match o.graph.tagOf id with
    | .sequence => .ok (o.putEmpty id (.list []))
    | .mapping => .ok (o.putEmpty id (.map []))
    | .set => .ok (o.putEmpty id (.set []))
    | .pairs => .ok (o.putEmpty id (.pairs []))
    | .merge | .default | .other _ => .error .malformed
    | _ => (o.scalar id).map fun s => o.put id (.scalar s)

/-- Make the object of a key, which has to be a scalar. -/
def makeKey (o : Objects) (id : Nat) : Except Fault (Scalar × Objects) :=
  match o.make id with
  | .error fault => .error fault
  | .ok o =>
      match o.get? id with
      | some (.scalar s) => .ok (s, o)
      | _ => .error .malformed

def makeAll (o : Objects) : List Nat → Except Fault Objects
  | [] => .ok o
  | id :: rest =>
      match o.make id with
      | .error fault => .error fault
      | .ok o => makeAll o rest

/-! ### Filling collections -/

/-- Give a key a part: in place when the key is there already, else at the end. -/
def setPart (key : Scalar) (part : Nat) : List (Scalar × Nat) → List (Scalar × Nat)
  | [] => [(key, part)]
  | entry :: rest =>
      if entry.1.same key then (entry.1, part) :: rest else entry :: setPart key part rest

def makeEntries (o : Objects) (entries : List (Scalar × Nat)) :
    List (Nat × Nat) → Except Fault (List (Scalar × Nat) × Objects)
  | [] => .ok (entries, o)
  | (key, value) :: rest =>
      match o.makeKey key with
      | .error fault => .error fault
      | .ok (s, o) =>
          match o.make value with
          | .error fault => .error fault
          | .ok o => makeEntries o (setPart s value entries) rest

/-- The entries of a mapping with those merged into it. -/
def entriesOf (o : Objects) (id : Nat) : Except Fault (List (Scalar × Nat) × Objects) :=
  match o.graph.pairs? id with
  | none => .error .malformed
  | some _ =>
      match o.graph.merge id with
      | .error fault => .error fault
      | .ok graph => makeEntries { o with graph := graph } [] ((graph.pairs? id).getD [])

/-- Pairs, each of which stands as a mapping of one key. -/
def makePairs (o : Objects) :
    List Nat → Except Fault (List (Nat × Nat × Nat) × Objects)
  | [] => .ok ([], o)
  | id :: rest =>
      match o.graph.pairs? id with
      | some [(first, second)] =>
          match o.makeAll [first, second] with
          | .error fault => .error fault
          | .ok o =>
              (makePairs { o with next := o.next + 1 } rest).map fun (pairs, final) =>
                ((o.next, first, second) :: pairs, final)
      | _ => .error .malformed

def fill (o : Objects) (id : Nat) : Except Fault Objects :=
  match o.graph.tagOf id, o.graph.node id with
  | .sequence, .sequence _ items => (o.makeAll items).map fun o => o.put id (.list items)
  | .mapping, _ => (o.entriesOf id).map fun (entries, o) => o.put id (.map entries)
  | .set, _ =>
      (o.entriesOf id).map fun (entries, o) =>
        o.put id (.set (SetOrder.arrange (entries.map (·.1))))
  | .pairs, .sequence _ items =>
      (o.makePairs items).map fun (pairs, o) => o.put id (.pairs pairs)
  | _, _ => .error .malformed

/-- Fill the collections that were met, from one of them on. -/
def fillFrom : Nat → Nat → Objects → Except Fault Objects
  | 0, _, o => .ok o
  | fuel + 1, index, o =>
      match o.met[index]? with
      | none => .ok o
      | some id =>
          match o.fill id with
          | .error fault => .error fault
          | .ok o => fillFrom fuel (index + 1) o

/-- The objects of a document.  Each node is met once at most. -/
def ofDocument (document : Nat) (graph : Graph) : Except Fault Objects :=
  match (ofGraph document graph).make graph.root with
  | .error fault => .error fault
  | .ok o => fillFrom graph.nodes.size 0 o

/-! ### The value -/

/-- The label of a collection. -/
def label (o : Objects) (id : Nat) (loops : Bool) : Label :=
  { document := o.document, number := id, loops := loops }

/-- Values by their nodes, as far as they are made.  Of a collection that is inside itself, or
holds one that is, none is kept. -/
abbrev Made := Array (Option (Option Value))

/-- All values of a list, if each is there. -/
def all? (values : List (Option Value)) : Option (List Value) :=
  values.mapM id

/-- The value of an object, made once however often it occurs.  None is given for a collection
that is inside itself or holds one that is; it is taken for such a one while it is made, and so
one that is met in itself is found out. -/
def plainValue (o : Objects) : Nat → Nat → StateM Made (Option Value)
  | 0, _ => return none
  | fuel + 1, id => do
      if let some known := ((← get)[id]?).join then return known
      modify (·.setIfInBounds id (some none))
      let label := o.label id false
      let value : Option Value ←
        match o.get? id with
        | none => pure (some .null)
        | some (.scalar s) => pure (some (.scalar s))
        | some (.set members) => pure (some (.set label members))
        | some (.list items) => do
            let parts ← items.mapM (o.plainValue fuel)
            pure ((all? parts).map (.list (some label)))
        | some (.map entries) => do
            let parts ← entries.mapM fun entry => o.plainValue fuel entry.2
            pure ((all? parts).map fun values =>
              .map (some label) ((entries.map (·.1)).zip values))
        | some (.pairs pairs) => do
            let parts ← pairs.mapM fun (number, first, second) => do
              let a ← o.plainValue fuel first
              let b ← o.plainValue fuel second
              return a.bind fun a => b.map (.pair (o.label number false) a)
            pure ((all? parts).map (.list (some label)))
      modify (·.setIfInBounds id (some value))
      return value

/-- The value of an object inside others; a collection inside itself is not entered. -/
def valueWithin (o : Objects) (made : Made) : Nat → List Nat → Nat → Value
  | 0, _, _ => .null
  | fuel + 1, around, id =>
      match ((made[id]?).join).join with
      | some value => value
      | none =>
          let label := o.label id true
          let inner := o.valueWithin made fuel (id :: around)
          let isAround := around.contains id
          match o.get? id with
          | none => .null
          | some (.scalar s) => .scalar s
          | some (.set members) => .set label members
          | some (.list items) =>
              if isAround then .again label false else .list (some label) (items.map inner)
          | some (.map entries) =>
              if isAround then .again label true
              else .map (some label) (entries.map fun (key, part) => (key, inner part))
          | some (.pairs pairs) =>
              if isAround then .again label false
              else .list (some label) (pairs.map fun (number, first, second) =>
                .pair (o.label number false) (inner first) (inner second))

def value (o : Objects) : Value :=
  let size := o.objects.size
  let (_, made) := o.plainValue (size + 1) o.graph.root (.replicate size none)
  o.valueWithin made (size + 1) [] o.graph.root

end Objects

end MarkupLint.Yaml
