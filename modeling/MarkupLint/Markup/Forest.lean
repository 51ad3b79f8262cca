import MarkupLint.Markup.Directive
import MarkupLint.Markup.Fragment

/-!
Trees under construction.  Nodes have numbers; each keeps the list of its children and a
link to the parent it was last added to.  The two may disagree: a node that is added to a
second parent stays in the first one's list, and a detached node keeps its link.  What
stands before a node is read off the list of the parent it is linked to.
-/
namespace MarkupLint

structure Slot where
  info : Info
  parent : Option Nat := none
  children : List Nat := []
  deriving Inhabited

structure Forest where
  slots : Array Slot := #[]
  deriving Inhabited

namespace Forest

def size (forest : Forest) : Nat := forest.slots.size

def info? (forest : Forest) (id : Nat) : Option Info :=
  forest.slots[id]?.map (·.info)

def parent? (forest : Forest) (id : Nat) : Option Nat :=
  forest.slots[id]?.bind (·.parent)

def children (forest : Forest) (id : Nat) : List Nat :=
  (forest.slots[id]?.map (·.children)).getD []

/-- A new node without a parent; its number is the size of the forest before. -/
def alloc (forest : Forest) (info : Info) : Forest :=
  { slots := forest.slots.push { info := info } }

/-- Append a node to the children of a parent and link it there. -/
def add (forest : Forest) (parent child : Nat) : Forest :=
  match forest.info? parent with
  | none => forest
  | some above =>
      { slots :=
          (forest.slots.modify child fun slot =>
            { slot with
              parent := some parent
              info := slot.info.within above.fileId }).modify parent
            fun slot => { slot with children := slot.children ++ [child] } }

/-- Why a node cannot be detached. -/
inductive DetachError where
  | noParent
  /-- The parent that the node is linked to does not list it. -/
  | notListed
  deriving DecidableEq, Repr

/-- Take a node out of its parent's list, once, keeping the link. -/
def detach (forest : Forest) (id : Nat) : Except DetachError Forest :=
  match forest.parent? id with
  | none => .error .noParent
  | some parent =>
      if (forest.children parent).contains id then
        .ok { slots := forest.slots.modify parent fun slot =>
          { slot with children := slot.children.erase id } }
      else .error .notListed

mutual

/-- Allocate a node, add it to the parent if there is one, then its children to it. -/
def plant (forest : Forest) (parent : Option Nat) : Node → Forest
  | .mk info children =>
      let id := forest.size
      let grown := forest.alloc info
      plantAll (match parent with | some above => grown.add above id | none => grown) id children

def plantAll (forest : Forest) (parent : Nat) : List Node → Forest
  | [] => forest
  | node :: rest => plantAll (plant forest (some parent) node) parent rest

end

/-- The member right before the first occurrence of `id` in a list. -/
def memberBefore? (id : Nat) : List Nat → Option Nat
  | [] => none
  | [_] => none
  | a :: b :: rest =>
      if a = id then none else if b = id then some a else memberBefore? id (b :: rest)

def previousSibling? (forest : Forest) (id : Nat) : Option Nat :=
  (forest.parent? id).bind fun parent => memberBefore? id (forest.children parent)

/-- Go back from sibling to sibling past blank runs. -/
def precedingFrom (forest : Forest) : Nat → Option Nat → Option Nat
  | 0, _ => none
  | _, none => none
  | fuel + 1, some id =>
      if (forest.info? id).any Info.isBlankRun then
        precedingFrom forest fuel (forest.previousSibling? id)
      else some id

/-- The nearest sibling before a node that is not a blank run.  A walk that meets no node
twice takes fewer steps than there are nodes. -/
def preceding? (forest : Forest) (id : Nat) : Option Nat :=
  precedingFrom forest (forest.size + 1) (forest.previousSibling? id)

def precedingComment? (forest : Forest) (id : Nat) : Option Info :=
  ((forest.preceding? id).bind forest.info?).filter (·.kind == .comment)

/-- Whether the single marker is attached to a node. -/
def isExcluded (forest : Forest) (d : Directives) (id : Nat) : Bool :=
  (forest.info? id).any (fun info => info.leading.any d.isSingle) ||
    (forest.precedingComment? id).any fun comment => d.isSingle comment.text

def childInfos (forest : Forest) (id : Nat) : List Info :=
  (forest.children id).filterMap forest.info?

/-- Whether a text run is a piece of the mixed content of the parent it is linked to. -/
def isFragment (forest : Forest) (id : Nat) : Bool :=
  (forest.info? id).any (·.kind == .textRun) &&
    (forest.parent? id).any fun parent =>
      Fragment.isMixed (inlineContent (forest.childInfos parent))

/-- The member at a place in a list; places below zero are counted from its end. -/
def member? (members : List Nat) (place : Int) : Option Nat :=
  if 0 ≤ place then members[place.toNat]?
  else if place.natAbs ≤ members.length then members[members.length - place.natAbs]?
  else none

/-- The node at the end of a path of places, the first of them among some nodes. -/
def at? (forest : Forest) : List Nat → List Int → Option Nat
  | _, [] => none
  | members, [place] => member? members place
  | members, place :: path =>
      (member? members place).bind fun id => forest.at? (forest.children id) path

/-- The nodes at most `depth` levels below a node, in document order. -/
def below (forest : Forest) : Nat → Nat → List Nat
  | 0, _ => []
  | depth + 1, id => (forest.children id).flatMap fun child => child :: below forest depth child

/-- All nodes below a node in document order; no tree is deeper than it has nodes. -/
def descendants (forest : Forest) (id : Nat) : List Nat :=
  forest.below forest.size id

/-- The tree below a node, down to a depth. -/
def treeFrom (forest : Forest) : Nat → Nat → Node
  | 0, id => .mk ((forest.info? id).getD default) []
  | depth + 1, id =>
      .mk ((forest.info? id).getD default) ((forest.children id).map (forest.treeFrom depth))

def tree (forest : Forest) (id : Nat) : Node :=
  forest.treeFrom forest.size id

end Forest

end MarkupLint
