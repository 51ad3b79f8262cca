/-!
Documents as trees of nodes.  The engine tells six kinds of node apart and reads only
what `Info` holds; a node is visited together with its siblings, since both the text
around it and the comments before it decide what becomes of it.

`walk` visits a document with a stack of nodes still to come, and `descendants` is the
same order by recursion: each node before the nodes below it, siblings from left to
right.
-/
namespace MarkupLint

inductive Kind where
  | attribute
  | textRun
  | comment
  | expression
  | element
  | other
  deriving DecidableEq, Repr, Inhabited

namespace Kind

def name : Kind → String
  | .attribute => "attribute"
  | .textRun => "text-run"
  | .comment => "comment"
  | .expression => "expression"
  | .element => "element"
  | .other => "other"

def all : List Kind := [.attribute, .textRun, .comment, .expression, .element, .other]

def ofName? (text : String) : Option Kind :=
  all.find? (·.name == text)

end Kind

structure Info where
  kind : Kind
  text : String := ""
  line : Int := 1
  fileId : String := ""
  /-- Name of an attribute. -/
  name : Option String := none
  /-- Value of an attribute as written, quotes included; dynamic values have none. -/
  value : Option String := none
  valueLine : Option Int := none
  /-- Texts of the comments attached to the node. -/
  leading : List String := []
  deriving DecidableEq, Repr, Inhabited

/-- A node without a file belongs to the file of its parent. -/
def Info.within (info : Info) (fileId : String) : Info :=
  if info.fileId.isEmpty then { info with fileId := fileId } else info

inductive Node where
  | mk (info : Info) (children : List Node)
  deriving Inhabited

namespace Node

def info : Node → Info
  | mk info _ => info

def children : Node → List Node
  | mk _ children => children

mutual

def size : Node → Nat
  | mk _ children => sizeAll children + 1

def sizeAll : List Node → Nat
  | [] => 0
  | node :: rest => size node + sizeAll rest

end

mutual

/-- The tree of a node that is added to a parent of the given file. -/
def within (fileId : String) : Node → Node
  | mk info children => mk (info.within fileId) (withinAll (info.within fileId).fileId children)

def withinAll (fileId : String) : List Node → List Node
  | [] => []
  | node :: rest => within fileId node :: withinAll fileId rest

end

end Node

/-- A node where it stands among the children of its parent. -/
structure Visit where
  node : Node
  /-- The siblings before it, nearest first. -/
  before : List Node
  siblings : List Node
  deriving Inhabited

namespace Visit

def info (visit : Visit) : Info := visit.node.info

def row (siblings : List Node) : List Node → List Node → List Visit
  | _, [] => []
  | before, node :: rest => ⟨node, before, siblings⟩ :: row siblings (node :: before) rest

/-- The children of a node, each where it stands. -/
def ofChildren (node : Node) : List Visit :=
  row node.children [] node.children

def weight : List Visit → Nat
  | [] => 0
  | visit :: rest => visit.node.size + weight rest

theorem weight_append (a b : List Visit) : weight (a ++ b) = weight a + weight b := by
  induction a with
  | nil => simp [weight]
  | cons visit rest ih => simp [weight, ih, Nat.add_assoc]

theorem weight_row (siblings before nodes : List Node) :
    weight (row siblings before nodes) = Node.sizeAll nodes := by
  induction nodes generalizing before with
  | nil => rfl
  | cons node rest ih => simp [row, weight, Node.sizeAll, ih]

theorem weight_ofChildren_lt (node : Node) : weight (ofChildren node) < node.size := by
  cases node
  simp [ofChildren, weight_row, Node.size, Node.children]

/-- Visit everything on the stack and below it, the top of the stack first. -/
def walk : List Visit → List Visit
  | [] => []
  | visit :: stack => visit :: walk (ofChildren visit.node ++ stack)
termination_by stack => weight stack
decreasing_by
  have := weight_ofChildren_lt visit.node
  simp only [weight_append, weight]
  omega

mutual

/-- The nodes below a node in document order, by recursion. -/
def descendants : Node → List Visit
  | .mk _ children => descendantsFrom children [] children

def descendantsFrom (siblings before : List Node) : List Node → List Visit
  | [] => []
  | node :: rest =>
      ⟨node, before, siblings⟩ ::
        (descendants node ++ descendantsFrom siblings (node :: before) rest)

end

end Visit

/-- A parsed source: its identity, usually a path, and its tree. -/
structure Document where
  fileId : String
  root : Node
  deriving Inhabited

/-- Every node of the document but the root, in document order. -/
def Document.visits (document : Document) : List Visit :=
  Visit.walk (Visit.ofChildren document.root)

end MarkupLint
