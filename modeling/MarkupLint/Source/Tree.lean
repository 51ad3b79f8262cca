/-!
Parse trees as a grammar gives them: every named node with its type, its bytes and the row
where it starts.
-/
namespace MarkupLint

/-- A stretch of a source: its first byte, the byte after its last one, and the row of the
first, counted from zero. -/
structure Span where
  start : Nat
  stop : Nat
  row : Nat
  deriving DecidableEq, Repr, Inhabited

inductive SourceNode where
  | mk (type : String) (span : Span) (children : List SourceNode)
  deriving Inhabited

namespace SourceNode

def type : SourceNode → String
  | mk type _ _ => type

def span : SourceNode → Span
  | mk _ span _ => span

def children : SourceNode → List SourceNode
  | mk _ _ children => children

mutual

/-- Number of nodes. -/
def size : SourceNode → Nat
  | mk _ _ children => sizeAll children + 1

def sizeAll : List SourceNode → Nat
  | [] => 0
  | node :: rest => size node + sizeAll rest

end

/-- Put a node before trees that are deeper or not; the deeper ones right after it are its
children. -/
def enclose (item : Nat × String × Span) (trees : List (Nat × SourceNode)) :
    List (Nat × SourceNode) :=
  let (inner, outer) := trees.span fun tree => decide (item.1 < tree.1)
  (item.1, mk item.2.1 item.2.2 (inner.map (·.2))) :: outer

/-- The tree of nodes listed with their depths, each before the nodes below it. -/
def ofPreorder? (items : List (Nat × String × Span)) : Option SourceNode :=
  ((items.foldr enclose []).head?).map (·.2)

end SourceNode

end MarkupLint
