import MarkupLint.Markup.Forest
import MarkupLint.Source.Convert

/-!
Documents built with a stack of work instead of recursion.  A frame is a node of the growing
forest together with the parse tree whose children it is still to get; giving them opens
frames for those that have children of their own.  Deep sources need no deep recursion, and
the frames may be taken in any order.
-/
namespace MarkupLint

structure Builder where
  forest : Forest := {}
  frames : List (Nat × SourceNode) := []

namespace Builder

/-- Add a node under a parent.  Its number is the size of the forest before. -/
def attach (b : Builder) (parent : Nat) (info : Info) : Builder :=
  { b with forest := (b.forest.alloc info).add parent b.forest.size }

mutual

/-- Add the node of a parse tree.  An attribute gets its values at once; for other nodes a
frame is opened, except that comments stay without children. -/
def place (source : Source) (b : Builder) (parent : Nat) (comments : List String) :
    SourceNode → Builder
  | .mk type span children =>
      let node := SourceNode.mk type span children
      let info := source.info node
      let id := b.forest.size
      let grown := b.attach parent (Source.led comments info)
      match info.kind with
      | .comment => grown
      | .attribute =>
          match children with
          | [] => grown
          | _ :: values => placeValues source grown id values
      | _ => { grown with frames := (id, node) :: grown.frames }

def placeValues (source : Source) (b : Builder) (parent : Nat) : List SourceNode → Builder
  | [] => b
  | node :: rest =>
      if node.isLiteral then placeValues source b parent rest
      else placeValues source (place source b parent [] node) parent rest

end

/-- The children that a frame is still to get, one after another: pieces of a run are put
aside until something else comes. -/
structure Row where
  builder : Builder
  pieces : Option (Span × Span) := none
  comments : List String := []

namespace Row

/-- Add the run that the pieces put aside make. -/
def flush (source : Source) (parent : Nat) (row : Row) : Row :=
  match source.run? row.pieces with
  | none => row
  | some run =>
      { builder := row.builder.attach parent (Source.led row.comments run)
        comments := Source.leadingAfter row.comments run }

def take (source : Source) (parent : Nat) (row : Row) (node : SourceNode) : Row :=
  if node.isText then { row with pieces := Source.extend row.pieces node.span }
  else
    let flushed := row.flush source parent
    { builder := flushed.builder.place source parent flushed.comments node
      comments := Source.leadingAfter flushed.comments (source.info node) }

end Row

/-- Give a node of the forest all the children that its parse tree has. -/
def fill (source : Source) (b : Builder) (parent : Nat) (node : SourceNode) : Builder :=
  ((node.children.foldl (Row.take source parent) { builder := b }).flush source parent).builder

/-- Work on the frame at a place in the stack. -/
def step (source : Source) (b : Builder) (pick : Nat) : Builder :=
  match b.frames[pick]? with
  | none => b
  | some (id, node) => { b with frames := b.frames.eraseIdx pick }.fill source id node

/-- Work off the stack, the frame to take next being chosen by its length. -/
def run (source : Source) (choose : Nat → Nat) : Nat → Builder → Builder
  | 0, b => b
  | fuel + 1, b =>
      if b.frames.isEmpty then b
      else run source choose fuel (b.step source (choose b.frames.length))

/-- A forest with the root of a document, which the parse tree is still to fill. -/
def start (source : Source) (root : SourceNode) : Builder :=
  { forest := ({} : Forest).alloc { kind := .other, fileId := source.fileId }
    frames := [(0, root)] }

/-- Each node of the parse tree opens at most one frame. -/
def build (source : Source) (root : SourceNode) : Forest :=
  (run source (fun _ => 0) root.size (start source root)).forest

end Builder

/-- The document of a source and its parse tree, built with a stack. -/
def Source.parsed (source : Source) (root : SourceNode) : Document :=
  { fileId := source.fileId, root := (Builder.build source root).tree 0 }

end MarkupLint
