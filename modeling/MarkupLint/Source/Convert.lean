import MarkupLint.Markup.Directive
import MarkupLint.Source.Tree
import MarkupLint.Text.Utf8

/-!
Parse trees as documents.  Text and character references side by side become one run;
comments, also those that stand alone between braces, become comments and are attached to
what comes right after them; attributes carry the literal that is their value, if it is
one.

`Source.convert` goes down the tree by recursion; the work-stack construction of the
neighbouring module gives the same documents.
-/
namespace MarkupLint

/-- A source and its identity. -/
structure Source where
  fileId : String
  bytes : List UInt8

namespace SourceNode

def isText (node : SourceNode) : Bool :=
  node.type == "jsx_text" || node.type == "html_character_reference"

def isComment (node : SourceNode) : Bool :=
  node.type == "comment"

def isLiteral (node : SourceNode) : Bool :=
  node.type == "string" || node.type == "template_string"

/-- A value between braces is static if a literal without substitutions is all there is
besides comments. -/
def braced? (children : List SourceNode) : Option SourceNode :=
  match children.filter (!·.isComment) with
  | [literal] =>
      if literal.isLiteral && !literal.children.any (·.type == "template_substitution") then
        some literal
      else none
  | _ => none

/-- The literal that an attribute's value consists of, if it is static. -/
def literal? (value : SourceNode) : Option SourceNode :=
  if value.type = "string" then some value
  else if value.type = "jsx_expression" then braced? value.children
  else none

def kind (node : SourceNode) : Kind :=
  if node.isComment then .comment
  else if node.type = "jsx_expression" then
    if !node.children.isEmpty && node.children.all isComment then .comment else .expression
  else if node.type = "jsx_attribute" then .attribute
  else if node.type = "jsx_element" ∨ node.type = "jsx_self_closing_element" then .element
  else .other

end SourceNode

def Span.line (span : Span) : Int := (span.row : Int) + 1

namespace Source

/-- The text between two bytes, as far as it can be read. -/
def slice (source : Source) (start stop : Nat) : String :=
  String.ofList (Utf8.lossy ((source.bytes.drop start).take (stop - start)))

def textOf (source : Source) (span : Span) : String :=
  source.slice span.start span.stop

/-- A run from the first of its pieces to the last; its line is that of its first character
that is not blank. -/
def runInfo (source : Source) (first last : Span) : Info :=
  let text := source.slice first.start last.stop
  let leading := text.toList.takeWhile Text.isBlank
  { kind := .textRun
    text := text
    line := first.line + leading.count '\n'
    fileId := source.fileId }

/-- What a node says about itself, the comments before it apart. -/
def info (source : Source) (node : SourceNode) : Info :=
  let plain : Info :=
    { kind := node.kind, text := source.textOf node.span, line := node.span.line,
      fileId := source.fileId }
  if node.kind = .attribute then
    let literal := ((node.children[1]?).bind SourceNode.literal?).map SourceNode.span
    { plain with
      name := (node.children.head?).map fun name => source.textOf name.span
      value := literal.map source.textOf
      valueLine := literal.map Span.line }
  else plain

/-- The comments that lead up to the next node, after a node has come. -/
def leadingAfter (comments : List String) (info : Info) : List String :=
  if info.isBlankRun then comments
  else if info.kind = .comment then comments ++ [info.text]
  else []

/-- A node with the comments that lead up to it; a blank run takes none. -/
def led (comments : List String) (info : Info) : Info :=
  if info.isBlankRun then info else { info with leading := comments }

/-- The run that pieces of text make, if there are any. -/
def run? (source : Source) (pieces : Option (Span × Span)) : Option Info :=
  pieces.map fun (first, last) => source.runInfo first last

/-- Add a piece to the pieces of a run. -/
def extend (pieces : Option (Span × Span)) (piece : Span) : Option (Span × Span) :=
  some ((pieces.map (·.1)).getD piece, piece)

/-- The node of a run and the comments that lead up to what follows it. -/
def closeRun (comments : List String) : Option Info → List Node × List String
  | none => ([], comments)
  | some run => ([.mk (led comments run) []], leadingAfter comments run)

mutual

/-- The node that a parse tree makes, given the comments that lead up to it. -/
def convert (source : Source) (comments : List String) : SourceNode → Node
  | .mk type span children =>
      let info := source.info (.mk type span children)
      .mk (led comments info)
        (match info.kind with
          | .comment => []
          | .attribute =>
              match children with
              | [] => []
              | _ :: values => convertValues source values
          | _ => convertAll source none [] children)

/-- Nodes side by side, with the pieces of an open run and the comments before them. -/
def convertAll (source : Source) (pieces : Option (Span × Span)) (comments : List String) :
    List SourceNode → List Node
  | [] => (closeRun comments (source.run? pieces)).1
  | node :: rest =>
      if node.isText then convertAll source (extend pieces node.span) comments rest
      else
        let (runs, led) := closeRun comments (source.run? pieces)
        runs ++ convert source led node ::
          convertAll source none (leadingAfter led (source.info node)) rest

/-- What an attribute holds besides its name and literals. -/
def convertValues (source : Source) : List SourceNode → List Node
  | [] => []
  | node :: rest =>
      if node.isLiteral then convertValues source rest
      else convert source [] node :: convertValues source rest

end

/-- The document of a source and its parse tree. -/
def document (source : Source) (root : SourceNode) : Document :=
  { fileId := source.fileId
    root :=
      .mk { kind := .other, fileId := source.fileId } (convertAll source none [] root.children) }

end Source

end MarkupLint
