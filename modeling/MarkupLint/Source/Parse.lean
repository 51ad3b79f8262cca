import MarkupLint.Log
import MarkupLint.Project.Path
import MarkupLint.Source.Build
import MarkupLint.Text.Case

/-!
Parsing a source: the grammar goes by the file's extension, and what it makes of the source
is a tree, a syntax error or a failure of its own.  A parser loads each grammar once.
-/
namespace MarkupLint

inductive Grammar where
  | tsx
  | typescript
  deriving DecidableEq, Repr

namespace Grammar

def name : Grammar → String
  | tsx => "tsx"
  | typescript => "typescript"

/-- Only plain TypeScript has a grammar of its own; all else may hold markup. -/
def ofFile (fileId : String) : Grammar :=
  if Text.lowered (Path.ofText fileId).suffix = ".ts" then typescript else tsx

end Grammar

/-- What a grammar makes of a source. -/
inductive Reading where
  | tree (root : SourceNode)
  | syntaxError
  | crash (message : String)
  | interrupt
  deriving Inhabited

inductive ParseError where
  /-- A source that no usable tree can be had for. -/
  | unavailable (fileId reason : String)
  | crash (message : String)
  | interrupted
  deriving DecidableEq, Repr

def ParseError.message : ParseError → String
  | unavailable fileId reason =>
      "Cannot parse " ++ fileId ++ if reason.isEmpty then "" else ": " ++ reason
  | crash message => message
  | interrupted => ""

structure Parser where
  loaded : List Grammar := []
  deriving DecidableEq, Repr

namespace Parser

/-- The parser after a grammar was asked for, with a record if it had to be loaded. -/
def load (parser : Parser) (grammar : Grammar) : Logged Parser :=
  if parser.loaded.contains grammar then ⟨parser, []⟩
  else
    { value := ⟨grammar :: parser.loaded⟩
      log := [⟨.debug, .sources, "Loaded tree-sitter grammar '" ++ grammar.name ++ "'"⟩] }

def result (source : Source) : Reading → Logged (Except ParseError Document)
  | .tree root => ⟨.ok (source.parsed root), []⟩
  | .syntaxError =>
      { value := .error (.unavailable source.fileId "syntax error")
        log := [⟨.debug, .sources, "Syntax errors in " ++ source.fileId⟩] }
  | .crash message => ⟨.error (.crash message), []⟩
  | .interrupt => ⟨.error .interrupted, []⟩

def parse (parser : Parser) (source : Source) (reading : Reading) :
    Parser × Logged (Except ParseError Document) :=
  let ready := parser.load (Grammar.ofFile source.fileId)
  let made := result source reading
  (ready.value, { made with log := ready.log ++ made.log })

end Parser

end MarkupLint
