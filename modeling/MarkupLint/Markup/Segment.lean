import MarkupLint.Markup.Attribute
import MarkupLint.Markup.Fragment
import MarkupLint.Markup.Region

/-!
The text of a document that a user sees, piece by piece in document order: values of
checked attributes, and text runs that stand on their own.  Nodes inside an ignore region
and nodes that the single marker excludes give nothing.

`walk` keeps what happens at every node, so that the records of region changes can be put
between the checks; `Document.segments` and `Document.records` are its two halves.
-/
namespace MarkupLint

inductive SegmentOrigin where
  | attribute
  | textRun
  deriving DecidableEq, Repr

namespace SegmentOrigin

def name : SegmentOrigin → String
  | .attribute => "attribute"
  | .textRun => "text-run"

def ofName? (text : String) : Option SegmentOrigin :=
  [SegmentOrigin.attribute, SegmentOrigin.textRun].find? (·.name == text)

end SegmentOrigin

structure Segment where
  text : String
  line : Int
  origin : SegmentOrigin
  deriving DecidableEq, Repr

/-- What decides which text is extracted. -/
structure Extraction where
  rules : AttributeRules := {}
  directives : Directives := {}
  deriving DecidableEq, Repr

namespace Extraction

/-- The value of a checked attribute, at the line where the value starts. -/
def ofAttribute (e : Extraction) (visit : Visit) : Option Segment :=
  match visit.info.name, visit.info.value with
  | some name, some value =>
      if !name.isEmpty && e.rules.isChecked name && !visit.isExcluded e.directives then
        some ⟨value, visit.info.valueLine.getD visit.info.line, .attribute⟩
      else none
  | _, _ => none

/-- A trimmed text run that is neither blank nor a piece of mixed content. -/
def ofTextRun (e : Extraction) (visit : Visit) : Option Segment :=
  let text := Text.trimmed visit.info.text
  if text.isEmpty || visit.isFragment || visit.isExcluded e.directives then none
  else some ⟨text, visit.info.line, .textRun⟩

def segment? (e : Extraction) (visit : Visit) : Option Segment :=
  match visit.info.kind with
  | .attribute => e.ofAttribute visit
  | .textRun => e.ofTextRun visit
  | _ => none

/-- What a traversal makes of one node. -/
structure Step where
  region : Region
  log : List LogRecord
  segment : Option Segment

/-- Show a node to the region it is met in, and extract its text unless it is a control
comment or suppressed. -/
def step (e : Extraction) (region : Region) (visit : Visit) : Step :=
  let seen := Region.observe e.directives region visit.info
  { region := seen.region
    log := seen.log
    segment :=
      if Region.isControl e.directives visit.info || Region.suppresses seen.region visit.info then
        none
      else e.segment? visit }

def walk (e : Extraction) : Region → List Visit → List Step
  | _, [] => []
  | region, visit :: rest =>
      let step := e.step region visit
      step :: walk e step.region rest

end Extraction

/-- The traversal of a document, which starts outside any region. -/
def Document.steps (document : Document) (e : Extraction) : List Extraction.Step :=
  e.walk none document.visits

def Document.segments (document : Document) (e : Extraction) : List Segment :=
  (document.steps e).filterMap (·.segment)

def Document.records (document : Document) (e : Extraction) : List LogRecord :=
  (document.steps e).flatMap (·.log)

end MarkupLint
