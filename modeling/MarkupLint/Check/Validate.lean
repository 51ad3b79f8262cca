import MarkupLint.Check.Checker
import MarkupLint.Markup.Normalize
import MarkupLint.Markup.Segment

/-!
Validation of a document: every segment is normalized and every checker is asked about it
in turn.  An answer is remembered, so a checker is asked only once about a text; a checker
that fails or is late loses its diagnostics for that text and nothing else.

`Pipeline.checkAlone` checks one segment without any memory, and `Pipeline.validate` a
whole document with one.
-/
namespace MarkupLint

structure Pipeline where
  extraction : Extraction := {}
  checkers : List Checker := []
  timeout : TimeLimit := .seconds (.ofNat 10)

/-- What a validation does that can be seen from outside. -/
inductive Event where
  | log (record : LogRecord)
  /-- The checker at a place in the list is asked about a text. -/
  | asked (checker : Nat) (text : String)
  deriving DecidableEq, Repr

namespace Pipeline

/-- Checkers with their places. -/
def places (p : Pipeline) : List (Nat × Checker) :=
  p.checkers.zipIdx.map fun (checker, index) => (index, checker)

def warning (message : String) : LogRecord := ⟨.warning, .validation, message⟩

/-- How an outcome without issues is reported. -/
def complaint? (p : Pipeline) (name : String) (line : Int) : Outcome → Option LogRecord
  | .issues _ => none
  | .timedOut =>
      some (warning ("Checker '" ++ name ++ "' timed out after " ++ p.timeout.text ++
        "s on line " ++ toString line))
  | .failed (.checker checker message) =>
      some (warning ((CheckFailure.checker checker message).message ++
        " (line " ++ toString line ++ ")"))
  | .failed (.crash message) =>
      some (warning
        ("Checker '" ++ name ++ "' failed on line " ++ toString line ++ ": " ++ message))

def diagnostic (line : Int) (checker file : String) (issue : Issue) : Diagnostic :=
  { line := line, message := issue.message, ruleId := issue.ruleId, checker := checker
    file := file }

/-- A text that a checker is to look at, and where it stands. -/
structure Query where
  text : String
  line : Int
  index : Nat
  checker : Checker

/-- One query for each checker, if the text of the segment is worth checking. -/
def queries (p : Pipeline) (segment : Segment) : List Query :=
  let text := Normalize.normalize segment.text.toList
  if Normalize.isCheckable text then
    p.places.map fun (index, checker) => ⟨String.ofList text, segment.line, index, checker⟩
  else []

/-- Issues found so far, by checker and text. -/
abbrev Memo := List ((Nat × String) × List Issue)

structure Progress where
  memo : Memo := []
  diagnostics : List Diagnostic := []
  trace : List Event := []

def Progress.note (records : List LogRecord) (progress : Progress) : Progress :=
  { progress with trace := progress.trace ++ records.map Event.log }

def Progress.report (file : String) (query : Query) (found : List Issue) (progress : Progress) :
    Progress :=
  { progress with
    diagnostics :=
      progress.diagnostics ++ found.map (diagnostic query.line query.checker.name file) }

/-- Ask the checker of a query. -/
def Progress.ask (p : Pipeline) (file : String) (progress : Progress) (query : Query) : Progress :=
  let outcome := query.checker.outcome p.timeout query.text
  let asked : Progress :=
    { progress with
      trace := progress.trace ++ .asked query.index query.text ::
        (p.complaint? query.checker.name query.line outcome).toList.map Event.log }
  asked.report file query outcome.found

/-- As `ask`, unless the answer is remembered; a new answer is. -/
def Progress.consult (p : Pipeline) (file : String) (progress : Progress) (query : Query) :
    Progress :=
  let key := (query.index, query.text)
  match progress.memo.lookup key with
  | some found => progress.report file query found
  | none =>
      let asked := progress.ask p file query
      { asked with
        memo := (key, (query.checker.outcome p.timeout query.text).found) :: asked.memo }

/-- Check one segment without memory. -/
def checkAlone (p : Pipeline) (file : String) (segment : Segment) : Progress :=
  (p.queries segment).foldl (Progress.ask p file) {}

/-- One step of a traversal: its records first, then the checks of its segment. -/
def Progress.advance (p : Pipeline) (file : String) (progress : Progress) (step : Extraction.Step) :
    Progress :=
  (step.segment.elim [] p.queries).foldl (Progress.consult p file) (progress.note step.log)

def Progress.finish (file : String) (progress : Progress) : Progress :=
  progress.note [⟨.debug, .validation,
    "Validated " ++ file ++ ": " ++ toString progress.diagnostics.length ++ " diagnostic(s)"⟩]

def validate (p : Pipeline) (document : Document) : Progress :=
  let progress := (document.steps p.extraction).foldl (Progress.advance p document.fileId) {}
  progress.finish document.fileId

/-- The texts that a checker has come to look at: all it was asked about, unless the limit
leaves no time to start. -/
def seen (p : Pipeline) (trace : List Event) (index : Nat) : List String :=
  if p.timeout.leavesTime then
    trace.filterMap fun
      | .asked i text => if i = index then some text else none
      | .log _ => none
  else []

end Pipeline

/-- The records among events, in order. -/
def Event.records (trace : List Event) : List LogRecord :=
  trace.filterMap fun
    | .log record => some record
    | .asked _ _ => none

end MarkupLint
