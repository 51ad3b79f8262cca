import MarkupLint.Check.Interleave
import MarkupLint.Check.Registry
import MarkupLint.Project.Discover

/-!
Linting sources and files.  A source that cannot be parsed gives no diagnostics; a file that
cannot be read or parsed, or whose parsing or validation fails in any other way, is skipped.
-/
namespace MarkupLint

structure Linter where
  pipeline : Pipeline := {}
  scan : ScanSettings := {}
  /-- What goes wrong at the next step of a validation, the failures of checkers apart. -/
  fault? : Task → Option String := fun _ => none

structure FileReport where
  path : String
  diagnostics : List Diagnostic := []
  skipped : Bool := false
  deriving DecidableEq, Repr

namespace Linter

/-- The linter that settings describe, with checkers of its own. -/
def withCheckers (settings : LintSettings) (checkers : List Checker) :
    Except ConversionError Linter :=
  settings.checkerTimeout.map fun seconds =>
    { pipeline :=
        { extraction := ⟨settings.attributes, settings.directives⟩
          checkers := checkers
          timeout := .ofSeconds seconds }
      scan := settings.scan }

/-- The linter that settings describe, with the checkers they enable. -/
def ofSettings (registry : Registry) (settings : LintSettings) :
    Logged (Except SetupError Linter) :=
  let built := registry.build (.ofEntries settings.checkers)
  match built.value with
  | .error e => ⟨.error e, built.log⟩
  | .ok installed =>
      { value := (withCheckers settings (installed.map (·.checker))).mapError .setting
        log := built.log }

def warning (message : String) : LogRecord := ⟨.warning, .linting, message⟩

def withoutTree (error : ParseError) : LogRecord :=
  warning (error.message ++ "; reporting no diagnostics")

/-- Where a validation has come to, and what went wrong there, if anything did. -/
structure Ending where
  task : Task
  fault : Option String := none

/-- A validation taken on until it ends or something goes wrong. -/
def attempt (linter : Linter) : Nat → Task → Ending
  | 0, task => { task := task }
  | n + 1, task =>
      if task.finished then { task := task }
      else
        match linter.fault? task with
        | some reason => { task := task, fault := some reason }
        | none => linter.attempt n (task.step linter.pipeline)

/-- Where a validation in progress comes to. -/
def ending (linter : Linter) (task : Task) : Ending :=
  linter.attempt (task.fuel linter.pipeline) task

def validate (linter : Linter) (document : Document) : Ending :=
  linter.ending (Task.ofDocument document)

/-- The diagnostics of a source.  A failure of the grammar or of the validation is passed on. -/
def lintSource (linter : Linter) (parser : Parser) (source : Source) (reading : Reading) :
    Parser × Logged (Except ParseError (List Diagnostic)) :=
  let (parser, parsed) := parser.parse source reading
  match parsed.value with
  | .ok document =>
      let ending := linter.validate document
      let progress := ending.task.progress
      ( parser,
        { value := ending.fault.elim (.ok progress.diagnostics) fun reason => .error (.crash reason)
          log := parsed.log ++ Event.records progress.trace })
  | .error (.unavailable fileId reason) =>
      (parser, ⟨.ok [], parsed.log ++ [withoutTree (.unavailable fileId reason)]⟩)
  | .error e => (parser, ⟨.error e, parsed.log⟩)

/-- What comes of opening a file. -/
inductive Opening where
  | skipped
  | ready (document : Document)
  | interrupted

def unexpected (path : String) : LogRecord :=
  ⟨.error, .linting, "Unexpected failure while linting " ++ path⟩

/-- What is said of a file whose bytes are not text. -/
def undecodable : String := "the file is not UTF-8 text"

/-- The characters of a file, or what is said of a file that cannot be read. -/
def read (content : FileContent) : Except String (List Char) :=
  match content.refusal? with
  | some reason => .error reason
  | none => (Project.decode content.bytes).mapError fun _ => undecodable

def openFile (parser : Parser) (file : SourceFile) : Parser × Logged Opening :=
  let path := file.path.text
  match read file.content with
  | .error reason => (parser, ⟨.skipped, [warning ("Cannot read " ++ path ++ ": " ++ reason)]⟩)
  | .ok text =>
      let (parser, parsed) :=
        parser.parse ⟨path, Utf8.encode (String.ofList text)⟩ file.content.reading
      match parsed.value with
      | .ok document => (parser, ⟨.ready document, parsed.log⟩)
      | .error (.unavailable fileId reason) =>
          (parser, ⟨.skipped, parsed.log ++ [withoutTree (.unavailable fileId reason)]⟩)
      | .error (.crash _) => (parser, ⟨.skipped, parsed.log ++ [unexpected path]⟩)
      | .error .interrupted => (parser, ⟨.interrupted, parsed.log⟩)

/-- The report on a file whose validation has come to an end. -/
def Ending.report (file : SourceFile) (ending : Ending) : FileReport :=
  match ending.fault with
  | none => { path := file.path.text, diagnostics := ending.task.progress.diagnostics }
  | some _ => { path := file.path.text, skipped := true }

/-- The report on a file by itself, unless its parsing is interrupted. -/
def report? (linter : Linter) (file : SourceFile) : Option FileReport :=
  match (openFile {} file).2.value with
  | .skipped => some { path := file.path.text, skipped := true }
  | .ready document => some ((linter.validate document).report file)
  | .interrupted => none

end Linter

end MarkupLint
