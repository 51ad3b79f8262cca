import MarkupLint.Command.Output
import MarkupLint.Command.Usage
import MarkupLint.Config.Load
import MarkupLint.Config.Settings
import MarkupLint.Log.Sinks
import MarkupLint.Project.Batch
import MarkupLint.Project.Report
import MarkupLint.Yaml.Write

/-!
The commands.  `check` lints the named files and folders and reports; `show-config` shows the
merged configuration, or the value under one key of it.

They end with 0 when all is well, with 1 when something was found (or a key was not), with 2
when the configuration cannot be loaded or the arguments are not understood, and with 130 when
they are interrupted.
-/
namespace MarkupLint.Command

/-- What a command works on. -/
structure Surroundings where
  /-- How the working folder is written; the project is what is below it. -/
  working : Path := {}
  /-- How the folder of the bundled configuration is written. -/
  bundled : Path := {}
  /-- Where a tilde leads. -/
  home : Option Path := none
  project : Project := {}
  environment : List (String × String) := []
  registry : Registry := []

/-- What a command leaves. -/
structure Outcome where
  exit : Nat := 0
  written : Written := {}
  /-- The log lines, which go to the console besides what is written. -/
  log : List String := []

/-- Why a command breaks off without an answer. -/
inductive Failure where
  | load (e : LoadError)
  | conversion (e : ConversionError)
  | setup (e : SetupError)
  | output (e : OutputError)
  /-- A path that cannot be looked up. -/
  | read (e : ReadError)
  /-- A tilde leads nowhere. -/
  | noHome

def Failure.message : Failure → String
  | load e => e.message
  | conversion e => e.message
  | setup e => e.message
  | output e => e.message
  | read .nullCharacter => "embedded null byte"
  | read _ => ""
  | noHome => "Could not determine home directory."

namespace Surroundings

/-- The folder that holds the configuration; the working folder unless another one is given. -/
def rootFolder (s : Surroundings) (given : Option String) : Except Failure Path :=
  let path := Path.ofText (given.getD "")
  if (given.getD "").isEmpty then .ok s.working
  else if path.hasNull then .error (.read .nullCharacter)
  else
    match path.isAbsolute, path.names with
    | false, first :: rest =>
        if first.toList.head? = some '~' then
          match s.home with
          | some home =>
              if first = "~" then .ok (home.resolve { names := rest }) else .error .noHome
          | none => .error .noHome
        else .ok (s.working.resolve path)
    | _, _ => .ok (s.working.resolve path)

/-- The configuration of a root folder; outside the project no files are known. -/
def configSource (s : Surroundings) (root : Path) : Except Failure ConfigSource :=
  match ((s.working.below? root).map (Config.filesOf s.project)).getD (.ok []) with
  | .error e => .error (.read e)
  | .ok files =>
      .ok
        { bundled := s.bundled
          folder := root.join { names := Config.folderName }
          files := files
          environment := s.environment }

/-- The configuration source that a command line names. -/
def sourceOf (s : Surroundings) (given : Option String) : Except Failure ConfigSource :=
  (s.rootFolder given).bind s.configSource

end Surroundings

/-- The answer to a configuration that cannot be loaded. -/
def configFailure (form : OutputForm) (e : ConfigError) : Outcome :=
  { exit := 2, written := form.failure e.message "" "config_error" }

/-! ### Showing the configuration -/

/-- A value as it is shown. -/
def shown (form : OutputForm) (value : Value) : Except Failure Written :=
  if form.json then (form.data value).mapError .output
  else
    match Yaml.write value with
    | .ok text => .ok (OutputForm.text (String.ofList (Text.trimEnd text.toList)))
    | .error e => .error (.conversion e)

def unknownKey (form : OutputForm) (key : String) : Outcome :=
  { exit := 1, written := form.failure "" ("Unknown config key: " ++ key) "unknown_key" }

def showConfig (s : Surroundings) (request : ShowRequest) : Except Failure Outcome :=
  let form : OutputForm := { json := request.json }
  match s.sourceOf request.root with
  | .error e => .error e
  | .ok source =>
      match (Config.load source true).value with
      | .error (.config e) => .ok (configFailure form e)
      | .error e => .error (.load e)
      | .ok entries =>
          let key := request.key.getD ""
          if key.isEmpty then
            (shown form (.ofEntries entries)).map fun written => { written := written }
          else
            match Config.get? source key with
            | .error e => .error (.load e)
            | .ok none | .ok (some .null) => .ok (unknownKey form key)
            | .ok (some value) => (shown form value).map fun written => { written := written }

/-! ### Checking files -/

def diagnosticData (d : Diagnostic) : Value :=
  .ofFields
    [("line", .int d.line), ("message", .str d.message), ("rule_id", .str d.ruleId),
     ("checker", .str d.checker), ("file", .str d.file)]

def reportData (report : FileReport) : Value :=
  .ofFields
    [("path", .str report.path), ("skipped", .bool report.skipped),
     ("diagnostics", .ofList (report.diagnostics.map diagnosticData))]

/-- The reports in the form asked for. -/
def reportText (form : OutputForm) (reports : List FileReport) : Except Failure Written :=
  if form.json then
    (form.data (.ofFields
      [("files", .ofList (reports.map reportData)),
       ("total", .int (Report.summary reports).total)])).mapError .output
  else .ok { out := Report.text reports }

/-- The log lines of a run at the level asked for. -/
def logLines (verbose : Nat) (settings : LintSettings) (records : List LogRecord) : List String :=
  let journal := ({} : Journal).setUp verbose settings.logLevel
  (records.foldl (fun journal record => journal.emit record.emission) journal).sinks.console

/-- Check files with the settings of a configuration. -/
def checkWith (s : Surroundings) (request : CheckRequest) (settings : LintSettings) :
    Except Failure Outcome :=
  let built := Linter.ofSettings s.registry settings
  match built.value with
  | .error e => .error (.setup e)
  | .ok linter =>
      let run := linter.lintPaths s.project (request.paths.map Path.ofText)
      let log := logLines request.verbose settings (built.log ++ run.log)
      match run.value with
      | .error .interrupted =>
          .ok { exit := 130, written := { err := "Interrupted\n" }, log := log }
      | .error (.refused e) => .error (.read e)
      | .ok reports =>
          let failed := !request.noFail && (Report.summary reports).total != 0
          (reportText { json := request.json } reports).map fun written =>
            { exit := if failed then 1 else 0, written := written, log := log }

def check (s : Surroundings) (request : CheckRequest) : Except Failure Outcome :=
  match s.sourceOf request.root with
  | .error e => .error e
  | .ok source =>
      match (Config.load source true).value with
      | .error (.config e) => .ok (configFailure { json := request.json } e)
      | .error e => .error (.load e)
      | .ok entries =>
          match LintSettings.ofConfig (.ofEntries entries) with
          | .error e => .error (.conversion e)
          | .ok settings => checkWith s request settings

/-! ### Any request -/

def answer (s : Surroundings) : Request → Except Failure Outcome
  | .help topic => .ok { written := { out := topic.help } }
  | .version => .ok { written := { out := versionText } }
  | .misuse topic e => .ok { exit := 2, written := { err := misuseText topic e } }
  | .check request => check s request
  | .showConfig request => showConfig s request

/-- Run a command line. -/
def run (s : Surroundings) (arguments : List String) : Except Failure Outcome :=
  answer s (Request.ofArguments arguments)

end MarkupLint.Command
