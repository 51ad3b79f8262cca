import MarkupLint.Markup.Attribute
import MarkupLint.Markup.Directive
import MarkupLint.Text.Case
import MarkupLint.Value.Convert

/-!
Typed settings, read from a merged configuration.
-/
namespace MarkupLint

/-- Which files of a directory are read, and how many at a time. -/
structure ScanSettings where
  extensions : List String := [".tsx", ".jsx"]
  excludeDirs : List String := ["node_modules", ".git"]
  maxConcurrency : Nat := 4
  deriving DecidableEq, Repr

namespace ScanSettings

/-- An extension in lower case with its dot. -/
def extension (item : Value) : String :=
  let name := Text.lowered item.display
  if name.toList.head? = some '.' then name else "." ++ name

/-- A limit as configured; one that is not given is the default, and the least is one. -/
def concurrency (configured : Value) (default : Nat) : Except ConversionError Nat :=
  (if configured.isGiven then configured else .int default).toWhole.map fun n => (max 1 n).toNat

def ofEntries (entries : Entries) : Except ConversionError ScanSettings :=
  let given := Value.ofEntries entries
  let default : ScanSettings := {}
  (concurrency (given.field "max_concurrency") default.maxConcurrency).map fun limit =>
    { extensions :=
        ((given.field "extensions").items?.map (·.map extension)).getD default.extensions
      excludeDirs :=
        ((given.field "exclude_dirs").items?.map (·.map Value.display)).getD default.excludeDirs
      maxConcurrency := limit }

def ofConfig (config : Value) : Except ConversionError ScanSettings :=
  match config with
  | .map _ entries => ofEntries entries
  | other => .error (.noAttribute other.fullKindName "get")

end ScanSettings

/-- Everything a run needs to know. -/
structure LintSettings where
  attributes : AttributeRules := {}
  directives : Directives := {}
  checkers : Entries := []
  scan : ScanSettings := {}
  logLevel : String := "WARNING"

namespace LintSettings

def defaultTimeout : Double := .ofNat 10

/-- The seconds that a checker may take for one text. -/
def checkerTimeout (settings : LintSettings) : Except ConversionError Double :=
  let configured := (Value.ofEntries settings.checkers).field "timeout_seconds"
  (if configured.isGiven then configured else .float defaultTimeout).toReal

def sectionEntries (config : Value) (name : String) : Entries :=
  ((config.field name).entries?).getD []

def ofConfig (config : Value) : Except ConversionError LintSettings :=
  match config with
  | .map _ _ =>
      (ScanSettings.ofEntries (sectionEntries config "scan")).map fun scan =>
        let level := (Value.ofEntries (sectionEntries config "logging")).field "level"
        { attributes := .ofConfig (config.field "attributes")
          directives := .ofConfig (config.field "directives")
          checkers := sectionEntries config "checkers"
          scan := scan
          logLevel := if level.isGiven then level.display else "WARNING" }
  | other => .error (.noAttribute other.fullKindName "get")

end LintSettings

end MarkupLint
