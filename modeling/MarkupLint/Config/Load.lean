import MarkupLint.Config.Bundled
import MarkupLint.Config.Override
import MarkupLint.Config.Schema
import MarkupLint.Log
import MarkupLint.Project.Files
import MarkupLint.Value.Merge
import MarkupLint.Yaml.Read

/-!
Loading the configuration: the bundled layers, then the files of the project's own folder by
name, then the variables that override single settings, by name.  The result may be checked
against the schema.
-/
namespace MarkupLint

/-- Where a configuration comes from. -/
structure ConfigSource where
  /-- How the folder of the bundled files is written. -/
  bundled : Path := {}
  /-- How the folder of the project's own files is written. -/
  folder : Path := {}
  /-- What the project's own folder holds. -/
  files : List (String × FileContent) := []
  environment : List (String × String) := []

inductive LoadError where
  | config (error : ConfigError)
  /-- A file whose bytes are not text. -/
  | undecodable
  | fault (fault : Yaml.Fault)
  | conversion (error : ConversionError)
  /-- Two layers that have mappings inside themselves, at places that meet without end. -/
  | endless
  /-- Violations of which none can be reported. -/
  | report (error : ReportError)
  deriving DecidableEq, Repr

def LoadError.message : LoadError → String
  | config error => error.message
  | undecodable => ""
  | .fault f => f.message
  | conversion error => error.message
  | endless => "maximum recursion depth exceeded while calling a Python object"
  | report error => error.message

namespace Config

def folderName : List String := [".tsxlint", "config"]

def isConfigFile (name : String) : Bool :=
  [".yaml", ".yml"].contains (Path.suffixOf name)

/-- The configuration files of a project folder, by name. -/
def filesOf (project : Project) (root : Path) :
    Except ReadError (List (String × FileContent)) :=
  match project.find (root.join ⟨"", folderName⟩) with
  | .ok (.folder entries) =>
      .ok ((entries.filterMap fun (name, entry) =>
        match entry with
        | .file content => if isConfigFile name then some (name, content) else none
        | .folder _ => none).mergeSort fun a b => decide (a.1 ≤ b.1))
  | .error .tooLong => .error .tooLong
  | _ => .ok []

def debug (message : String) : LogRecord := ⟨.debug, .configuration, message⟩

def merging (path : Path) : LogRecord := debug ("Merging config file " ++ path.text)

/-- The entries of a layer: an empty file has none, and only a mapping will do. -/
def layerEntries (path : Path) : Value → Except LoadError Value
  | .scalar .null => .ok (.ofEntries [])
  | .map label entries => .ok (.map label entries)
  | other => .error (.config (.notAMapping path.text other.kindName))

/-- Read a file as a layer; `number` tells its containers from those of other files. -/
def readLayer (path : Path) (number : Nat) (content : FileContent) : Except LoadError Value :=
  match content.refusal? with
  | some reason => .error (.config (.unreadable path.text reason))
  | none =>
      match Yaml.read number (Yaml.Supply.ofBytes content.bytes) with
      | .ok value => layerEntries path value
      | .error .undecodable => .error .undecodable
      | .error fault =>
          .error (if fault.isMalformed then .config (.unreadable path.text fault.message)
            else .fault fault)

/-- Lay a layer over others.  Both are written out as far as they meet, so that a container inside
itself is merged like any other. -/
def lay (base : Entries) (layer : Value) : Except LoadError Entries :=
  let below := Value.ofEntries base
  if below.loops && layer.loops && below.meetAt Value.mergeLimit layer then .error .endless
  else
    match (below.unfoldAlong layer).entries? with
    | none => .ok base
    | some entries =>
        match Value.mergeLayer entries (layer.unfoldAlong below) with
        | .ok merged => .ok merged
        | .error e => .error (.conversion e)

/-- Merge the project's files one after another, up to the first that cannot be read. -/
def mergeFiles (folder : Path) (base : Entries) :
    List (Nat × String × FileContent) → Logged (Except LoadError Entries)
  | [] => ⟨.ok base, []⟩
  | (number, name, content) :: rest =>
      let path := folder.child name
      match (readLayer path number content).bind (lay base) with
      | .error e => ⟨.error e, [merging path]⟩
      | .ok merged =>
          let others := mergeFiles folder merged rest
          { others with log := merging path :: others.log }

/-- The bundled layers, merged. -/
def bundled : Entries :=
  Bundled.layers.foldl (fun base layer =>
    match layer.2 with
    | .map _ entries => Value.mergeEntries base entries
    | _ => base) []

/-- Variables that override a setting, by name. -/
def overrides (environment : List (String × String)) : List (String × String) :=
  (environment.filter fun v => overridePrefix.toList.isPrefixOf v.1.toList).mergeSort
    fun a b => decide (a.1 ≤ b.1)

/-- Set one setting. -/
def override (base : Entries) (setting : String × String) : Logged (Except LoadError Entries) :=
  match Override.path? setting.1 with
  | none => ⟨.ok base, []⟩
  | some (.error e) => ⟨.error (.config e), []⟩
  | some (.ok path) =>
      match Override.coerce setting.2 with
      | .error e => ⟨.error (.conversion e), []⟩
      | .ok value =>
          { value := (Override.set base path value).mapError .config
            log := [debug ("Applying env override " ++ ".".intercalate path)] }

def overrideAll (base : Entries) : List (String × String) → Logged (Except LoadError Entries)
  | [] => ⟨.ok base, []⟩
  | setting :: rest =>
      let first := override base setting
      match first.value with
      | .error e => ⟨.error e, first.log⟩
      | .ok next =>
          let others := overrideAll next rest
          { others with log := first.log ++ others.log }

/-- Check a configuration against the schema. -/
def validate (config : Value) : Except LoadError Unit :=
  match Rule.violation? Schema.configuration config with
  | .ok none => .ok ()
  | .ok (some v) => .error (.config (.invalid v.place v.problem))
  | .error e => .error (.report e)

/-- How many levels of mappings and lists are looked at by name. -/
def levels : Nat := 6

/-- Write the levels out that are looked at by name. -/
def writtenOut (entries : Entries) : Entries :=
  (((Value.ofEntries entries).unfoldTo levels).entries?).getD entries

/-- The merged configuration before any check. -/
def merge (source : ConfigSource) : Logged (Except LoadError Entries) :=
  let layers := Bundled.layers.map fun layer => merging (source.bundled.child layer.1)
  let files := mergeFiles source.folder bundled
    (source.files.zipIdx.map fun (file, number) => (number, file))
  match files.value with
  | .error e => ⟨.error e, layers ++ files.log⟩
  | .ok merged =>
      let final := overrideAll merged (overrides source.environment)
      { value := final.value.map writtenOut, log := layers ++ files.log ++ final.log }

def load (source : ConfigSource) (check : Bool) : Logged (Except LoadError Entries) :=
  let merged := merge source
  match merged.value with
  | .error e => ⟨.error e, merged.log⟩
  | .ok entries =>
      { merged with
        value :=
          if check then (validate (.ofEntries entries)).map fun _ => entries else .ok entries }

/-- The value under a dotted key of the configuration, which is loaded for it without a
check. -/
def get? (source : ConfigSource) (key : String) : Except LoadError (Option Value) :=
  (load source false).value.map fun entries => (Value.ofEntries entries).lookup? key

end Config

end MarkupLint
