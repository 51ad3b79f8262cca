import MarkupLint.Config.BundledText
import MarkupLint.Project.Files
import MarkupLint.Yaml.Read

/-!
The files that come with the program, by their places: the layers that every configuration
starts from, the schema, and the template of the report.  A place is a kind, which is a
folder, and a name in it.
-/
namespace MarkupLint.Resource

def all : List (List String × String) :=
  [(["config", "attributes.yaml"], BundledText.attributes),
   (["config", "checkers.yaml"], BundledText.checkers),
   (["config", "defaults.yaml"], BundledText.defaults),
   (["schemas", "config.schema.yaml"], BundledText.schema),
   (["templates", "report.txt.j2"], BundledText.report)]

/-- The file that marks the folder as a part of the program. -/
def marker : String := "__init__.py"

/-- The folder that holds them, in the program's own. -/
def home : Path := { names := ["data"] }

/-- The program's own folder, as far as it holds resources. -/
def tree : Project :=
  let put (entries : Entry.Entries) (resource : List String × String) : Entry.Entries :=
    Entry.put (.file { bytes := Utf8.encode resource.2 }) (home.names ++ resource.1) entries
  { root := .folder (all.foldl put (Entry.put (.file {}) (home.names ++ [marker]) []))
    location := ["tsxlint"] }

/-- The place of a resource, or of the folder of its kind if no name is given. -/
def place (kind name : String) : Path :=
  home.join ((Path.ofText kind).join (if name.isEmpty then {} else .ofText name))

/-- What leads to a place from the folder that holds the resources, if it is below it. -/
def below? (place : Path) : Option Path :=
  home.below? { place with names := Path.climb place.names }

def isThere (kind name : String) : Except ReadError Bool :=
  match tree.find (place kind name) with
  | .ok _ => .ok true
  | .error .tooLong => .error .tooLong
  | .error _ => .ok false

def bytes (kind name : String) : Except ReadError (List UInt8) :=
  (tree.file (place kind name)).map (·.bytes)

/-- The text of a template. -/
def template (name : String) : Except ReadError String :=
  (bytes "templates" name).map fun found => String.ofList (Utf8.lossy found)

/-- Why a schema cannot be had. -/
inductive SchemaError where
  | read (error : ReadError)
  | fault (fault : Yaml.Fault)
  deriving DecidableEq, Repr

/-- What a schema says; nothing is an empty mapping. -/
def schema (name : String) : Except SchemaError Value :=
  match bytes "schemas" name with
  | .error e => .error (.read e)
  | .ok found =>
      match Yaml.read 0 (.ofBytes found) with
      | .error fault => .error (.fault fault)
      | .ok value => .ok (if value.isGiven then value else .ofEntries [])

end MarkupLint.Resource
