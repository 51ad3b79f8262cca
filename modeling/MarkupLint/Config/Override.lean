import MarkupLint.Config.Error
import MarkupLint.Json.Reader
import MarkupLint.Text.Case
import MarkupLint.Value.Convert
import MarkupLint.Value.Path

/-!
Settings from environment variables.  The name of a variable is a path in upper case,
its parts joined by two underscores; its text is read as a truth value, a number or
JSON where it looks like one.

Keys along the path are found without regard to case.  Where a mapping holds several
spellings of a key the last one is meant, and a key it does not hold is added in lower
case.
-/
namespace MarkupLint.Override

open MarkupLint.Text

/-- A sign and digits, of which there is at least one. -/
def looksWhole (text : List Char) : Bool :=
  let digits := (Number.signOf text).2
  !digits.isEmpty && digits.all isDigit

/-- A sign and digits with one point among them. -/
def looksReal (text : List Char) : Bool :=
  let (whole, rest) := (Number.signOf text).2.span isDigit
  match rest with
  | '.' :: fraction => fraction.all isDigit && !(whole.isEmpty && fraction.isEmpty)
  | _ => false

/-- Something between brackets or between braces. -/
def looksBracketed (text : List Char) : Bool :=
  (text.head? == some '[' && text.getLast? == some ']') ||
    (text.head? == some '\x7b' && text.getLast? == some '\x7d')

/-- How many JSON containers may stand inside each other. -/
def nestingLimit : Nat := 990

/-- JSON, or the text as it is. -/
def bracketed (text : String) : Except ConversionError Value :=
  match Json.read nestingLimit text with
  | .ok value => .ok value
  | .error .malformed => .ok (.str text)
  | .error (.tooDeep object) => .error (.tooDeep object)

/-- The value that the text of a variable stands for. -/
def coerce (text : String) : Except ConversionError Value :=
  let chars := trim text.toList
  let plain := String.ofList chars
  let word := String.ofList (lower chars)
  if word = "true" then .ok (.bool true)
  else if word = "false" then .ok (.bool false)
  else if looksWhole chars then (Value.str plain).toWhole.map .int
  else if looksReal chars then (Value.str plain).toReal.map .float
  else if looksBracketed chars then bracketed plain
  else .ok (.str plain)

/-- The path that a variable's name gives, if the name is one of an override. -/
def path? (name : String) : Option (Except ConfigError (List String)) :=
  if overridePrefix.toList.isPrefixOf name.toList then
    let parts := splitText "__" (String.ofList (name.toList.drop overridePrefix.length))
    some (if parts.any String.isEmpty then .error (.malformedOverride name)
      else .ok (parts.map lowered))
  else none

/-- The spelling under which a mapping holds a key. -/
def resolveKey (entries : Entries) (part : String) : String :=
  ((entries.filterMap fun entry =>
    match entry.1 with
    | .str key => if lowered key = part then some key else none
    | _ => none).getLast?).getD part

/-- The keys that a path goes through. -/
def resolvePath : Entries → List String → List String
  | _, [] => []
  | entries, part :: rest =>
      let key := resolveKey entries part
      let below :=
        match entries.field? key with
        | some (.map _ child) => child
        | _ => []
      key :: resolvePath below rest

/-- Write a value at the end of a path, making mappings of what is missing or null on
the way.  Nothing is written when the path meets any other value. -/
def write : Entries → List String → Value → Option Entries
  | _, [], _ => none
  | entries, [part], value => some (entries.set (.str (resolveKey entries part)) value)
  | entries, part :: rest, value =>
      let key := resolveKey entries part
      match entries.field? key with
      | none => (write [] rest value).map fun child => entries.set (.str key) (.map none child)
      | some (.scalar .null) =>
          (write [] rest value).map fun child => entries.set (.str key) (.map none child)
      | some (.map label child) =>
          (write child rest value).map fun child => entries.set (.str key) (.map label child)
      | some _ => none

/-- A shorter path to the same place, when the path leads into a container from inside it.
`around` holds the containers that it has passed, with the paths to them. -/
def shortcut? (around : List (Label × List String)) (passed : List String) :
    Value → List String → Option (List String)
  | .again label true, part :: rest =>
      (around.lookup label).map fun path => path ++ part :: rest
  | .map label entries, part :: rest =>
      (Entries.field? entries (resolveKey entries part)).bind fun child =>
        shortcut? (label.toList.map (·, passed) ++ around) (passed ++ [part]) child rest
  | _, _ => none

/-- The path to a place that leads into no container twice; `fuel` bounds its length. -/
def direct (root : Entries) : Nat → List String → List String
  | 0, path => path
  | fuel + 1, path =>
      match shortcut? [] [] (.ofEntries root) path with
      | some shorter => direct root fuel shorter
      | none => path

/-- The proper beginnings of a path, longest first, without the empty one. -/
def beginnings (path : List Scalar) : List (List Scalar) :=
  ((List.range path.length).drop 1).reverse.map path.take

/-- Set a value at a path.  A container that was written to shows the change wherever it
occurs. -/
def set (root : Entries) (path : List String) (value : Value) : Except ConfigError Entries :=
  let place := direct root path.length path
  match write root place value with
  | none => .error (.blockedOverride path)
  | some written =>
      .ok ((beginnings ((resolvePath root place).map .str)).foldl Value.share written)

end MarkupLint.Override
