import MarkupLint.Json.Writer

/-!
The forms that commands answer in: plain text, or JSON.
-/
namespace MarkupLint.Command

/-- What a command writes. -/
structure Written where
  out : String := ""
  err : String := ""
  deriving DecidableEq, Repr

/-- A value that JSON has no form for, or something other than a mapping where one is
needed. -/
inductive OutputError where
  | json (error : Json.WriteError)
  | notAMapping (kind : String)
  deriving DecidableEq, Repr

def OutputError.message : OutputError → String
  | json error => error.message
  | notAMapping kind => "'" ++ kind ++ "' object is not a mapping"

structure OutputForm where
  json : Bool := false
  /-- What indents JSON at each level; none writes it on one line. -/
  indent : Option String := some "  "

namespace OutputForm

def jsonText (form : OutputForm) (value : Value) : Except OutputError String :=
  match Json.write form.indent value with
  | .ok text => .ok (text ++ "\n")
  | .error e => .error (.json e)

def data (form : OutputForm) (value : Value) : Except OutputError Written :=
  (form.jsonText value).map fun text => { out := text }

def text (message : String) : Written :=
  { out := message ++ "\n" }

/-- A success: its status with the data, or a message. -/
def success (form : OutputForm) (data : Value) (message status : String) :
    Except OutputError Written :=
  if form.json then
    match data with
    | .map _ entries =>
        form.data (.ofEntries (Entries.ofPairs ((.str "status", .str status) :: entries)))
    | other => .error (.notAMapping other.fullKindName)
  else .ok (text message)

/-- A failure; its own text stands where no message is given. -/
def failure (form : OutputForm) (error message code : String) : Written :=
  let shown := if message.isEmpty then error else message
  if form.json then
    match form.jsonText (.ofFields [("error", .str code), ("message", .str shown)]) with
    | .ok text => { err := text }
    | .error e => { err := e.message }
  else { err := "Error: " ++ shown ++ "\n" }

end OutputForm

end MarkupLint.Command
