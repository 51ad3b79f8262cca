import MarkupLint.Command.Arguments

/-!
What a command line asks for.  The options in front of the command's name are read first;
everything behind it belongs to the command.
-/
namespace MarkupLint.Command

/-- What has a page of help of its own. -/
inductive Topic where
  | program
  | check
  | showConfig
  deriving DecidableEq, Repr

namespace Topic

/-- The names of the commands. -/
def commands : List (String × Topic) :=
  [("check", check), ("show-config", showConfig), ("show_config", showConfig)]

def form : Topic → Form
  | program => ⟨.ofList [.help, .version], .command⟩
  | check => ⟨.ofList [.help, .noFail, .json, .repoRoot, .verbose], .many⟩
  | showConfig => ⟨.ofList [.help, .json, .repoRoot], .one⟩

end Topic

structure CheckRequest where
  paths : List String := ["."]
  noFail : Bool := false
  json : Bool := false
  /-- The folder that holds the configuration, as it was given. -/
  root : Option String := none
  verbose : Nat := 0
  deriving DecidableEq, Repr

structure ShowRequest where
  /-- A dotted key; the whole configuration is meant if it is missing or empty. -/
  key : Option String := none
  json : Bool := false
  root : Option String := none
  deriving DecidableEq, Repr

inductive Request where
  | help (topic : Topic)
  | version
  | misuse (topic : Topic) (e : UsageError)
  | check (request : CheckRequest)
  | showConfig (request : ShowRequest)
  deriving DecidableEq, Repr

namespace Request

/-- What a reading that ended early asks for. -/
def ofStop (topic : Topic) : Stop → Request
  | .help => .help topic
  | .version => .version
  | .error e => .misuse topic e

def ofTaken (topic : Topic) (taken : Taken) : Request :=
  match topic with
  | .program => .help .program
  | .check =>
      let paths := taken.operand.getD []
      .check
        { paths := if paths.isEmpty then ["."] else paths
          noFail := taken.has .noFail
          json := taken.has .json
          root := taken.text? .repoRoot
          verbose := taken.count .verbose }
  | .showConfig =>
      .showConfig
        { key := (taken.operand.getD []).head?
          json := taken.has .json
          root := taken.text? .repoRoot }

/-- A request, unless something remains that nobody recognises. -/
def orExtras (extras : List String) (request : Request) : Request :=
  if extras.isEmpty then request else .misuse .program (.unrecognized extras)

/-- Read what is behind the name of a command. -/
def ofCommand (extras : List String) (name : String) (arguments : List String) : Request :=
  match Topic.commands.lookup name with
  | none => .misuse .program (.noCommand name (Topic.commands.map (·.1)))
  | some topic =>
      match topic.form.read arguments with
      | .error stop => ofStop topic stop
      | .ok taken => orExtras (extras ++ taken.extras) (ofTaken topic taken)

/-- What a list of arguments asks for; without a command, for help. -/
def ofArguments (arguments : List String) : Request :=
  match Topic.program.form.read arguments with
  | .error stop => ofStop .program stop
  | .ok taken =>
      match taken.operand with
      | some (name :: rest) => ofCommand taken.extras name rest
      | _ => orExtras taken.extras (.help .program)

end Request

end MarkupLint.Command
