import MarkupLint.Command.Flag

/-!
Reading an argument list from left to right.  The first run of plain arguments that can be
taken is taken, as many of them as the form allows; what is left over, and every option that
is not known, remains as an extra.

A request for help or for the version ends the reading where it stands, and so does an error.
-/
namespace MarkupLint.Command

/-- What a form takes besides options. -/
inductive Operand where
  /-- A name, and all that follows it. -/
  | command
  /-- Any number of arguments. -/
  | many
  /-- One argument at most. -/
  | one
  deriving DecidableEq, Repr

structure Form where
  flags : Flags
  operand : Operand

/-- Why reading ends early. -/
inductive Stop where
  | help
  | version
  | error (e : UsageError)
  deriving DecidableEq, Repr

/-- What has been read. -/
structure Taken where
  /-- Options in order, with the text they were given. -/
  flags : List (Flag × Option String) := []
  /-- The arguments of the operand, once it was met. -/
  operand : Option (List String) := none
  extras : List String := []
  deriving DecidableEq, Repr

namespace Taken

def addExtras (arguments : List String) (taken : Taken) : Taken :=
  { taken with extras := taken.extras ++ arguments }

/-- Act on options one after another. -/
def addFlags : List (Flag × Option String) → Taken → Except Stop Taken
  | [], taken => .ok taken
  | (.help, _) :: _, _ => .error .help
  | (.version, _) :: _, _ => .error .version
  | flag :: rest, taken => addFlags rest { taken with flags := taken.flags ++ [flag] }

def count (taken : Taken) (flag : Flag) : Nat :=
  (taken.flags.filter (·.1 = flag)).length

def has (taken : Taken) (flag : Flag) : Bool :=
  taken.count flag != 0

/-- The text that an option was given last. -/
def text? (taken : Taken) (flag : Flag) : Option String :=
  ((taken.flags.filter (·.1 = flag)).getLast?).bind (·.2)

end Taken

abbrev Words := List (String × Word)

def isOption : Word → Bool
  | .option _ | .unknownOption => true
  | _ => false

def isPlain (word : String × Word) : Bool := word.2 == .plain

def isDashes (word : String × Word) : Bool := word.2 == .dashes

/-- How many of the arguments an operand takes; nothing if it cannot start here. -/
def Operand.extent? (operand : Operand) (words : Words) : Option Nat :=
  let dashes := (words.takeWhile isDashes).length
  let behind := words.drop dashes
  match operand with
  | .command => if behind.head?.any isPlain then some words.length else none
  | .many => some (words.takeWhile (!isOption ·.2)).length
  | .one =>
      let own := if behind.head?.any isPlain then 1 else 0
      some (dashes + own + ((behind.drop own).takeWhile isDashes).length)

/-- Two dashes among the arguments of an operand are dropped once, unless they belong to
what a command is given. -/
def Operand.arguments (operand : Operand) (words : Words) : List String :=
  match operand with
  | .command => words.map (·.1)
  | _ => (words.map (·.1)).erase "--"

/-! ### Options -/

/-- What an option and the text for it amount to; `used` of the arguments behind it are
taken. -/
structure Consumed where
  flags : List (Flag × Option String) := []
  used : Nat := 0
  deriving DecidableEq, Repr

/-- Two dashes are no text. -/
def givenText (text : String) : Option String :=
  if text = "--" then none else some text

/-- An option without attached text takes the next argument, if it takes any. -/
def alone (flag : Flag) (next : Option (String × Word)) : Except UsageError Consumed :=
  if flag.takesText then
    match next with
    | some (text, .plain) => .ok { flags := [(flag, givenText text)], used := 1 }
    | _ => .error (.textMissing flag)
  else .ok { flags := [(flag, none)] }

def withText (flag : Flag) (text : List Char) : Except UsageError Consumed :=
  if flag.takesText then .ok { flags := [(flag, givenText (String.ofList text))] }
  else .error (.textIgnored flag (String.ofList text))

/-- Letters behind a short option that takes no text are short options themselves. -/
def withLetters (flags : Flags) (next : Option (String × Word)) :
    Flag → List Char → Except UsageError Consumed
  | flag, [] => alone flag next
  | flag, letter :: rest =>
      if flag.takesText then withText flag (letter :: rest)
      else
        match flags.lookup (String.ofList ['-', letter]) with
        | none => .error (.textIgnored flag (String.ofList (letter :: rest)))
        | some other =>
            (withLetters flags next other rest).map fun found =>
              { found with flags := (flag, none) :: found.flags }

def consume (flags : Flags) (spelled : Spelled) (next : Option (String × Word)) :
    Except UsageError Consumed :=
  match spelled.text with
  | none => alone spelled.flag next
  | some text =>
      if spelled.isLong || text.isEmpty then withText spelled.flag text
      else withLetters flags next spelled.flag text

/-! ### The whole list -/

/-- What is left when no option is to come. -/
def finish (operand : Operand) (words : Words) (taken : Taken) : Taken :=
  match taken.operand, operand.extent? words with
  | none, some n =>
      let taken := { taken with operand := some (operand.arguments (words.take n)) }
      taken.addExtras ((words.drop n).map (·.1))
  | _, _ => taken.addExtras (words.map (·.1))

def Form.readWords (form : Form) (words : Words) (taken : Taken) : Except Stop Taken :=
  if words.any (isOption ·.2) then
    match words with
    | [] => .ok taken
    | (argument, .unknownOption) :: rest => form.readWords rest (taken.addExtras [argument])
    | (_, .option spelled) :: rest =>
        match consume form.flags spelled rest.head? with
        | .error e => .error (.error e)
        | .ok found =>
            match Taken.addFlags found.flags taken with
            | .error stop => .error stop
            | .ok taken => form.readWords (rest.drop found.used) taken
    | word :: rest =>
        match taken.operand, form.operand.extent? (word :: rest) with
        | none, some n =>
            form.readWords (rest.drop (n - 1))
              { taken with operand := some (form.operand.arguments ((word :: rest).take n)) }
        | _, _ =>
            let run := rest.takeWhile (!isOption ·.2)
            form.readWords (rest.drop run.length) (taken.addExtras (word.1 :: run.map (·.1)))
  else .ok (finish form.operand words taken)
termination_by words.length
decreasing_by all_goals grind

def Form.read (form : Form) (arguments : List String) : Except Stop Taken :=
  match form.flags.classifyAll arguments with
  | .error e => .error (.error e)
  | .ok words => form.readWords words {}

end MarkupLint.Command
