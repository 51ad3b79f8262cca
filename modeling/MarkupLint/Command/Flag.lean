import MarkupLint.Text.Digit
import MarkupLint.Text.Scan
import MarkupLint.Value.Display

/-!
Options on the command line and the ways they are spelled.  A long option may be shortened
to any beginning that no other option shares, and be followed by an equals sign and text; a
short one may have more letters behind it.
-/
namespace MarkupLint.Command

open MarkupLint.Text

inductive Flag where
  | help
  | version
  | noFail
  | json
  | repoRoot
  | verbose
  deriving DecidableEq, Repr

namespace Flag

def spellings : Flag → List String
  | help => ["-h", "--help"]
  | version => ["--version"]
  | noFail => ["--no-fail"]
  | json => ["--json"]
  | repoRoot => ["--repo-root"]
  | verbose => ["-v", "--verbose"]

def takesText : Flag → Bool
  | repoRoot => true
  | _ => false

/-- How messages name an option. -/
def title (flag : Flag) : String :=
  "/".intercalate flag.spellings

end Flag

/-- Why arguments cannot be understood. -/
inductive UsageError where
  | ambiguous (argument : String) (spellings : List String)
  | textMissing (flag : Flag)
  | textIgnored (flag : Flag) (text : String)
  | noCommand (name : String) (known : List String)
  | unrecognized (arguments : List String)
  deriving DecidableEq, Repr

def UsageError.message : UsageError → String
  | ambiguous argument spellings =>
      "ambiguous option: " ++ argument ++ " could match " ++ ", ".intercalate spellings
  | textMissing flag => "argument " ++ flag.title ++ ": expected one argument"
  | textIgnored flag text =>
      "argument " ++ flag.title ++ ": ignored explicit argument " ++ quoted text
  | noCommand name known =>
      "argument <command>: invalid choice: " ++ quoted name ++ " (choose from " ++
        ", ".intercalate (known.map quoted) ++ ")"
  | unrecognized arguments => "unrecognized arguments: " ++ " ".intercalate arguments

/-- An option as an argument spells it, with the text in the same argument: after an equals
sign, or right behind a short option. -/
structure Spelled where
  flag : Flag
  spelling : String
  text : Option (List Char)
  deriving DecidableEq, Repr

/-- Whether the option is spelled with two dashes. -/
def Spelled.isLong (spelled : Spelled) : Bool :=
  "--".toList.isPrefixOf spelled.spelling.toList

/-- What an argument is taken for. -/
inductive Word where
  | plain
  /-- Two dashes, after which all arguments are plain. -/
  | dashes
  | option (spelled : Spelled)
  | unknownOption
  deriving DecidableEq, Repr

/-- The options of a command by their spellings. -/
abbrev Flags := List (String × Flag)

def Flags.ofList (flags : List Flag) : Flags :=
  flags.flatMap fun flag => flag.spellings.map (·, flag)

/-- The text before the first equals sign, and the text after it if there is one. -/
def atEquals (argument : List Char) : List Char × Option (List Char) :=
  let before := argument.takeWhile (· != '=')
  let rest := argument.drop before.length
  (before, if rest.isEmpty then none else some (rest.drop 1))

namespace Flags

/-- The options that an argument may be short for. -/
def candidates (flags : Flags) (argument : List Char) : List Spelled :=
  match argument with
  | '-' :: '-' :: _ =>
      let (start, text) := atEquals argument
      flags.filterMap fun (spelling, flag) =>
        if start.isPrefixOf spelling.toList then some ⟨flag, spelling, text⟩ else none
  | _ =>
      flags.filterMap fun (spelling, flag) =>
        if spelling.toList = argument.take 2 then some ⟨flag, spelling, some (argument.drop 2)⟩
        else if argument.isPrefixOf spelling.toList then some ⟨flag, spelling, none⟩
        else none

/-- An option that the argument spells out. -/
def spelledOut? (flags : Flags) (argument : List Char) : Option Spelled :=
  match flags.lookup (String.ofList argument) with
  | some flag => some ⟨flag, String.ofList argument, none⟩
  | none =>
      match atEquals argument with
      | (spelling, some text) =>
          (flags.lookup (String.ofList spelling)).map fun flag =>
            ⟨flag, String.ofList spelling, some text⟩
      | (_, none) => none

end Flags

/-- A minus and digits, with a point before or among them. -/
def isNegativeNumber (argument : List Char) : Bool :=
  match argument with
  | '-' :: body =>
      let body := if body.getLast? = some '\n' then body.dropLast else body
      let (whole, rest) := body.span isDigit
      match rest with
      | [] => !whole.isEmpty
      | '.' :: fraction => !fraction.isEmpty && fraction.all isDigit
      | _ => false
  | _ => false

/-- Take an argument for what it looks like. -/
def Flags.classify (flags : Flags) (argument : String) : Except UsageError Word :=
  let chars := argument.toList
  if chars.head? != some '-' || chars.length == 1 then .ok .plain
  else
    match flags.spelledOut? chars with
    | some spelled => .ok (.option spelled)
    | none =>
        match flags.candidates chars with
        | [spelled] => .ok (.option spelled)
        | [] =>
            .ok (if isNegativeNumber chars || chars.contains ' ' then .plain else .unknownOption)
        | several => .error (.ambiguous argument (several.map (·.spelling)))

/-- Take all arguments for what they look like; behind two dashes all of them are plain. -/
def Flags.classifyAll (flags : Flags) : List String → Except UsageError (List (String × Word))
  | [] => .ok []
  | argument :: rest =>
      if argument = "--" then .ok ((argument, .dashes) :: rest.map (·, .plain))
      else
        match flags.classify argument with
        | .error e => .error e
        | .ok word => (flags.classifyAll rest).map ((argument, word) :: ·)

end MarkupLint.Command
