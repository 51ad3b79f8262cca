import MarkupLint.Check.Prose
import MarkupLint.Check.Spelling

/-!
The checkers that a configuration can name.  Each is set up from the section of its name;
a name that nothing is registered under is logged and passed over.
-/
namespace MarkupLint

/-- A checker that has been set up. -/
inductive Installed where
  | spelling (checker : SpellingChecker)
  | prose (checker : ProseChecker)
  | other (checker : Checker)

namespace Installed

def checker : Installed → Checker
  | spelling c => c.checker
  | prose c => c.checker
  | other c => c

end Installed

/-- Sets a checker up from its section, which is null unless it is a mapping. -/
abbrev Factory := Value → Logged (Except SetupError Installed)

abbrev Registry := List (String × Factory)

namespace Registry

def spellingFactory (dictionaries : Dictionaries) : Factory := fun config =>
  let built := SpellingChecker.ofConfig dictionaries config
  ⟨built.value.map .spelling, built.log⟩

def proseFactory : Factory := fun config => ⟨.ok (.prose (.ofConfig config)), []⟩

/-- The checkers that are always there. -/
def builtIn (dictionaries : Dictionaries) : Registry :=
  [("spelling", spellingFactory dictionaries), ("prose", proseFactory)]

/-- Register a factory, in the place of one of the same name. -/
def register (registry : Registry) (name : String) (factory : Factory) : Registry :=
  (name, factory) :: registry.filter (·.1 != name)

def available (registry : Registry) : List String :=
  (registry.map (·.1)).mergeSort fun a b => decide (a ≤ b)

/-- What a configuration says about a checker. -/
def sectionOf (config name : Value) : Except ConversionError Value :=
  match name with
  | .scalar key =>
      match Entries.get? (config.entries?.getD []) key with
      | some (.map label entries) => .ok (.map label entries)
      | _ => .ok .null
  | other => .error (.unhashable other.kindName)

/-- Set up the checker of one name. -/
def install (registry : Registry) (config name : Value) :
    Logged (Except SetupError (Option Installed)) :=
  match registry.lookup name.display with
  | none =>
      { value := .ok none
        log := [⟨.warning, .checkers, "Unknown checker '" ++ name.display ++
          "' in configuration (available: " ++ ", ".intercalate registry.available ++ ")"⟩] }
  | some factory =>
      match sectionOf config name with
      | .error e => ⟨.error (.setting e), []⟩
      | .ok own =>
          let built := factory own
          match built.value with
          | .error e => ⟨.error e, built.log⟩
          | .ok installed =>
              { value := .ok (some installed)
                log := built.log ++
                  [⟨.debug, .checkers, "Enabled checker '" ++ name.display ++ "'"⟩] }

def installAll (registry : Registry) (config : Value) :
    List Value → Logged (Except SetupError (List Installed))
  | [] => ⟨.ok [], []⟩
  | name :: rest =>
      let first := registry.install config name
      match first.value with
      | .error e => ⟨.error e, first.log⟩
      | .ok installed =>
          let others := registry.installAll config rest
          ⟨others.value.map (installed.toList ++ ·), first.log ++ others.log⟩

/-- The checkers that a configuration enables, in order. -/
def build (registry : Registry) (config : Value) : Logged (Except SetupError (List Installed)) :=
  let enabled := config.field "enabled"
  if enabled.isGiven then
    match enabled.members with
    | .ok names => registry.installAll config names
    | .error e => ⟨.error (.setting e), []⟩
  else ⟨.ok [], []⟩

end Registry

end MarkupLint
