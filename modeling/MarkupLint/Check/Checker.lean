import MarkupLint.Check.TimeLimit

/-!
Checkers: what is asked about a text, and what may come of it.  A checker may find issues,
fail, or take longer than the time it is given; only the first leads to diagnostics.
-/
namespace MarkupLint

/-- A problem with a text. -/
structure Issue where
  message : String
  ruleId : String
  deriving DecidableEq, Repr

/-- A problem at a line of a file, and who reported it. -/
structure Diagnostic where
  line : Int
  message : String
  ruleId : String
  checker : String := ""
  file : String := ""
  deriving DecidableEq, Repr

inductive CheckFailure where
  /-- A checker gave up on a text. -/
  | checker (name message : String)
  /-- Anything else went wrong. -/
  | crash (message : String)
  deriving DecidableEq, Repr

def CheckFailure.message : CheckFailure → String
  | .checker name message => "[" ++ name ++ "] " ++ message
  | .crash message => message

structure Checker where
  name : String
  /-- Whether other validations go on while the checker is at work. -/
  yields : Bool := false
  /-- How many seconds the checker takes for a text. -/
  seconds : String → Double := fun _ => .ofNat 0
  run : String → Except CheckFailure (List Issue)

inductive Outcome where
  | issues (found : List Issue)
  | failed (failure : CheckFailure)
  | timedOut
  deriving DecidableEq, Repr

def Outcome.found : Outcome → List Issue
  | .issues found => found
  | _ => []

namespace Checker

/-- A checker whose failures are all its own: whatever goes wrong is reported under its
name. -/
def blocking (name label : String) (run : String → Except CheckFailure (List Issue)) : Checker :=
  { name := name
    yields := true
    run := fun text =>
      match run text with
      | .error (.crash message) => .error (.checker label message)
      | outcome => outcome }

/-- Whether a checker runs out of time. -/
def isLate (checker : Checker) (limit : Double) (text : String) : Bool :=
  if limit = .nan then checker.yields
  else limit.lessThan 0 || limit.below (checker.seconds text)

def answer (checker : Checker) (text : String) : Outcome :=
  match checker.run text with
  | .ok found => .issues found
  | .error failure => .failed failure

/-- What comes of asking a checker about a text within a limit. -/
def outcome (checker : Checker) (limit : TimeLimit) (text : String) : Outcome :=
  match limit with
  | .unlimited => checker.answer text
  | .seconds limit => if checker.isLate limit text then .timedOut else checker.answer text
  | .unusable problem => .failed (.crash problem)

end Checker

end MarkupLint
