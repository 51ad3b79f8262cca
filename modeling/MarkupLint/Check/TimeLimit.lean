import MarkupLint.Number.Layout
import MarkupLint.Value.Convert

/-!
How long a checker may take for a text.  Zero, and whatever else is not given, sets no limit.
A limit below zero leaves no time at all, and one that is not a number ends with the first
wait.  A clock can be set to numbers alone, and to those only that are not too large.
-/
namespace MarkupLint

inductive TimeLimit where
  | unlimited
  | seconds (limit : Double)
  /-- No clock can be set: every question fails, for this reason, before it is put. -/
  | unusable (problem : String)
  deriving DecidableEq, Repr

namespace TimeLimit

def ofSeconds (limit : Double) : TimeLimit :=
  if limit.isZero then unlimited else seconds limit

def notComparable (kind : String) : String :=
  "'<=' not supported between instances of '" ++ kind ++ "' and 'int'"

def ofInt (n : Int) : TimeLimit :=
  match Double.ofInt? n with
  | some limit => ofSeconds limit
  | none =>
      if n < 0 then seconds (.infinity true) else unusable ConversionError.tooLargeForReal.message

def ofValue (value : Value) : TimeLimit :=
  if value.isGiven then
    match value with
    | .scalar (.bool b) => ofInt (if b then 1 else 0)
    | .scalar (.int n) => ofInt n
    | .scalar (.float limit) => ofSeconds limit
    | .scalar (.nan _) => seconds .nan
    | other => unusable (notComparable other.fullKindName)
  else unlimited

/-- Whether a question can be put and its answer waited for. -/
def isUsable : TimeLimit → Bool
  | unusable _ => false
  | _ => true

/-- Whether a checker gets to look at what it is asked about. -/
def leavesTime : TimeLimit → Bool
  | unlimited => true
  | seconds limit => !limit.lessThan 0
  | unusable _ => false

/-- The limit as messages show it. -/
def text : TimeLimit → String
  | seconds limit => limit.fixed 1
  | _ => ""

end TimeLimit

end MarkupLint
