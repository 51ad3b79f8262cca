import MarkupLint.Text.Blank
import MarkupLint.Value.Display

/-!
Which attributes hold text that a user sees.  An ignored name may end in a star and then
covers every name that begins with what precedes the star; ignoring wins over checking.
-/
namespace MarkupLint

inductive AttributeClass where
  | checked
  | ignored
  | unspecified
  deriving DecidableEq, Repr

def AttributeClass.name : AttributeClass → String
  | checked => "checked"
  | ignored => "ignored"
  | unspecified => "unspecified"

structure AttributeRules where
  target : List String := []
  ignore : List String := []
  deriving DecidableEq, Repr

namespace AttributeRules

/-- The elements of a list, a pair or a set; other values have none. -/
def elements : Value → List Value
  | .list _ items => items
  | .pair _ a b => [a, b]
  | .set _ members => members.map .scalar
  | _ => []

/-- The names that a value lists: trimmed, blank and null entries dropped, each once. -/
def names (config : Value) : List String :=
  ((((elements config).filter (!·.isNull)).map fun item => Text.trimmed item.display).filter
    (!·.isEmpty)).eraseDups

def ofConfig (config : Value) : AttributeRules :=
  { target := names (config.field "target"), ignore := names (config.field "ignore") }

/-- Whether an ignored entry covers a name. -/
def covers (entry name : String) : Bool :=
  entry == name ||
    match entry.toList.reverse with
    | '*' :: stem => stem.reverse.isPrefixOf name.toList
    | _ => false

def classify (rules : AttributeRules) (name : String) : AttributeClass :=
  if rules.ignore.any (covers · name) then .ignored
  else if rules.target.contains name then .checked
  else .unspecified

def isChecked (rules : AttributeRules) (name : String) : Bool :=
  rules.classify name == .checked

end AttributeRules

end MarkupLint
