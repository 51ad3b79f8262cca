import MarkupLint.Yaml.Object

/-!
Reading the value of a YAML text.

Collections that carry an anchor, or lie below one, may occur more than once, so containers
keep the numbers of their nodes as labels, and the document has a number as well.
-/
namespace MarkupLint.Yaml

/-- The value of a text; an empty one is null. -/
def read (document : Nat) (supply : Supply) : Except Fault Value := do
  let (found, fault) := tokens supply
  match ← Graph.ofTokens found fault with
  | none => return .null
  | some graph => return (← Objects.ofDocument document graph).value

end MarkupLint.Yaml
