import MarkupLint.Markup.Node
import MarkupLint.Text.Blank
import MarkupLint.Text.Scan
import MarkupLint.Value.Display

/-!
Markers in comments that keep text from being checked.  A region marker switches
checking off or on again for what follows; the single marker excludes the one node
that the comment precedes.
-/
namespace MarkupLint

structure Directives where
  regionStart : String := "@text-lint ignore start"
  regionEnd : String := "@text-lint ignore end"
  single : String := "@text-lint ignore"
  deriving DecidableEq, Repr

namespace Directives

/-- A marker as configured, or the default when none is given. -/
def marker (configured : Value) (default : String) : String :=
  if configured.isGiven then configured.display else default

def ofConfig (config : Value) : Directives :=
  match config with
  | .map _ _ =>
      let default : Directives := {}
      { regionStart := marker (config.field "region_start") default.regionStart
        regionEnd := marker (config.field "region_end") default.regionEnd
        single := marker (config.field "single") default.single }
  | _ => {}

/-- Whether a comment excludes the node it precedes: the single marker is there, and
still there once the region markers are taken away. -/
def isSingle (d : Directives) (comment : String) : Bool :=
  Text.contains comment d.single &&
    Text.occurs d.single.toList
      (Text.erase d.regionEnd.toList (Text.erase d.regionStart.toList comment.toList))

end Directives

/-- A text run of white space only. -/
def Info.isBlankRun (info : Info) : Bool :=
  info.kind == .textRun && Text.isBlankText info.text

/-- The nearest sibling before a node that is not a blank run, if it is a comment. -/
def Visit.precedingComment? (visit : Visit) : Option Info :=
  ((visit.before.map Node.info).dropWhile Info.isBlankRun).head?.filter (·.kind == .comment)

/-- Whether the single marker is attached to a node. -/
def Visit.isExcluded (d : Directives) (visit : Visit) : Bool :=
  visit.info.leading.any d.isSingle ||
    visit.precedingComment?.any fun comment => d.isSingle comment.text

end MarkupLint
