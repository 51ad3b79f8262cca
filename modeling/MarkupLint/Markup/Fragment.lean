import MarkupLint.Markup.Node
import MarkupLint.Text.Blank
import MarkupLint.Text.Digit

/-!
Runs that are only a piece of a sentence.  Between `Count:` and `items` an expression
may stand; neither run says anything on its own, so a run whose parent mixes text with
tags or expressions is passed over.
-/
namespace MarkupLint

def Kind.isInline : Kind → Bool
  | .textRun | .expression | .comment | .element => true
  | .attribute | .other => false

/-- The markup between the tags of a parent, put together from its children. -/
def inlineContent (infos : List Info) : List Char :=
  (infos.filter (·.kind.isInline)).flatMap (·.text.toList)

namespace Fragment

/-- A less-than sign with a letter after it. -/
def hasOpeningTag : List Char → Bool
  | '<' :: c :: rest => Text.isAsciiLetter c || hasOpeningTag (c :: rest)
  | _ :: rest => hasOpeningTag rest
  | [] => false

/-- Braces with something between them. -/
def hasExpression : List Char → Bool
  | [] => false
  | c :: rest =>
      (c == '\x7b' && rest.head?.any (· != '\x7d') && rest.contains '\x7d') || hasExpression rest

/-- A slash and a greater-than sign with at most white space between them. -/
def hasSelfClosing : List Char → Bool
  | [] => false
  | c :: rest => (c == '/' && (Text.trimStart rest).head? == some '>') || hasSelfClosing rest

def isMixed (content : List Char) : Bool :=
  hasOpeningTag content || hasExpression content || hasSelfClosing content

end Fragment

/-- Whether a visited text run is a piece of mixed content. -/
def Visit.isFragment (visit : Visit) : Bool :=
  visit.info.kind == .textRun && Fragment.isMixed (inlineContent (visit.siblings.map Node.info))

end MarkupLint
