import MarkupLint.Text.Ranges
import MarkupLint.Text.WordTable

/-!
Word characters: the letters and numerals of every script, and the underscore.
-/
namespace MarkupLint.Text

def isAlphanumeric (c : Char) : Bool :=
  if c.toNat < 128 then c.isAlphanum else inside alphanumericBounds c.toNat

def isWord (c : Char) : Bool :=
  c == '_' || isAlphanumeric c

/-- A word boundary lies between two places of which exactly one holds a word
character; the ends of a text hold none. -/
def isBoundary (before after : Option Char) : Bool :=
  before.any isWord != after.any isWord

end MarkupLint.Text
