/-!
The page that a document is written on.  It knows the column and, of the line at hand,
whether blank space was written last and whether the line holds nothing yet but indentation
and the marks of items and keys.
-/
namespace MarkupLint.Yaml

structure Page where
  /-- What is written, the last character first. -/
  written : List Char := []
  column : Nat := 0
  spaced : Bool := true
  fresh : Bool := true

namespace Page

def text (page : Page) : String :=
  String.ofList page.written.reverse

/-- Lines are folded at spaces beyond this column. -/
def width : Nat := 80

def put (text : List Char) (page : Page) : Page :=
  { page with written := text.reverse ++ page.written, column := page.column + text.length }

/-- What follows belongs to the scalar or mark that was put last. -/
def settle (page : Page) : Page :=
  { page with spaced := false, fresh := false }

/-- A space, unless blank space was written last. -/
def space (page : Page) : Page :=
  if page.spaced then page else page.put [' ']

/-- A mark that belongs to the text before it. -/
def close (mark : String) (page : Page) : Page :=
  (page.put mark.toList).settle

/-- A mark that stands apart from the text before it. -/
def mark (mark : String) (page : Page) : Page :=
  page.space.close mark

/-- The mark of an item or a key; more of them may follow on the line. -/
def bullet (mark : String) (page : Page) : Page :=
  { page.mark mark with fresh := page.fresh }

/-- An opening bracket. -/
def opening (mark : String) (page : Page) : Page :=
  { page.mark mark with spaced := true }

def breakWith (c : Char) (page : Page) : Page :=
  { written := c :: page.written, column := 0, spaced := true, fresh := true }

def breakLine (page : Page) : Page :=
  page.breakWith '\n'

/-- Go to a column, on the next line unless this one is fresh and short enough. -/
def indentTo (column : Nat) (page : Page) : Page :=
  let stays := page.fresh && (page.column < column || (page.column == column && page.spaced))
  let page := if stays then page else page.breakLine
  if page.column < column then
    { page.put (List.replicate (column - page.column) ' ') with spaced := true }
  else page

end Page

end MarkupLint.Yaml
