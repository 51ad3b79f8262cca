/-!
Line ends: a carriage return, alone or before a newline, counts as a newline.  Where lines are
told apart, the separators of lines, pages and records end a line as well.
-/
namespace MarkupLint.Text

def unifyLineEnds : List Char → List Char
  | [] => []
  | '\r' :: '\n' :: rest => '\n' :: unifyLineEnds rest
  | '\r' :: rest => '\n' :: unifyLineEnds rest
  | c :: rest => c :: unifyLineEnds rest

/-- A text of lines, each with a newline at its end. -/
def ofLines (lines : List String) : String :=
  String.join (lines.map (· ++ "\n"))

def isLineEnd (c : Char) : Bool :=
  let n := c.toNat
  (10 ≤ n && n ≤ 13) || (0x1C ≤ n && n ≤ 0x1E) || n == 0x85 || n == 0x2028 || n == 0x2029

/-- The lines of a text; behind its last line end there is one more. -/
def linesOf (text : List Char) : List (List Char) :=
  (unifyLineEnds text).foldr (fun c lines =>
    match lines with
    | [] => [[c]]
    | line :: rest => if isLineEnd c then [] :: line :: rest else (c :: line) :: rest) [[]]

end MarkupLint.Text
