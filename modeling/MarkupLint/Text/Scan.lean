/-!
Left-to-right scanning.  A recogniser looks at the rest of a text and says whether
something starts there and how far it reaches; `substitute` replaces every such place
and `scan` collects one result for each.  Neither looks again at what a match has
covered, so matches never overlap and the leftmost wins.
-/
namespace MarkupLint.Text

/-- A recogniser gives its result and how many characters the match covers after
its first one. -/
abbrev Recogniser (α : Type) := List Char → Option (α × Nat)

def substituteFrom (find : Recogniser (List Char)) : Nat → List Char → List Char
  | _, [] => []
  | covered + 1, _ :: rest => substituteFrom find covered rest
  | 0, c :: rest =>
      match find (c :: rest) with
      | some (replacement, reach) => replacement ++ substituteFrom find reach rest
      | none => c :: substituteFrom find 0 rest

/-- Replace every match of `find`. -/
def substitute (find : Recogniser (List Char)) (text : List Char) : List Char :=
  substituteFrom find 0 text

/-- As `substituteFrom`, but collecting results; the recogniser also sees the character
before its place. -/
def scanFrom {α : Type} (find : Option Char → Recogniser α) :
    Option Char → Nat → List Char → List α
  | _, _, [] => []
  | _, covered + 1, c :: rest => scanFrom find (some c) covered rest
  | before, 0, c :: rest =>
      match find before (c :: rest) with
      | some (found, reach) => found :: scanFrom find (some c) reach rest
      | none => scanFrom find (some c) 0 rest

def scan {α : Type} (find : Option Char → Recogniser α) (text : List Char) : List α :=
  scanFrom find none 0 text

/-- Whether `part` stands somewhere in the text.  The empty part stands everywhere. -/
def occurs (part : List Char) : List Char → Bool
  | [] => part.isEmpty
  | c :: rest => part.isPrefixOf (c :: rest) || occurs part rest

/-- Delete every occurrence of `part`. -/
def erase (part text : List Char) : List Char :=
  match part with
  | [] => text
  | _ :: tail => substitute (fun rest =>
      if part.isPrefixOf rest then some ([], tail.length) else none) text

def consHead (c : Char) : List (List Char) → List (List Char)
  | [] => [[c]]
  | piece :: pieces => (c :: piece) :: pieces

def splitFrom (mark : List Char) : Nat → List Char → List (List Char)
  | _, [] => [[]]
  | covered + 1, _ :: rest => splitFrom mark covered rest
  | 0, c :: rest =>
      if mark.isPrefixOf (c :: rest) then
        [] :: splitFrom mark (mark.length - 1) rest
      else
        consHead c (splitFrom mark 0 rest)

/-- The pieces between the occurrences of `mark`, the leftmost occurrence first. -/
def split (mark text : List Char) : List (List Char) :=
  splitFrom mark 0 text

def contains (text part : String) : Bool :=
  occurs part.toList text.toList

def splitText (mark text : String) : List String :=
  (split mark.toList text.toList).map String.ofList

end MarkupLint.Text
