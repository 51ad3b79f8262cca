import MarkupLint.Text.CaseTable

/-!
Lower case, upper case, and comparison without regard to case.

A capital sigma becomes a final sigma where it ends a word, which is decided by the
nearest characters on either side that are not passed over.
-/
namespace MarkupLint.Text

/-- The lower case form of a letter on its own, of one character. -/
def lowerChar (c : Char) : Char :=
  if c.toNat < 128 then c.toLower
  else if c.toNat = 0x130 then 'i'
  else ((lowerRuns.findSome? (·.image? c.toNat)).map Char.ofNat).getD c

def isTitle (c : Char) : Bool :=
  titleLetters.any (·.has c.toNat)

def isLower (c : Char) : Bool :=
  if c.toNat < 128 then c.isLower else lowerLetters.any (·.has c.toNat)

def isUpper (c : Char) : Bool :=
  if c.toNat < 128 then c.isUpper
  else (lowerChar c != c && !isTitle c) || unpairedUpper.any (·.has c.toNat)

def isCased (c : Char) : Bool :=
  isUpper c || isLower c || isTitle c

def isCaseIgnorable (c : Char) : Bool :=
  inside caseIgnorableBounds c.toNat

/-- The nearest character that case decisions do not pass over is a letter with
case. -/
def meetsCased (text : List Char) : Bool :=
  ((text.dropWhile isCaseIgnorable).head?).any isCased

def lowerFrom : List Char → List Char → List Char
  | _, [] => []
  | before, c :: rest =>
      let lowered :=
        if c.toNat < 128 then [c.toLower]
        else if c.toNat = 0x130 then ['i', Char.ofNat 0x307]
        else if c.toNat = 0x3A3 then
          [Char.ofNat (if meetsCased before && !meetsCased rest then 0x3C2 else 0x3C3)]
        else [lowerChar c]
      lowered ++ lowerFrom (c :: before) rest

/-- The lower case form of a text. -/
def lower (text : List Char) : List Char :=
  lowerFrom [] text

def lowered (text : String) : String :=
  String.ofList (lower text.toList)

/-- A text is in upper case when it has an upper case letter and no lower or title
case one. -/
def isUpperText (text : List Char) : Bool :=
  text.any isUpper && text.all fun c => !isLower c && !isTitle c

/-- Lower case letters that are variants of one another. -/
def variants : List (List Nat) :=
  [[105, 305], [115, 383], [181, 956], [837, 953, 8126], [912, 8147], [944, 8163], [946, 976],
   [949, 1013], [952, 977], [954, 1008], [960, 982], [961, 1009], [962, 963], [966, 981],
   [1074, 7296], [1076, 7297], [1086, 7298], [1089, 7299], [1090, 7300, 7301], [1098, 7302],
   [1123, 7303], [7304, 42571], [7777, 7835], [64261, 64262]]

/-- One key for all the forms of a letter that comparison without regard to case
takes for the same. -/
def caseKey (c : Char) : Nat :=
  let n := (lowerChar c).toNat
  ((variants.find? (·.contains n)).bind (·.head?)).getD n

def sameLetter (a b : Char) : Bool :=
  caseKey a == caseKey b

end MarkupLint.Text
