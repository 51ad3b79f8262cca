import MarkupLint.Number.Reader
import MarkupLint.Text.Accent
import MarkupLint.Text.Case

/-!
Words and how often they occur, for looking words up and for guessing what was meant.  A
word counts as known also when it is not worth looking up: a lone punctuation mark, a
number, or a word much longer than every known one.

A correction is a known word one edit away, or else two.  An edit deletes, replaces or
inserts a letter or swaps two neighbours; `edits` lists what one edit makes of a word, and
`isOneEdit` compares two words directly.
-/
namespace MarkupLint

open MarkupLint.Text

/-- Known words in lower case, each once, with their frequencies. -/
structure Lexicon where
  words : List (String × Int) := []
  deriving DecidableEq, Repr

namespace Lexicon

def addTo (word : String) (count : Int) : List (String × Int) → List (String × Int)
  | [] => [(word, count)]
  | entry :: rest =>
      if entry.1 = word then (word, entry.2 + count) :: rest else entry :: addTo word count rest

/-- Count a word, in lower case, some more times. -/
def add (lexicon : Lexicon) (word : String) (count : Int) : Lexicon :=
  { words := addTo (lowered word) count lexicon.words }

def ofCounts (counts : List (String × Int)) : Lexicon :=
  counts.foldl (fun lexicon entry => lexicon.add entry.1 entry.2) {}

/-- Count each of some words once more. -/
def load (lexicon : Lexicon) (words : List String) : Lexicon :=
  words.foldl (fun lexicon word => lexicon.add word 1) lexicon

def has (lexicon : Lexicon) (word : String) : Bool :=
  lexicon.words.any (·.1 == word)

/-- The letters of all known words. -/
def letters (lexicon : Lexicon) : List Char :=
  (lexicon.words.flatMap (·.1.toList)).eraseDups

/-- The length of the longest known word. -/
def longest (lexicon : Lexicon) : Nat :=
  (lexicon.words.map (·.1.length)).foldl max 0

def isPunctuation (c : Char) : Bool :=
  let n := c.toNat
  (33 ≤ n && n ≤ 47) || (58 ≤ n && n ≤ 64) || (91 ≤ n && n ≤ 96) || (123 ≤ n && n ≤ 126)

/-- Whether a word is worth looking up. -/
def isWorthwhile (lexicon : Lexicon) (word : String) : Bool :=
  !(word.length == 1 && word.toList.all isPunctuation) &&
    word.length ≤ lexicon.longest + 3 &&
    ((Number.readDouble? word.toList).isNone || ["nan", "inf", "infinity"].contains (lowered word))

def isUnknown (lexicon : Lexicon) (word : String) : Bool :=
  lexicon.isWorthwhile word && !lexicon.has (lowered word)

/-- All that one edit makes of a word. -/
def edits (letters : List Char) : List Char → List (List Char)
  | [] => letters.map ([·])
  | c :: rest =>
      letters.map (· :: c :: rest) ++ rest :: letters.map (· :: rest) ++
        (match rest with
          | d :: more => [d :: c :: more]
          | [] => []) ++
        (edits letters rest).map (c :: ·)

/-- Whether one edit leads from a word to another. -/
def isOneEdit : List Char → List Char → Bool
  | [], [] => false
  | [], _ :: rest => rest.isEmpty
  | _ :: rest, [] => rest.isEmpty
  | c :: a, d :: b =>
      a == b || a == d :: b || c :: a == b ||
        (match a, b with
          | x :: a', y :: b' => c == y && d == x && a' == b'
          | _, _ => false) ||
        (c == d && isOneEdit a b)

/-- Known words worth looking up, with frequencies. -/
def targets (lexicon : Lexicon) : List (List Char × Int) :=
  (lexicon.words.filter fun entry => lexicon.isWorthwhile entry.1).map fun entry =>
    (entry.1.toList, entry.2)

/-- Known words one edit away, or else two edits away by way of a word worth looking up. -/
def candidates (lexicon : Lexicon) (word : List Char) : List (List Char × Int) :=
  let targets := lexicon.targets
  let near := targets.filter fun target => isOneEdit word target.1
  if near.isEmpty then
    let steps := (edits lexicon.letters word).filter fun step =>
      lexicon.isWorthwhile (String.ofList step)
    targets.filter fun target => steps.any fun step => isOneEdit step target.1
  else near

/-- The more frequent of two words, the first one if they are equal. -/
def moreFrequent (best : Option (List Char × Int)) (other : List Char × Int) :
    Option (List Char × Int) :=
  match best with
  | none => some other
  | some kept => some (if kept.2 < other.2 then other else kept)

/-- Candidates that differ from a word in diacritics only, if there are any, else all. -/
def preferred (word : List Char) (candidates : List (List Char × Int)) : List (List Char × Int) :=
  let alike := candidates.filter fun candidate =>
    withoutDiacritics candidate.1 == withoutDiacritics word
  if alike.isEmpty then candidates else alike

/-- The most frequent candidate, those that differ in diacritics only before all others. -/
def correction? (lexicon : Lexicon) (word : String) : Option String :=
  if lexicon.isUnknown word then
    ((preferred word.toList (lexicon.candidates word.toList)).foldl moreFrequent none).map
      fun best => String.ofList best.1
  else some word

end Lexicon

end MarkupLint
