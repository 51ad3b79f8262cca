import MarkupLint.Check.Checker
import MarkupLint.Text.Blank
import MarkupLint.Text.Case
import MarkupLint.Text.Digit
import MarkupLint.Text.Scan
import MarkupLint.Text.Word
import MarkupLint.Value.Display

/-!
Style of short texts: repeated words, spaces where none belong, punctuation marks in a row,
and phrases that are not wanted.
-/
namespace MarkupLint.Prose

open MarkupLint.Text

/-- ASCII letters and the four letters that count as one of them in another case. -/
def isWordLetter (c : Char) : Bool :=
  isAsciiLetter c || [0x130, 0x131, 0x17F, 0x212A].contains c.toNat

/-- Equal letters, apart from case. -/
def sameIgnoringCase (a b : List Char) : Bool :=
  a.map lowerChar == b.map lowerChar

/-- A whole word of letters, white space, and the same word once more. -/
def repeatedWord? (before : Option Char) : Recogniser String := fun text =>
  let word := text.takeWhile isWordLetter
  let gap := (text.drop word.length).takeWhile isBlank
  let again := text.drop (word.length + gap.length)
  if !word.isEmpty && !gap.isEmpty && !before.any isWord &&
      sameIgnoringCase (again.take word.length) word &&
      !((again.drop word.length).head?.any isWord) then
    some (String.ofList word, word.length + gap.length + word.length - 1)
  else none

/-- What a space before a punctuation mark is noticed after. -/
def endsPhrase (c : Char) : Bool :=
  isAsciiLetter c || isAsciiDigit c || c == ')' || c == '"' || c == '\''

def isStop (c : Char) : Bool :=
  [',', '.', ';', ':', '!', '?'].contains c

/-- A phrase end, spaces, and a punctuation mark with white space or nothing after it. -/
def spaceBeforeMark? (_ : Option Char) : Recogniser Char
  | c :: rest =>
      let spaces := rest.takeWhile (· == ' ')
      match rest.drop spaces.length with
      | mark :: after =>
          if endsPhrase c && !spaces.isEmpty && isStop mark && after.head?.all isBlank then
            some (mark, spaces.length + 1)
          else none
      | [] => none
  | [] => none

def isRepeatable (c : Char) : Bool :=
  ['!', '?', ',', ';'].contains c

/-- A punctuation mark more than once in a row. -/
def repeatedMark? (_ : Option Char) : Recogniser String
  | c :: rest =>
      let more := rest.takeWhile (· == c)
      if isRepeatable c && !more.isEmpty then some (String.ofList (c :: more), more.length)
      else none
  | [] => none

/-- Two spaces or more between characters that are not blank. -/
def hasDoubleSpace : List Char → Bool
  | [] => false
  | c :: rest =>
      let spaces := rest.takeWhile (· == ' ')
      (!isBlank c && 2 ≤ spaces.length &&
        (rest.drop spaces.length).head?.any (!isBlank ·)) || hasDoubleSpace rest

/-- The beginning of a text that equals a phrase apart from case, if there is one, is
followed by this. -/
def afterPhrase? : List Char → List Char → Option (List Char)
  | [], rest => some rest
  | _ :: _, [] => none
  | p :: phrase, c :: rest => if sameLetter p c then afterPhrase? phrase rest else none

/-- Whether a phrase starts right here, with a word boundary at either end. -/
def phraseAt (phrase : List Char) (before : Option Char) (text : List Char) : Bool :=
  match afterPhrase? phrase text with
  | some after =>
      isBoundary before text.head? &&
        isBoundary ((before.toList ++ text.take phrase.length).getLast?) after.head?
  | none => false

def hasPhraseFrom (phrase : List Char) : Option Char → List Char → Bool
  | before, [] => phraseAt phrase before []
  | before, c :: rest => phraseAt phrase before (c :: rest) || hasPhraseFrom phrase (some c) rest

/-- Whether a phrase stands somewhere in a text as whole words. -/
def hasPhrase (phrase text : List Char) : Bool :=
  hasPhraseFrom phrase none text

inductive Rule where
  | repeatedWord
  | spaceBeforePunctuation
  | repeatedPunctuation
  | doubleSpace
  deriving DecidableEq, Repr

namespace Rule

def all : List Rule := [repeatedWord, spaceBeforePunctuation, repeatedPunctuation, doubleSpace]

def name : Rule → String
  | repeatedWord => "repeated-word"
  | spaceBeforePunctuation => "space-before-punctuation"
  | repeatedPunctuation => "repeated-punctuation"
  | doubleSpace => "double-space"

def messages (rule : Rule) (text : List Char) : List String :=
  match rule with
  | repeatedWord => (scan repeatedWord? text).map fun word => "Repeated word \"" ++ word ++ "\""
  | spaceBeforePunctuation =>
      (scan spaceBeforeMark? text).map fun mark =>
        "Unexpected space before \"" ++ String.singleton mark ++ "\""
  | repeatedPunctuation =>
      (scan repeatedMark? text).map fun marks => "Repeated punctuation \"" ++ marks ++ "\""
  | doubleSpace => if hasDoubleSpace text then ["Multiple consecutive spaces"] else []

end Rule

def ruleId (name : String) : String := "prose/" ++ name

def phraseRule : String := "forbidden-phrase"

structure ForbiddenPhrase where
  phrase : String
  message : String
  deriving DecidableEq, Repr

/-- A phrase with its message; one without a message gets a plain one. -/
def ForbiddenPhrase.make (phrase message : String) : ForbiddenPhrase :=
  ⟨phrase, if message.isEmpty then "Avoid \"" ++ phrase ++ "\"" else message⟩

end Prose

structure ProseChecker where
  rules : List Prose.Rule := Prose.Rule.all
  phrases : List Prose.ForbiddenPhrase := []
  deriving DecidableEq, Repr

namespace ProseChecker

open MarkupLint.Prose

/-- A rule is on unless it is switched off. -/
def isOn (rules : Entries) (name : String) : Bool :=
  ((rules.field? name).map Value.isGiven).getD true

def ofConfig (config : Value) : ProseChecker :=
  let rules := ((config.field "rules").entries?).getD []
  let phrases := ((config.field "forbidden_phrases").entries?).getD []
  { rules := Rule.all.filter fun rule => isOn rules rule.name
    phrases :=
      if isOn rules phraseRule then
        phrases.map fun (phrase, message) =>
          .make phrase.display (if message.isGiven then message.display else "")
      else [] }

def ruleIds (checker : ProseChecker) : List String :=
  checker.rules.map (fun rule => ruleId rule.name) ++
    if checker.phrases.isEmpty then [] else [ruleId phraseRule]

def check (checker : ProseChecker) (text : String) : List Issue :=
  (checker.rules.flatMap fun rule =>
    (rule.messages text.toList).map fun message => ⟨message, ruleId rule.name⟩) ++
  let found := checker.phrases.filter fun phrase => hasPhrase phrase.phrase.toList text.toList
  found.map fun phrase =>
    ⟨phrase.message, ruleId phraseRule⟩

def checker (prose : ProseChecker) : Checker :=
  .blocking "prose" "prose" fun text => .ok (prose.check text)

end ProseChecker

end MarkupLint
