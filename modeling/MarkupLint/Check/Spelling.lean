import MarkupLint.Check.Checker
import MarkupLint.Check.Lexicon
import MarkupLint.Log
import MarkupLint.Text.Digit
import MarkupLint.Text.Scan
import MarkupLint.Text.Word
import MarkupLint.Value.Convert

/-!
Words that no dictionary holds.  Tokens that look like code or names are passed over:
those with digits or underscores, short acronyms in capitals, and words with a capital
inside.  A contraction or possessive is known if what stands before its apostrophe is.
-/
namespace MarkupLint

namespace Spelling

open MarkupLint.Text

def curlyApostrophe : Char := Char.ofNat 0x2019

def isTokenChar (c : Char) : Bool :=
  isWord c || c == '\'' || c == curlyApostrophe || c == '-'

/-- A run of token characters. -/
def token? (_ : Option Char) : Recogniser (List Char)
  | c :: rest =>
      let run := rest.takeWhile isTokenChar
      if isTokenChar c then some (c :: run, run.length) else none
  | [] => none

def isMark (c : Char) : Bool :=
  c == '\'' || c == curlyApostrophe || c == '-'

/-- A token without the apostrophes and hyphens at its ends. -/
def bare (token : List Char) : List Char :=
  ((token.dropWhile isMark).reverse.dropWhile isMark).reverse

/-- Whether a token looks like prose rather than code or a name. -/
def isProse (maxAcronym : Int) (token : List Char) : Bool :=
  !token.any (fun c => isDigit c || c == '_') &&
    !(isUpperText token && decide ((token.length : Int) ≤ maxAcronym)) &&
    (!(token.drop 1).any isUpper || isUpperText token)

def words (maxAcronym : Int) (text : List Char) : List (List Char) :=
  let tokens := (scan token? text).map bare
  (tokens.filter fun token => !token.isEmpty && isProse maxAcronym token).flatMap
    fun token => (split ['-'] token).filter (!·.isEmpty)

/-- The part of a word before its first apostrophe: a straight one if there is one, else a
curly one. -/
def stem? (word : List Char) : Option (List Char) :=
  if word.contains '\'' then some (word.takeWhile (· != '\''))
  else if word.contains curlyApostrophe then some (word.takeWhile (· != curlyApostrophe))
  else none

def ruleId : String := "spelling/unknown-word"

end Spelling

structure SpellingChecker where
  lexicon : Lexicon
  /-- Words in lower case that are always accepted. -/
  allow : List String := []
  /-- Tokens in capitals up to this length are acronyms. -/
  maxAcronym : Int := 5

/-- Why a checker cannot be set up. -/
inductive SetupError where
  | setting (error : ConversionError)
  | noDictionary (language : String)
  deriving DecidableEq, Repr

def SetupError.message : SetupError → String
  | .setting error => error.message
  | .noDictionary language =>
      "The provided dictionary language (" ++ language ++ ") does not exist!"

/-- Word counts by language. -/
abbrev Dictionaries := List (String × List (String × Int))

namespace SpellingChecker

open MarkupLint.Spelling
open MarkupLint.Text

def words (checker : SpellingChecker) (text : String) : List String :=
  (Spelling.words checker.maxAcronym text.toList).map String.ofList

/-- Whether a word, in lower case, is accepted. -/
def isKnown (checker : SpellingChecker) (key : String) : Bool :=
  checker.allow.contains key || !checker.lexicon.isUnknown key ||
    match stem? key.toList with
    | none => false
    | some stem => !stem.isEmpty && !checker.lexicon.isUnknown (String.ofList stem)

def issue (checker : SpellingChecker) (word key : String) : Issue :=
  let problem := "\"" ++ word ++ "\" is misspelled"
  let message :=
    match checker.lexicon.correction? key with
    | some guess =>
        if guess.isEmpty || guess = key then problem
        else problem ++ " (did you mean \"" ++ guess ++ "\"?)"
    | none => problem
  ⟨message, ruleId⟩

/-- One issue for each unknown word, whatever its case, at its first occurrence. -/
def issuesFrom (checker : SpellingChecker) (seen : List String) : List String → List Issue
  | [] => []
  | word :: rest =>
      let key := lowered word
      if seen.contains key || checker.isKnown key then issuesFrom checker seen rest
      else checker.issue word key :: issuesFrom checker (key :: seen) rest

def check (checker : SpellingChecker) (text : String) : List Issue :=
  checker.issuesFrom [] (checker.words text)

def checker (spelling : SpellingChecker) : Checker :=
  .blocking "spelling" "spelling" fun text => .ok (spelling.check text)

/-- The counts of a language, by its name in lower case. -/
def lexicon? (dictionaries : Dictionaries) (language : String) : Option Lexicon :=
  (dictionaries.lookup (lowered language)).map Lexicon.ofCounts

def fallback : String := "en"

/-- Set up for a language, or for English where there are no words for it. -/
def ofLanguage (dictionaries : Dictionaries) (language : String) (allow : List String)
    (maxAcronym : Int) : Logged (Except SetupError SpellingChecker) :=
  let known := (allow.map lowered).eraseDups
  let build (lexicon : Lexicon) : SpellingChecker :=
    { lexicon := lexicon.load known, allow := known, maxAcronym := maxAcronym }
  match lexicon? dictionaries language with
  | some lexicon => ⟨.ok (build lexicon), []⟩
  | none =>
      { value := ((lexicon? dictionaries fallback).map (.ok ∘ build)).getD
          (.error (.noDictionary fallback))
        log := [⟨.warning, .spelling, "Spelling language '" ++ language ++
          "' unavailable, falling back to '" ++ fallback ++ "'"⟩] }

/-- The words that a list of exceptions names. -/
def allowed (config : Value) : Except ConversionError (List String) :=
  if config.isGiven then config.members.map fun items => items.map Value.display else .ok []

/-- The length limit as configured; five when the key is absent. -/
def acronymLimit (config : Value) : Except ConversionError Int :=
  match ((config.entries?.getD []).field? "max_acronym_length") with
  | some limit => limit.toWhole
  | none => .ok 5

def ofConfig (dictionaries : Dictionaries) (config : Value) :
    Logged (Except SetupError SpellingChecker) :=
  let language := config.field "language"
  match allowed (config.field "allow"), acronymLimit config with
  | .ok allow, .ok limit =>
      ofLanguage dictionaries (if language.isGiven then language.display else fallback) allow limit
  | .error e, _ => ⟨.error (.setting e), []⟩
  | .ok _, .error e => ⟨.error (.setting e), []⟩

end SpellingChecker

end MarkupLint
