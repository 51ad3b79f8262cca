import Mathlib.Data.List.Forall2
import MarkupLint.Proofs.ProseIssues

/-!
Where a phrase stands in a text. A phrase is looked for at every place, in any case, with a word
boundary at both of its ends (`Prose.hasPhrase_iff`). For a phrase that begins and ends with word
characters this is to stand there as whole words; where another character begins or ends it, a
boundary asks for a word character right beside it. Main statement: what a checker reports about
its phrases, and for which phrases that is whole words (`ProseChecker.issuesUnder_phrases`).
-/
namespace MarkupLint

namespace Prose

open Text

/-- Equal letter by letter, apart from case. -/
def SameLetters (phrase here : List Char) : Prop :=
  List.Forall₂ (fun p c => sameLetter p c = true) phrase here

variable {phrase here front back text : List Char} {before : Option Char}

theorem sameLetters_self (phrase : List Char) : SameLetters phrase phrase :=
  List.forall₂_same.mpr fun _ _ => beq_self_eq_true _

theorem afterPhrase?_eq_some_iff : afterPhrase? phrase text = some back ↔
    ∃ here, text = here ++ back ∧ SameLetters phrase here := by
  induction phrase generalizing text with
  | nil =>
    constructor
    · rintro ⟨⟩
      exact ⟨[], rfl, .nil⟩
    · rintro ⟨here, rfl, same⟩
      cases same
      rfl
  | cons p phrase ih =>
    cases text with
    | nil => simp [afterPhrase?, SameLetters]
    | cons c rest =>
      rw [afterPhrase?]
      constructor
      · intro found
        split at found
        next same =>
          obtain ⟨here, rfl, others⟩ := ih.mp found
          exact ⟨c :: here, rfl, .cons same others⟩
        next => cases found
      · rintro ⟨here, parts, same⟩
        cases same with
        | cons first others =>
          obtain ⟨rfl, rfl⟩ := List.cons.inj parts
          rw [if_pos first]
          exact ih.mpr ⟨_, rfl, others⟩

theorem phraseAt_iff : phraseAt phrase before text = true ↔
    ∃ here back, text = here ++ back ∧ SameLetters phrase here ∧
      isBoundary before text.head? = true ∧
      isBoundary (here.getLast?.or before) back.head? = true := by
  have lastOf (here : List Char) :
      (before.toList ++ here).getLast? = here.getLast?.or before := by
    cases before <;> simp [List.getLast?_cons]
  rw [phraseAt]
  constructor
  · intro found
    split at found
    next back after =>
      obtain ⟨here, rfl, same⟩ := afterPhrase?_eq_some_iff.mp after
      rw [Bool.and_eq_true, List.Forall₂.length_eq same, List.take_left, lastOf] at found
      exact ⟨here, back, rfl, same, found⟩
    next => cases found
  · rintro ⟨here, back, rfl, same, atStart, atEnd⟩
    rw [afterPhrase?_eq_some_iff.mpr ⟨here, rfl, same⟩]
    dsimp only
    rw [Bool.and_eq_true, List.Forall₂.length_eq same, List.take_left, lastOf]
    exact ⟨atStart, atEnd⟩

theorem hasPhraseFrom_iff : hasPhraseFrom phrase before text = true ↔
    ∃ front rest, text = front ++ rest ∧ phraseAt phrase (front.getLast?.or before) rest = true := by
  induction text generalizing before with
  | nil =>
    constructor
    · exact fun found => ⟨[], [], rfl, found⟩
    · rintro ⟨front, rest, parts, found⟩
      obtain ⟨rfl, rfl⟩ := List.append_eq_nil_iff.mp parts.symm
      exact found
  | cons c rest ih =>
    have lastOf (front : List Char) :
        (c :: front).getLast?.or before = front.getLast?.or (some c) := by
      rw [List.getLast?_cons]
      cases front.getLast? <;> rfl
    rw [hasPhraseFrom, Bool.or_eq_true, ih]
    constructor
    · rintro (found | ⟨front, later, rfl, found⟩)
      · exact ⟨[], c :: rest, rfl, found⟩
      · exact ⟨c :: front, later, rfl, (lastOf front).symm ▸ found⟩
    · rintro ⟨front, later, parts, found⟩
      cases front with
      | nil =>
        obtain rfl : c :: rest = later := parts
        exact .inl found
      | cons d front =>
        obtain ⟨rfl, rfl⟩ := List.cons.inj parts
        exact .inr ⟨front, later, rfl, lastOf front ▸ found⟩

/-- A phrase is found where it stands in some case with a word boundary at both of its ends. -/
theorem hasPhrase_iff (nonempty : phrase ≠ []) : hasPhrase phrase text = true ↔
    ∃ front here back, text = front ++ (here ++ back) ∧ SameLetters phrase here ∧
      isBoundary front.getLast? here.head? = true ∧
      isBoundary here.getLast? back.head? = true := by
  have ends {here : List Char} (same : SameLetters phrase here) (back : List Char)
      (before : Option Char) : (here ++ back).head? = here.head? ∧
        here.getLast?.or before = here.getLast? := by
    cases same with
    | nil => exact absurd rfl nonempty
    | cons => exact ⟨rfl, by rw [List.getLast?_cons, Option.some_or]⟩
  rw [hasPhrase, hasPhraseFrom_iff]
  simp only [phraseAt_iff, Option.or_none]
  constructor
  · rintro ⟨front, rest, rfl, here, back, rfl, same, atStart, atEnd⟩
    obtain ⟨first, last⟩ := ends same back front.getLast?
    exact ⟨front, here, back, rfl, same, first ▸ atStart, last ▸ atEnd⟩
  · rintro ⟨front, here, back, rfl, same, atStart, atEnd⟩
    obtain ⟨first, last⟩ := ends same back front.getLast?
    exact ⟨front, here ++ back, rfl, here, back, rfl, same, first.symm ▸ atStart,
      last.symm ▸ atEnd⟩

/-- Word characters stand at both ends of a phrase. -/
def BeginsAndEndsInWords (phrase : List Char) : Prop :=
  phrase.head?.any isWord = true ∧ phrase.getLast?.any isWord = true

instance (phrase : List Char) : Decidable (BeginsAndEndsInWords phrase) :=
  inferInstanceAs (Decidable (_ ∧ _))

theorem hasPhrase_of_clear (nonempty : phrase ≠ []) (words : BeginsAndEndsInWords phrase)
    (clearBefore : front.getLast?.any isWord = false)
    (clearBehind : back.head?.any isWord = false) :
    hasPhrase phrase (front ++ (phrase ++ back)) = true := by
  refine (hasPhrase_iff nonempty).mpr ⟨front, phrase, back, rfl, sameLetters_self phrase, ?_, ?_⟩
  · rw [isBoundary, clearBefore, words.1]
    rfl
  · rw [isBoundary, clearBehind, words.2]
    rfl

/-- A phrase is found in itself only if both of its ends are word characters. -/
theorem hasPhrase_self_iff (nonempty : phrase ≠ []) :
    hasPhrase phrase phrase = true ↔ BeginsAndEndsInWords phrase := by
  constructor
  · intro found
    obtain ⟨front, here, back, parts, same, atStart, atEnd⟩ := (hasPhrase_iff nonempty).mp found
    have sizes := congrArg List.length parts
    rw [List.length_append, List.length_append, ← List.Forall₂.length_eq same] at sizes
    obtain rfl : front = [] := List.eq_nil_of_length_eq_zero (by omega)
    obtain rfl : back = [] := List.eq_nil_of_length_eq_zero (by omega)
    rw [List.nil_append, List.append_nil] at parts
    subst parts
    simpa [isBoundary, BeginsAndEndsInWords] using And.intro atStart atEnd
  · intro words
    have clearBefore : ([] : List Char).getLast?.any isWord = false := rfl
    have clearBehind : ([] : List Char).head?.any isWord = false := rfl
    simpa using hasPhrase_of_clear nonempty words clearBefore clearBehind

end Prose

namespace ProseChecker

open Prose Text

/-- What a checker reports about its phrases are the messages of those that stand in the text: in
some case, and with a word boundary at both ends, so that a word character at an end of the phrase
has no word character beside it. A phrase that begins and ends with word characters is reported
wherever it stands and no word character is beside it; one that does not is not even reported when
it is the whole text. -/
theorem issuesUnder_phrases (checker : ProseChecker) {phrase : ForbiddenPhrase}
    (configured : phrase ∈ checker.phrases) (nonempty : phrase.phrase ≠ "") :
    (∀ text, checker.issuesUnder phraseRule text =
      (checker.phrases.filter fun phrase => hasPhrase phrase.phrase.toList text.toList).map
        ForbiddenPhrase.issue) ∧
    (∀ text, hasPhrase phrase.phrase.toList text = true ↔
      ∃ front here back, text = front ++ (here ++ back) ∧
        SameLetters phrase.phrase.toList here ∧
        isBoundary front.getLast? here.head? = true ∧
        isBoundary here.getLast? back.head? = true) ∧
    (BeginsAndEndsInWords phrase.phrase.toList → ∀ front back : String,
      front.toList.getLast?.any isWord = false → back.toList.head?.any isWord = false →
        phrase.issue ∈ checker.issuesUnder phraseRule (front ++ phrase.phrase ++ back)) ∧
    (hasPhrase phrase.phrase.toList phrase.phrase.toList = true ↔
      BeginsAndEndsInWords phrase.phrase.toList) := by
  have some : phrase.phrase.toList ≠ [] := by simpa using nonempty
  refine ⟨checker.issuesUnder_phraseRule, fun text => hasPhrase_iff some, ?_,
    hasPhrase_self_iff some⟩
  intro words front back clearBefore clearBehind
  have found := hasPhrase_of_clear some words clearBefore clearBehind
  rw [issuesUnder_phraseRule]
  refine List.mem_map_of_mem (List.mem_filter.mpr ⟨configured, ?_⟩)
  rwa [String.toList_append, String.toList_append, List.append_assoc]

/-- A phrase of two words, in brackets. -/
theorem issuesUnder_phrases_bracketed :
    let phrase := ForbiddenPhrase.make "click here" ""
    let checker : ProseChecker := { phrases := [phrase] }
    phrase ∈ checker.phrases ∧ phrase.phrase ≠ "" ∧
      phrase.issue ∈ checker.issuesUnder phraseRule ("(" ++ phrase.phrase ++ ")") := by
  intro phrase checker
  have configured : phrase ∈ checker.phrases := List.mem_singleton_self phrase
  have nonempty : phrase.phrase ≠ "" := by decide
  obtain ⟨-, -, reported, -⟩ := checker.issuesUnder_phrases configured nonempty
  exact ⟨configured, nonempty, reported (by decide) "(" ")" (by decide) (by decide)⟩

/-- A phrase with a full stop at its end is not reported where it stands as a whole word, but is
where a letter follows. A combining iota, which is no word character but a form of the letter, is
taken for a phrase between two letters. -/
theorem issuesUnder_phrases_of_full_stop :
    let phrase := ForbiddenPhrase.make "etc." "Name the rest."
    let iota := ForbiddenPhrase.make "ι" ""
    let checker : ProseChecker := { phrases := [phrase, iota] }
    checker.issuesUnder phraseRule "Apples, pears etc." = [] ∧
      checker.issuesUnder phraseRule "Apples, pears etc. and more" = [] ∧
      checker.issuesUnder phraseRule "Apples, pears etc.and more" = [phrase.issue] ∧
      checker.issuesUnder phraseRule (String.ofList ['x', Char.ofNat 0x345, 'y']) = [iota.issue] := by
  decide

end ProseChecker

end MarkupLint
