import Mathlib.Data.List.DropRight
import MarkupLint.Check.Spelling
import MarkupLint.Proofs.Pieces

/-!
Tokens and words. A token is a run of word characters, apostrophes and hyphens without those at
its ends; the words of a text are what stands between the hyphens of the tokens that look like
prose. Main statement: what the parts of a token take over from it, and when a word, looked at as a
text of its own, is its only word (`SpellingChecker.words_of_mem_words`). Two things are asked of a
token as a whole and not of its parts: apostrophes may stand at the ends of a part, and a part may
be an acronym.
-/
namespace MarkupLint

namespace Spelling

open Text

/-- The tokens of a text that look like prose, without the apostrophes and hyphens around them. -/
def tokens (maxAcronym : Int) (text : List Char) : List (List Char) :=
  ((scan token? text).map bare).filter fun token => !token.isEmpty && isProse maxAcronym token

/-- No apostrophe and no hyphen stands at either end. -/
def IsBare (token : List Char) : Prop :=
  (∀ c ∈ token.head?, isMark c = false) ∧ ∀ c ∈ token.getLast?, isMark c = false

/-- In capitals, and short enough to be taken for an acronym. -/
def IsAcronym (maxAcronym : Int) (token : List Char) : Prop :=
  isUpperText token = true ∧ (token.length : Int) ≤ maxAcronym

/-- A capital stands behind the first character, and not all is in capitals. -/
def IsMixedCase (token : List Char) : Prop :=
  token.tail.any isUpper = true ∧ isUpperText token = false

/-- Word characters and apostrophes, with no digit and no underscore among them. -/
def IsLettered (word : List Char) : Prop :=
  ∀ c ∈ word, isTokenChar c = true ∧ isDigit c = false ∧ c ≠ '_' ∧ c ≠ '-'

instance (maxAcronym : Int) (token : List Char) : Decidable (IsAcronym maxAcronym token) :=
  inferInstanceAs (Decidable (_ ∧ _))

variable {maxAcronym : Int} {text token word : List Char}

theorem isProse_eq_true_iff :
    isProse maxAcronym token = true ↔ (∀ c ∈ token, isDigit c = false ∧ c ≠ '_') ∧
      ¬IsAcronym maxAcronym token ∧ ¬IsMixedCase token := by
  simp [isProse, IsAcronym, IsMixedCase, imp_iff_not_or, and_assoc]

/-! ### The scan for tokens -/

theorem scanFrom_of_length_le {α : Type} (find : Option Char → Recogniser α) (before : Option Char)
    {covered : Nat} (all : text.length ≤ covered) : scanFrom find before covered text = [] := by
  induction text generalizing before covered with
  | nil => rfl
  | cons c rest ih =>
    cases covered with
    | zero => simp at all
    | succ covered => exact ih (some c) (by simpa using all)

/-- What the scan finds is made of token characters. -/
theorem isTokenChar_of_mem_scanFrom {before : Option Char} {covered : Nat}
    (found : token ∈ scanFrom token? before covered text) : ∀ c ∈ token, isTokenChar c = true := by
  induction text generalizing before covered with
  | nil => cases found
  | cons c rest ih =>
    cases covered with
    | succ covered => exact ih found
    | zero =>
      cases starts : isTokenChar c with
      | false =>
        rw [scanFrom, token?, if_neg (by simp [starts])] at found
        exact ih found
      | true =>
        rw [scanFrom, token?, if_pos starts] at found
        rcases List.mem_cons.mp found with rfl | later
        · intro d member
          rcases List.mem_cons.mp member with rfl | member
          · exact starts
          · exact List.mem_takeWhile_imp member
        · exact ih later

/-- A text of token characters is found as one token. -/
theorem scan_token_of_all (nonempty : text ≠ []) (all : ∀ c ∈ text, isTokenChar c = true) :
    scan token? text = [text] := by
  obtain ⟨c, rest, rfl⟩ := List.exists_cons_of_ne_nil nonempty
  obtain ⟨starts, others⟩ := List.forall_mem_cons.mp all
  have run : rest.takeWhile isTokenChar = rest := List.takeWhile_eq_self_iff.mpr others
  rw [scan, scanFrom, token?, if_pos starts, run]
  exact congrArg ((c :: rest) :: ·) (scanFrom_of_length_le token? (some c) (Nat.le_refl _))

/-! ### The ends of a token -/

theorem bare_eq (token : List Char) : bare token = (token.dropWhile isMark).rdropWhile isMark :=
  rfl

theorem bare_isInfix (token : List Char) : bare token <:+: token :=
  (List.rdropWhile_prefix isMark _).isInfix.trans (List.dropWhile_suffix isMark).isInfix

theorem isBare_bare (token : List Char) : IsBare (bare token) := by
  refine ⟨fun c first => stop_dropWhile isMark token c ?_, fun c last => ?_⟩
  · rw [bare_eq] at first
    obtain ⟨tail, parts⟩ := List.rdropWhile_prefix isMark (token.dropWhile isMark)
    rw [← parts]
    exact List.mem_head?_append_of_mem_head? first
  · rw [bare, List.getLast?_reverse] at last
    exact stop_dropWhile isMark _ c last

theorem bare_eq_self_iff : bare token = token ↔ IsBare token := by
  refine ⟨fun same => same ▸ isBare_bare token, fun ⟨first, last⟩ => ?_⟩
  have start : token.dropWhile isMark = token := by
    cases token with
    | nil => rfl
    | cons c rest => exact List.dropWhile_cons_of_neg (by simp [first c rfl])
  rw [bare_eq, start, List.rdropWhile_eq_self_iff]
  intro nonempty
  simp [last _ (List.getLast?_eq_some_getLast nonempty)]

instance (token : List Char) : Decidable (IsBare token) :=
  decidable_of_iff (bare token = token) bare_eq_self_iff

/-! ### Parts of a token -/

theorem split_hyphen_cons (c : Char) (rest : List Char) :
    split ['-'] (c :: rest) =
      if c = '-' then [] :: split ['-'] rest else consHead c (split ['-'] rest) := by
  have opens : ['-'].isPrefixOf (c :: rest) = decide (c = '-') := by
    simp [List.isPrefixOf, Bool.beq_eq_decide_eq, eq_comm]
  rw [split, splitFrom, opens]
  by_cases same : c = '-' <;> simp [same, split]

theorem mem_consHead {c : Char} {part : List Char} {parts : List (List Char)}
    (member : part ∈ consHead c parts) :
    part ∈ parts ∨ part = [c] ∨ ∃ first ∈ parts, part = c :: first := by
  cases parts with
  | nil => simp_all [consHead]
  | cons first others =>
    rcases List.mem_cons.mp member with rfl | other
    · exact .inr (.inr ⟨first, List.mem_cons_self, rfl⟩)
    · exact .inl (List.mem_cons_of_mem first other)

theorem subset_of_mem_split_hyphen {part : List Char} (member : part ∈ split ['-'] token) :
    part ⊆ token ∧ '-' ∉ part := by
  induction token generalizing part with
  | nil => simp_all [split, splitFrom]
  | cons c rest ih =>
    rw [split_hyphen_cons] at member
    split at member
    next =>
      rcases List.mem_cons.mp member with rfl | later
      · simp
      · exact ⟨List.subset_cons_of_subset c (ih later).1, (ih later).2⟩
    next other =>
      rcases mem_consHead member with later | rfl | ⟨first, found, rfl⟩
      · exact ⟨List.subset_cons_of_subset c (ih later).1, (ih later).2⟩
      · simp [Ne.symm other]
      · exact ⟨List.cons_subset_cons c (ih found).1, by simp [Ne.symm other, (ih found).2]⟩

theorem tail_subset_of_mem_split_hyphen {part : List Char} (member : part ∈ split ['-'] token) :
    part.tail ⊆ token.tail := by
  cases token with
  | nil => simp_all [split, splitFrom]
  | cons c rest =>
    -- a part that takes in the first character begins with it
    have later {other : List Char} (found : other ∈ split ['-'] rest) : other.tail ⊆ rest :=
      fun c member => (subset_of_mem_split_hyphen found).1 (List.mem_of_mem_tail member)
    rw [split_hyphen_cons] at member
    split at member
    next =>
      rcases List.mem_cons.mp member with rfl | found
      · simp
      · exact later found
    next =>
      rcases mem_consHead member with found | rfl | ⟨first, found, rfl⟩
      · exact later found
      · simp
      · exact (subset_of_mem_split_hyphen found).1

theorem not_isMixedCase_of_subset {part : List Char} (plain : ¬IsMixedCase token)
    (within : part ⊆ token) (behind : part.tail ⊆ token.tail) : ¬IsMixedCase part := by
  rintro ⟨capital, mixed⟩
  obtain ⟨c, member, upper⟩ := List.any_eq_true.mp capital
  -- the token has a capital behind its first character, so all of it is in capitals
  have capitals : isUpperText token = true := by
    by_contra other
    exact plain ⟨List.any_eq_true.mpr ⟨c, behind member, upper⟩, Bool.not_eq_true _ ▸ other⟩
  rw [isUpperText, Bool.and_eq_true, List.all_eq_true] at capitals
  have same : isUpperText part = true := by
    rw [isUpperText, Bool.and_eq_true, List.all_eq_true]
    exact ⟨List.any_eq_true.mpr ⟨c, List.mem_of_mem_tail member, upper⟩,
      fun d found => capitals.2 d (within found)⟩
  rw [same] at mixed
  cases mixed

theorem tail_subset_of_isInfix {part : List Char} (within : part <:+: token) :
    part.tail ⊆ token.tail := by
  obtain ⟨front, back, rfl⟩ := within
  cases front with
  | nil => cases part <;> simp
  | cons c rest => exact fun d member => by simp [List.mem_of_mem_tail member]

/-! ### Tokens and words -/

/-- What is known of a token that looks like prose. -/
structure IsProseToken (maxAcronym : Int) (token : List Char) : Prop where
  nonempty : token ≠ []
  bare : IsBare token
  isTokenChar : ∀ c ∈ token, isTokenChar c = true
  plain : ∀ c ∈ token, isDigit c = false ∧ c ≠ '_'
  not_isAcronym : ¬IsAcronym maxAcronym token
  not_isMixedCase : ¬IsMixedCase token

theorem isProseToken_of_mem_tokens (member : token ∈ tokens maxAcronym text) :
    IsProseToken maxAcronym token := by
  obtain ⟨found, kept⟩ := List.mem_filter.mp member
  obtain ⟨run, scanned, rfl⟩ := List.mem_map.mp found
  rw [Bool.and_eq_true, isProse_eq_true_iff] at kept
  obtain ⟨nonempty, plain, noAcronym, notMixed⟩ := kept
  refine ⟨by simpa using nonempty, isBare_bare run, fun c inside => ?_, plain, noAcronym, notMixed⟩
  exact isTokenChar_of_mem_scanFrom scanned c ((bare_isInfix run).subset inside)

theorem mem_words_iff : word ∈ words maxAcronym text ↔
    word ≠ [] ∧ ∃ token ∈ tokens maxAcronym text, word ∈ split ['-'] token := by
  rw [words, ← tokens, List.mem_flatMap]
  simp only [List.mem_filter, Bool.not_eq_true', List.isEmpty_eq_false_iff]
  exact ⟨fun ⟨token, member, part, nonempty⟩ => ⟨nonempty, token, member, part⟩,
    fun ⟨nonempty, token, member, part⟩ => ⟨token, member, part, nonempty⟩⟩

/-- A text of token characters without hyphens has one word at most. -/
theorem words_of_unhyphenated (chars : ∀ c ∈ word, isTokenChar c = true) (whole : '-' ∉ word) :
    words maxAcronym word =
      if bare word ≠ [] ∧ isProse maxAcronym (bare word) = true then [bare word] else [] := by
  have within : '-' ∉ bare word := fun member => whole ((bare_isInfix word).subset member)
  by_cases empty : word = []
  · subst empty
    rfl
  · rw [words, scan_token_of_all empty chars]
    by_cases kept : bare word ≠ [] ∧ isProse maxAcronym (bare word) = true
    · simp [kept.1, kept.2, split_of_not_mem within]
    · rw [if_neg kept]
      have dropped : [bare word].filter (fun token =>
          !token.isEmpty && isProse maxAcronym token) = [] := by simpa using kept
      rw [List.map_singleton, dropped, List.flatMap_nil]

/-- What a part takes over from its token. -/
theorem IsProseToken.part (prose : IsProseToken maxAcronym token)
    (part : word ∈ split ['-'] token) : IsLettered word ∧ ¬IsMixedCase word := by
  obtain ⟨within, whole⟩ := subset_of_mem_split_hyphen part
  refine ⟨fun c member => ?_, ?_⟩
  · obtain ⟨noDigit, noUnderscore⟩ := prose.plain c (within member)
    exact ⟨prose.isTokenChar c (within member), noDigit, noUnderscore,
      fun hyphen => whole (hyphen ▸ member)⟩
  · exact not_isMixedCase_of_subset prose.not_isMixedCase within
      (tail_subset_of_mem_split_hyphen part)

theorem IsLettered.not_mem_hyphen (lettered : IsLettered word) : '-' ∉ word :=
  fun member => (lettered '-' member).2.2.2 rfl

/-- A part of a token, as a text of its own, has one word at most, which lacks the apostrophes at
its ends. -/
theorem words_of_part (lettered : IsLettered word) (notMixed : ¬IsMixedCase word) :
    words maxAcronym word =
      if bare word ≠ [] ∧ ¬IsAcronym maxAcronym (bare word) then [bare word] else [] := by
  have prose : isProse maxAcronym (bare word) = true ↔ ¬IsAcronym maxAcronym (bare word) := by
    have within := bare_isInfix word
    have plain : ∀ c ∈ bare word, isDigit c = false ∧ c ≠ '_' := fun c member =>
      have known := lettered c (within.subset member)
      ⟨known.2.1, known.2.2.1⟩
    have notMixed : ¬IsMixedCase (bare word) :=
      not_isMixedCase_of_subset notMixed within.subset (tail_subset_of_isInfix within)
    rw [isProse_eq_true_iff]
    exact ⟨fun known => known.2.1, fun noAcronym => ⟨plain, noAcronym, notMixed⟩⟩
  rw [words_of_unhyphenated (fun c member => (lettered c member).1) lettered.not_mem_hyphen]
  simp only [prose]

end Spelling

namespace SpellingChecker

open Spelling Text

/-- The words of a text are parts, between hyphens, of its tokens that look like prose. Each is made
of word characters and apostrophes, without digits, underscores and hyphens, and is not in mixed
case. Looked at as a text of its own it has itself for its only word, unless an apostrophe stands at
one of its ends or it is an acronym, neither of which it is if its token has no hyphen; and it
never has a word but itself without the apostrophes at its ends. -/
theorem words_of_mem_words (checker : SpellingChecker) {text word : String}
    (listed : word ∈ checker.words text) :
    word ≠ "" ∧ IsLettered word.toList ∧ ¬IsMixedCase word.toList ∧
      (checker.words word = [word] ↔
        IsBare word.toList ∧ ¬IsAcronym checker.maxAcronym word.toList) ∧
      (∀ other ∈ checker.words word, other.toList = bare word.toList) ∧
      ∃ token ∈ tokens checker.maxAcronym text.toList, word.toList ∈ split ['-'] token ∧
        ('-' ∉ token → word.toList = token ∧ checker.words word = [word]) := by
  obtain ⟨chars, member, rfl⟩ := List.mem_map.mp listed
  obtain ⟨nonempty, token, found, part⟩ := mem_words_iff.mp member
  have prose := isProseToken_of_mem_tokens found
  obtain ⟨lettered, notMixed⟩ := prose.part part
  have own : checker.words (String.ofList chars) =
      if bare chars ≠ [] ∧ ¬IsAcronym checker.maxAcronym (bare chars) then
        [String.ofList (bare chars)] else [] := by
    rw [words, String.toList_ofList, words_of_part lettered notMixed]
    split <;> rfl
  have alone : checker.words (String.ofList chars) = [String.ofList chars] ↔
      IsBare chars ∧ ¬IsAcronym checker.maxAcronym chars := by
    rw [own]
    constructor
    · intro same
      split at same
      next kept =>
        have bareSelf : bare chars = chars :=
          String.ofList_injective (List.singleton_injective same)
        rw [bareSelf] at kept
        exact ⟨bare_eq_self_iff.mp bareSelf, kept.2⟩
      next => cases same
    · rintro ⟨isBare, noAcronym⟩
      rw [bare_eq_self_iff.mpr isBare, if_pos ⟨nonempty, noAcronym⟩]
  simp only [String.toList_ofList]
  refine ⟨by simpa using nonempty, lettered, notMixed, alone, ?_, token, found, part, ?_⟩
  · intro other among
    rw [own] at among
    split at among
    next => rw [List.mem_singleton.mp among, String.toList_ofList]
    next => cases among
  · intro whole
    rw [split_of_not_mem whole, List.mem_singleton] at part
    subst part
    exact ⟨rfl, alone.mpr ⟨prose.bare, prose.not_isAcronym⟩⟩

/-- A part in capitals that is too long for an acronym, with an apostrophe inside it. -/
theorem words_of_mem_words_capitals :
    let checker : SpellingChecker := { lexicon := {} }
    "SHOULDN’T" ∈ checker.words "YOU-SHOULDN’T" ∧
      IsBare "SHOULDN’T".toList ∧ ¬IsAcronym checker.maxAcronym "SHOULDN’T".toList ∧
      checker.words "SHOULDN’T" = ["SHOULDN’T"] := by
  intro checker
  have listed : "SHOULDN’T" ∈ checker.words "YOU-SHOULDN’T" := by decide +kernel
  have isBare : IsBare "SHOULDN’T".toList := by decide +kernel
  have noAcronym : ¬IsAcronym checker.maxAcronym "SHOULDN’T".toList := by decide +kernel
  obtain ⟨-, -, -, alone, -⟩ := checker.words_of_mem_words listed
  exact ⟨listed, isBare, noAcronym, alone.mpr ⟨isBare, noAcronym⟩⟩

/-- Words that are not their own only word: one stands between apostrophes inside its token, and
two are acronyms once the hyphen is gone. -/
theorem words_of_word_ne_singleton :
    let checker : SpellingChecker := { lexicon := {} }
    checker.words "rock-'n'-roll" = ["rock", "'n'", "roll"] ∧ checker.words "'n'" = ["n"] ∧
      checker.words "HEAVY-METAL" = ["HEAVY", "METAL"] ∧ checker.words "HEAVY" = [] := by
  decide +kernel

end SpellingChecker

end MarkupLint
