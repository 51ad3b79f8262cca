import MarkupLint.Proofs.LowerCase
import MarkupLint.Proofs.Tokens

/-!
Words that are accepted because a list names them. A word is reported at its first spelling if its
lower case form is not known (`SpellingChecker.check_eq`). Main statement: no word of a text is
reported whose lower case form the list has, so an entry is accepted in every spelling as long as
it is one word, which an entry with a hyphen or with an apostrophe at one of its ends is not
(`SpellingChecker.check_of_mem_allow`).
-/
namespace MarkupLint

namespace Spelling

open Text

variable {c : Char} {text : List Char}

/-! ### Apostrophes and hyphens in lower case -/

theorem isMark_iff_toNat : isMark c = true ↔ c.toNat = 39 ∨ c.toNat = 45 ∨ c.toNat = 0x2019 := by
  simp [isMark, ← Char.toNat_inj, curlyApostrophe, or_left_comm, or_comm]

/-- No run of capitals becomes an apostrophe or a hyphen. -/
theorem marks_lowerRuns : ∀ s ∈ lowerRuns, 45 < s.target ∧
    (0x2019 < s.target ∨ s.target + (s.last - s.first) < 0x2019) := by
  decide +kernel

theorem isMark_lowerChar (beyond : 128 ≤ c.toNat) (undotted : c.toNat ≠ 0x130)
    (other : isMark c = false) : isMark (lowerChar c) = false := by
  rw [lowerChar, if_neg (by omega), if_neg undotted]
  cases found : lowerRuns.findSome? (·.image? c.toNat) with
  | none => exact other
  | some m =>
    obtain ⟨s, member, image⟩ := List.exists_of_findSome?_eq_some found
    have code := toNat_ofNat_of_image? member image
    obtain ⟨⟨low, high, -⟩, rfl⟩ := (s.image?_eq_some_iff c.toNat m).mp image
    obtain ⟨above, apart⟩ := marks_lowerRuns s member
    rw [Option.map_some, Option.getD_some, ← Bool.not_eq_true, isMark_iff_toNat, code]
    omega

/-- In lower case a mark stays as it is, and nothing else becomes one. -/
theorem exists_lowerFrom_cons (before : List Char) (c : Char) (rest : List Char) :
    ∃ low, lowerFrom before (c :: rest) = low ++ lowerFrom (c :: before) rest ∧ low ≠ [] ∧
      (isMark c = true ∧ low = [c] ∨ isMark c = false ∧ ∀ d ∈ low, isMark d = false) := by
  rw [lowerFrom]
  refine ⟨_, rfl, by split_ifs <;> simp, ?_⟩
  cases mark : isMark c with
  | true =>
    refine .inl ⟨rfl, ?_⟩
    simp only [isMark, Bool.or_eq_true, beq_iff_eq] at mark
    rcases mark with (rfl | rfl) | rfl
    · rfl
    · have same : lowerChar curlyApostrophe = curlyApostrophe := by decide +kernel
      rw [if_neg (by decide), if_neg (by decide), if_neg (by decide), same]
    · rfl
  | false =>
    refine .inr ⟨rfl, fun d member => ?_⟩
    split at member
    next ascii =>
      have code := toNat_toLower ascii
      rw [List.mem_singleton.mp member, ← Bool.not_eq_true, isMark_iff_toNat, code]
      rw [← Bool.not_eq_true, isMark_iff_toNat] at mark
      split_ifs <;> omega
    next =>
      split at member
      next =>
        rcases List.mem_pair.mp member with rfl | rfl <;> decide +kernel
      next undotted =>
        split at member
        next =>
          have both (final : Bool) :
              isMark (Char.ofNat (if final then 0x3C2 else 0x3C3)) = false := by
            cases final <;> decide +kernel
          exact List.mem_singleton.mp member ▸ both _
        next =>
          exact List.mem_singleton.mp member ▸ isMark_lowerChar (by omega) undotted mark

theorem lowerFrom_eq_nil_iff {before : List Char} : lowerFrom before text = [] ↔ text = [] := by
  cases text with
  | nil => exact iff_of_true rfl rfl
  | cons c rest =>
    obtain ⟨low, parts, some, -⟩ := exists_lowerFrom_cons before c rest
    simp [parts, some]

theorem mem_lowerFrom_iff {before : List Char} {mark : Char} (isMark : isMark mark = true) :
    mark ∈ lowerFrom before text ↔ mark ∈ text := by
  induction text generalizing before with
  | nil => rfl
  | cons c rest ih =>
    obtain ⟨low, parts, -, ⟨-, rfl⟩ | ⟨other, others⟩⟩ := exists_lowerFrom_cons before c rest
    · simp [parts, ih]
    · have apart : mark ∉ low := fun member => by simp [others mark member] at isMark
      have differs : mark ≠ c := fun same => by simp [← same, isMark] at other
      simp [parts, ih, apart, differs]

/-- A text has an apostrophe or a hyphen at an end if it has one there in lower case. -/
theorem isBare_lowerFrom_iff {before : List Char} :
    IsBare (lowerFrom before text) ↔ IsBare text := by
  have first : (∀ c ∈ (lowerFrom before text).head?, isMark c = false) ↔
      ∀ c ∈ text.head?, isMark c = false := by
    cases text with
    | nil => rfl
    | cons c rest =>
      obtain ⟨low, parts, some, known⟩ := exists_lowerFrom_cons before c rest
      obtain ⟨d, more, rfl⟩ := List.exists_cons_of_ne_nil some
      rw [parts]
      rcases known with ⟨-, same⟩ | ⟨other, others⟩
      · simp [(List.cons.inj same).1]
      · simp [other, others]
  have last : (∀ c ∈ (lowerFrom before text).getLast?, isMark c = false) ↔
      ∀ c ∈ text.getLast?, isMark c = false := by
    clear first
    induction text generalizing before with
    | nil => rfl
    | cons c rest ih =>
      obtain ⟨low, parts, some, known⟩ := exists_lowerFrom_cons before c rest
      rw [parts]
      by_cases ends : rest = []
      · subst ends
        rcases known with ⟨-, rfl⟩ | ⟨other, others⟩
        · rfl
        · rw [lowerFrom, List.append_nil]
          exact iff_of_true (fun d final => others d (List.mem_of_getLast? final)) (by simp [other])
      · have later : lowerFrom (c :: before) rest ≠ [] := fun none =>
          ends (lowerFrom_eq_nil_iff.mp none)
        rw [List.getLast?_append_of_ne_nil _ later, ih, ← List.singleton_append,
          List.getLast?_append_of_ne_nil _ ends]
  rw [IsBare, IsBare, first, last]

theorem isBare_lower_iff : IsBare (lower text) ↔ IsBare text :=
  isBare_lowerFrom_iff

theorem mem_lower_iff {mark : Char} (isMark : isMark mark = true) :
    mark ∈ lower text ↔ mark ∈ text :=
  mem_lowerFrom_iff isMark

end Spelling

namespace SpellingChecker

open Spelling Text

variable (checker : SpellingChecker)

/-! ### What is reported -/

/-- Of words that differ in case only, the first one. -/
def firsts : List String → List String
  | [] => []
  | word :: rest => word :: (firsts rest).filter fun later => lowered later != lowered word

/-- The words of a text that an issue is about. -/
def reported (text : String) : List String :=
  (firsts (checker.words text)).filter fun word => !checker.isKnown (lowered word)

theorem firsts_sublist (words : List String) : (firsts words).Sublist words := by
  induction words with
  | nil => exact List.Sublist.slnil
  | cons word rest ih => exact (List.filter_sublist.trans ih).cons_cons word

theorem exists_mem_firsts {words : List String} {word : String} (member : word ∈ words) :
    ∃ first ∈ firsts words, lowered first = lowered word := by
  induction words with
  | nil => cases member
  | cons head rest ih =>
    rcases List.mem_cons.mp member with rfl | later
    · exact ⟨word, List.mem_cons_self, rfl⟩
    · obtain ⟨first, found, same⟩ := ih later
      by_cases headed : lowered first = lowered head
      · exact ⟨head, List.mem_cons_self, headed.symm.trans same⟩
      · refine ⟨first, List.mem_cons_of_mem head (List.mem_filter.mpr ⟨found, ?_⟩), same⟩
        simpa using headed

theorem issuesFrom_eq (seen words : List String) :
    checker.issuesFrom seen words =
      ((firsts words).filter fun word =>
        !(seen.contains (lowered word) || checker.isKnown (lowered word))).map
          fun word => checker.issue word (lowered word) := by
  induction words generalizing seen with
  | nil => rfl
  | cons word rest ih =>
    rw [issuesFrom, firsts]
    cases passed : seen.contains (lowered word) || checker.isKnown (lowered word) with
    | true =>
      rw [if_pos rfl, List.filter_cons_of_neg (by simp only [passed]; decide), List.filter_filter,
        ih]
      congr 1
      apply List.filter_congr
      intro later _
      -- what is passed over once is passed over in every spelling
      by_cases same : lowered later = lowered word
      · simp only [same, passed, Bool.not_true, Bool.false_and]
      · simp [same]
    | false =>
      rw [if_neg Bool.false_ne_true, List.filter_cons_of_pos (by simp only [passed]; decide),
        List.filter_filter, List.map_cons, ih]
      congr 2
      apply List.filter_congr
      intro later _
      by_cases same : lowered later = lowered word <;> simp [same]

theorem check_eq (text : String) :
    checker.check text =
      (checker.reported text).map fun word => checker.issue word (lowered word) := by
  simp [check, issuesFrom_eq, reported]

theorem check_eq_nil_iff (text : String) : checker.check text = [] ↔
    ∀ word ∈ checker.words text, checker.isKnown (lowered word) = true := by
  rw [check_eq, List.map_eq_nil_iff, reported, List.filter_eq_nil_iff]
  constructor
  · intro none word member
    obtain ⟨first, found, same⟩ := exists_mem_firsts member
    simpa [same] using none first found
  · intro known word member
    simp [known word ((firsts_sublist _).subset member)]

/-! ### Exceptions -/

/-- The lexicon of a language, or that of English where there is none for it. -/
def lexiconFor? (dictionaries : Dictionaries) (language : String) : Option Lexicon :=
  (lexicon? dictionaries language).or (lexicon? dictionaries fallback)

/-- A checker that also accepts some words. -/
def accepting (lexicon : Lexicon) (allow : List String) (maxAcronym : Int) : SpellingChecker :=
  { lexicon := lexicon.load (allow.map lowered).eraseDups
    allow := (allow.map lowered).eraseDups
    maxAcronym := maxAcronym }

variable {checker} {dictionaries : Dictionaries} {language : String} {allow : List String}
  {maxAcronym : Int}

theorem ofLanguage_eq_ok_iff :
    (ofLanguage dictionaries language allow maxAcronym).value = .ok checker ↔
      ∃ lexicon, lexiconFor? dictionaries language = some lexicon ∧
        checker = accepting lexicon allow maxAcronym := by
  rw [ofLanguage, lexiconFor?]
  cases lexicon? dictionaries language with
  | some lexicon => simp [accepting, eq_comm]
  | none => cases lexicon? dictionaries fallback <;> simp [accepting, eq_comm]

theorem isKnown_of_mem_allow {key : String} (listed : key ∈ checker.allow) :
    checker.isKnown key = true := by
  simp [isKnown, listed]

/-- A text that is one bare token without hyphens has no word but itself. -/
theorem eq_of_mem_words {text word : String} (chars : ∀ c ∈ text.toList, isTokenChar c = true)
    (isBare : IsBare text.toList) (whole : '-' ∉ text.toList) (member : word ∈ checker.words text) :
    word = text := by
  rw [words, words_of_unhyphenated chars whole, bare_eq_self_iff.mpr isBare] at member
  split at member
  next => simpa using member
  next => simp at member

/-- No word of any text is reported whose lower case form is that of an exception. So an exception
that is one word is accepted in every spelling made of word characters and apostrophes; other
spellings, those of an exception with a hyphen or with an apostrophe at an end among them, are
accepted if each of their words is known by itself. -/
theorem check_of_mem_allow
    (built : (ofLanguage dictionaries language allow maxAcronym).value = .ok checker)
    {entry : String} (listed : entry ∈ allow) :
    (∀ text, checker.check text =
        (checker.reported text).map (fun word => checker.issue word (lowered word)) ∧
      ∀ word ∈ checker.reported text, lowered word ≠ lowered entry) ∧
    ∀ spelled, lowered spelled = lowered entry →
      ((∀ c ∈ spelled.toList, isTokenChar c = true) → IsBare entry.toList → '-' ∉ entry.toList →
        checker.check spelled = []) ∧
      (checker.check spelled = [] ↔
        ∀ word ∈ checker.words spelled, checker.isKnown (lowered word) = true) := by
  obtain ⟨lexicon, -, rfl⟩ := ofLanguage_eq_ok_iff.mp built
  have known : (accepting lexicon allow maxAcronym).isKnown (lowered entry) = true :=
    isKnown_of_mem_allow (List.mem_eraseDups.mpr (List.mem_map_of_mem listed))
  refine ⟨fun text => ⟨check_eq _ text, fun word member same => ?_⟩, fun spelled same =>
    ⟨fun chars isBare whole => ?_, check_eq_nil_iff _ spelled⟩⟩
  · have unknown := (List.mem_filter.mp member).2
    rw [same, known] at unknown
    cases unknown
  · -- the spelling is one token too, since lower case keeps apostrophes and hyphens
    have alike : lower spelled.toList = lower entry.toList := String.ofList_injective same
    have spelledBare : IsBare spelled.toList := by
      rwa [← isBare_lower_iff, alike, isBare_lower_iff]
    have spelledWhole : '-' ∉ spelled.toList := by
      rwa [← mem_lower_iff (by decide), alike, mem_lower_iff (by decide)]
    refine (check_eq_nil_iff _ spelled).mpr fun word member => ?_
    rw [eq_of_mem_words chars spelledBare spelledWhole member, same, known]

/-- A possessive that no dictionary has, spelled in capitals and too long for an acronym. -/
theorem check_of_mem_allow_possessive :
    let allow := ["tsx-lint", "Müller’s"]
    let checker := accepting (Lexicon.ofCounts [("hello", 1)]) allow 5
    (ofLanguage [("en", [("hello", 1)])] "en" allow 5).value = .ok checker ∧
      checker.words "MÜLLER’S" = ["MÜLLER’S"] ∧ lowered "MÜLLER’S" = lowered "Müller’s" ∧
      checker.check "MÜLLER’S" = [] := by
  intro allow checker
  have found : lexiconFor? [("en", [("hello", 1)])] "en" =
      some (Lexicon.ofCounts [("hello", 1)]) := by decide +kernel
  have built : (ofLanguage [("en", [("hello", 1)])] "en" allow 5).value = .ok checker :=
    ofLanguage_eq_ok_iff.mpr ⟨_, found, rfl⟩
  have same : lowered "MÜLLER’S" = lowered "Müller’s" := by decide +kernel
  have listed : "Müller’s" ∈ allow := by decide
  obtain ⟨-, spellings⟩ := check_of_mem_allow built listed
  obtain ⟨accepted, -⟩ := spellings "MÜLLER’S" same
  have chars : ∀ c ∈ "MÜLLER’S".toList, isTokenChar c = true :=
    List.all_eq_true.mp (by decide +kernel)
  exact ⟨built, by decide +kernel, same, accepted chars (by decide +kernel) (by decide +kernel)⟩

/-- Exceptions that are not accepted: one is taken for two words, one loses its apostrophe before
it is looked up, and one has a spelling in which a combining dot splits it. -/
theorem reported_of_exceptions :
    let allow := ["Wi-Fi", "'tis", "İz"]
    let checker := accepting (Lexicon.ofCounts [("hello", 1)]) allow 5
    (ofLanguage [("en", [("hello", 1)])] "en" allow 5).value = .ok checker ∧
      checker.reported "wi-fi" = ["wi", "fi"] ∧ checker.reported "'Tis" = ["Tis"] ∧
      checker.reported (lowered "İz") = ["i", "z"] := by
  intro allow checker
  have found : lexiconFor? [("en", [("hello", 1)])] "en" =
      some (Lexicon.ofCounts [("hello", 1)]) := by decide +kernel
  exact ⟨ofLanguage_eq_ok_iff.mpr ⟨_, found, rfl⟩, by decide +kernel, by decide +kernel,
    by decide +kernel⟩

end SpellingChecker

end MarkupLint
