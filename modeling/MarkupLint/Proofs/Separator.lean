import Mathlib.Data.List.FinRange
import MarkupLint.Proofs.Exceptions

/-!
Texts on either side of a separator, a character that stands in no token. A token ends at the
latest where a separator stands (`Spelling.scanFrom_token_append`), so the words of such a text are
those of its two sides. Main statement: a word is reported, whatever its case, where it is spelled
first, and a separator changes nothing about which words are reported
(`SpellingChecker.check_separated`).
-/
namespace MarkupLint

namespace Spelling

open Text

variable {c : Char} {front rest : List Char} {maxAcronym : Int}

/-- A token does not depend on what stands before it. -/
theorem scanFrom_token_before (before other : Option Char) (covered : Nat) (text : List Char) :
    scanFrom token? before covered text = scanFrom token? other covered text := by
  induction text generalizing before other covered with
  | nil => rw [scanFrom, scanFrom]
  | cons c rest ih =>
    cases covered with
    | succ covered => rfl
    | zero => rw [scanFrom, scanFrom, token?, token?]

/-- The run of a token stays on its side of the separator. -/
theorem takeWhile_isTokenChar_append (separates : isTokenChar c = false) (front rest : List Char) :
    (front ++ c :: rest).takeWhile isTokenChar = front.takeWhile isTokenChar := by
  induction front with
  | nil => rw [List.nil_append, List.takeWhile_cons_of_neg (by simp [separates]), List.takeWhile_nil]
  | cons d front ih => rw [List.cons_append, List.takeWhile_cons, List.takeWhile_cons, ih]

theorem scanFrom_token_append (separates : isTokenChar c = false) (before : Option Char)
    {covered : Nat} (within : covered ≤ front.length) (rest : List Char) :
    scanFrom token? before covered (front ++ c :: rest) =
      scanFrom token? before covered front ++ scan token? rest := by
  induction front generalizing before covered with
  | nil =>
    obtain rfl : covered = 0 := Nat.le_zero.mp within
    rw [List.nil_append, scanFrom, scanFrom, token?, if_neg (by simp [separates])]
    exact scanFrom_token_before (some c) none 0 rest
  | cons d front ih =>
    cases covered with
    | succ covered => exact ih (some d) (Nat.le_of_succ_le_succ within)
    | zero =>
      rw [List.cons_append, scanFrom, scanFrom, token?, token?,
        takeWhile_isTokenChar_append separates]
      by_cases starts : isTokenChar d = true
      · rw [if_pos starts]
        exact congrArg _ (ih (some d) (List.takeWhile_sublist _).length_le)
      · rw [if_neg starts]
        exact ih (some d) (Nat.zero_le _)

theorem words_append (separates : isTokenChar c = false) (front rest : List Char) :
    words maxAcronym (front ++ c :: rest) = words maxAcronym front ++ words maxAcronym rest := by
  have tokens : scan token? (front ++ c :: rest) = scan token? front ++ scan token? rest :=
    scanFrom_token_append separates none (Nat.zero_le _) rest
  rw [words, tokens, List.map_append, List.filter_append, List.flatMap_append]
  rfl

end Spelling

namespace SpellingChecker

open Spelling Text

variable (checker : SpellingChecker)

/-! ### First spellings -/

/-- A word of a list that no earlier one equals apart from case. -/
def IsFirst (words : List String) (place : Fin words.length) : Prop :=
  ∀ earlier < place, lowered words[earlier] ≠ lowered words[place]

instance (words : List String) (place : Fin words.length) : Decidable (IsFirst words place) :=
  inferInstanceAs (Decidable (∀ earlier < place, _))

theorem isFirst_succ_iff {word : String} {rest : List String} (place : Fin rest.length) :
    IsFirst (word :: rest) place.succ ↔
      lowered rest[place] ≠ lowered word ∧ IsFirst rest place := by
  simp only [IsFirst, List.length_cons, Fin.forall_fin_succ]
  simp [Fin.succ_pos, ne_comm]

/-- First spellings, told by their places. -/
theorem firsts_eq (words : List String) :
    firsts words =
      ((List.finRange words.length).filter fun place => IsFirst words place).map
        fun place => words[place] := by
  induction words with
  | nil => rfl
  | cons word rest ih =>
    have places : List.finRange (word :: rest).length =
        (0 : Fin (rest.length + 1)) :: (List.finRange rest.length).map Fin.succ :=
      List.finRange_succ
    have atStart : IsFirst (word :: rest) (0 : Fin (rest.length + 1)) :=
      fun earlier before => absurd before (Fin.not_lt_zero _)
    rw [firsts, ih, places, List.filter_cons, if_pos (decide_eq_true atStart), List.filter_map,
      List.map_cons, List.filter_map, List.map_map, List.filter_filter]
    congr 2
    apply List.filter_congr
    intro place _
    rw [Bool.eq_iff_iff]
    simp [isFirst_succ_iff]

theorem nodup_firsts (words : List String) : ((firsts words).map lowered).Nodup := by
  induction words with
  | nil => exact List.nodup_nil
  | cons word rest ih =>
    rw [firsts, List.map_cons, List.nodup_cons]
    refine ⟨fun member => ?_, (List.filter_sublist.map lowered).nodup ih⟩
    obtain ⟨later, kept, same⟩ := List.mem_map.mp member
    simp [same] at kept

/-- A word is reported, in one spelling or another, if it is not known. -/
theorem mem_map_reported_iff {text key : String} :
    key ∈ (checker.reported text).map lowered ↔
      key ∈ (checker.words text).map lowered ∧ checker.isKnown key = false := by
  simp only [List.mem_map, reported, List.mem_filter, Bool.not_eq_true']
  constructor
  · rintro ⟨word, ⟨first, unknown⟩, rfl⟩
    exact ⟨⟨word, (firsts_sublist _).subset first, rfl⟩, unknown⟩
  · rintro ⟨⟨word, member, rfl⟩, unknown⟩
    obtain ⟨first, found, same⟩ := exists_mem_firsts member
    exact ⟨first, ⟨found, same.symm ▸ unknown⟩, same⟩

theorem reported_eq (text : String) :
    checker.reported text =
      ((List.finRange (checker.words text).length).filter fun place =>
        IsFirst (checker.words text) place ∧
          checker.isKnown (lowered (checker.words text)[place]) = false).map
            fun place => (checker.words text)[place] := by
  rw [reported, firsts_eq, List.filter_map, List.filter_filter]
  congr 1
  apply List.filter_congr
  intro place _
  rw [Bool.eq_iff_iff]
  simp [and_comm]

/-- The message of an issue quotes the word as it is spelled. -/
theorem exists_message_issue (word key : String) :
    ∃ hint, (checker.issue word key).message = "\"" ++ word ++ "\" is misspelled" ++ hint := by
  rw [issue]
  dsimp only
  split
  next guess found =>
    split_ifs
    · exact ⟨"", by rw [String.append_empty]⟩
    · exact ⟨_, by rw [String.append_assoc, String.append_assoc]⟩
  next => exact ⟨"", by rw [String.append_empty]⟩

/-! ### Texts with a separator in them -/

theorem words_separated {c : Char} (separates : isTokenChar c = false) (front back : String) :
    checker.words (front ++ String.singleton c ++ back) =
      checker.words front ++ checker.words back := by
  have parts : (front ++ String.singleton c ++ back).toList =
      front.toList ++ c :: back.toList := by simp
  rw [words, parts, words_append separates, List.map_append]
  rfl

/-- A separator, which is no word character, no apostrophe and no hyphen, keeps the words of its
two sides apart. In every text there is one issue for each word that is not known, whatever its
case: at the place where the word comes first, with the spelling it has there, and in the order of
these places. So a word is reported in a text with a separator if it is on one side or the other. -/
theorem check_separated {c : Char} (notWord : isWord c = false) (notMark : isMark c = false)
    (front back : String) :
    checker.words (front ++ String.singleton c ++ back) =
        checker.words front ++ checker.words back ∧
      (∀ text, checker.check text =
          (checker.reported text).map (fun word => checker.issue word (lowered word)) ∧
        checker.reported text =
          ((List.finRange (checker.words text).length).filter fun place =>
            IsFirst (checker.words text) place ∧
              checker.isKnown (lowered (checker.words text)[place]) = false).map
                (fun place => (checker.words text)[place]) ∧
        ((checker.reported text).map lowered).Nodup ∧
        ∀ key, key ∈ (checker.reported text).map lowered ↔
          key ∈ (checker.words text).map lowered ∧ checker.isKnown key = false) ∧
      (∀ word key, ∃ hint,
        (checker.issue word key).message = "\"" ++ word ++ "\" is misspelled" ++ hint) ∧
      ∀ key, key ∈ (checker.reported (front ++ String.singleton c ++ back)).map lowered ↔
        key ∈ (checker.reported front).map lowered ∨
          key ∈ (checker.reported back).map lowered := by
  have separates : isTokenChar c = false := by
    simp only [isMark, Bool.or_eq_false_iff] at notMark
    simp [isTokenChar, notWord, notMark]
  have apart := checker.words_separated separates front back
  refine ⟨apart, fun text => ⟨checker.check_eq text, checker.reported_eq text, ?_,
    fun key => checker.mem_map_reported_iff⟩, checker.exists_message_issue, fun key => ?_⟩
  · exact (List.filter_sublist.map lowered).nodup (nodup_firsts (checker.words text))
  · rw [mem_map_reported_iff, mem_map_reported_iff, mem_map_reported_iff, apart, List.map_append,
      List.mem_append, or_and_right]

/-- A misspelled word on both sides of a line end, in two spellings. -/
theorem check_separated_line_end :
    let checker : SpellingChecker := { lexicon := Lexicon.ofCounts [("the", 2), ("end", 1)] }
    isWord '\n' = false ∧ isMark '\n' = false ∧
      checker.words ("Teh end" ++ String.singleton '\n' ++ "teh edn") =
        ["Teh", "end"] ++ ["teh", "edn"] ∧
      "teh" ∈ (checker.reported ("Teh end" ++ String.singleton '\n' ++ "teh edn")).map lowered := by
  intro checker
  have notWord : isWord '\n' = false := by decide
  have notMark : isMark '\n' = false := by decide
  obtain ⟨apart, -, -, joined⟩ := checker.check_separated notWord notMark "Teh end" "teh edn"
  refine ⟨notWord, notMark, apart.trans (by decide), (joined "teh").mpr (.inl ?_)⟩
  decide

end SpellingChecker

end MarkupLint
