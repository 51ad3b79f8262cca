import MarkupLint.Proofs.Entities
import MarkupLint.Proofs.Leftmost
import MarkupLint.Proofs.LowerCase
import MarkupLint.Proofs.ProseIssues

/-!
Words that stand twice in a row. The rule takes the longest run of letters and the longest run of
white space behind it; no letter is white space and no white space is a letter in another case, so
these are the only runs that can be meant (`Prose.repeatedWord?_eq_some_iff`). Main statement: the
rule reports the places where a word is repeated, from the leftmost on and without overlaps
(`Prose.repeatedWord_leftmost`).
-/
namespace MarkupLint

namespace Text

variable {c d : Char}

/-! ### White space in any case -/

/-- White space beyond ASCII. -/
def wideBlanks : List Nat :=
  [0x85, 0xA0, 0x1680, 0x2000, 0x2001, 0x2002, 0x2003, 0x2004, 0x2005, 0x2006, 0x2007, 0x2008,
   0x2009, 0x200A, 0x2028, 0x2029, 0x202F, 0x205F, 0x3000]

theorem findSome?_wideBlanks : ∀ n ∈ wideBlanks, 128 ≤ n ∧ n ≠ 0x130 ∧
    lowerRuns.findSome? (·.image? n) = none := by
  decide +kernel

theorem lowerChar_of_isBlank (blank : isBlank c = true) : lowerChar c = c := by
  have code : c.toNat < 65 ∨ c.toNat ∈ wideBlanks := by
    simp only [isBlank, Bool.or_eq_true, Bool.and_eq_true, decide_eq_true_eq, beq_iff_eq] at blank
    simp only [wideBlanks, List.mem_cons, List.not_mem_nil, or_false]
    omega
  rw [lowerChar]
  rcases code with ascii | wide
  · have within : c.toNat < 128 := by omega
    rw [if_pos within, ← Char.toNat_inj, toNat_toLower within, if_neg (by omega)]
  · obtain ⟨beyond, undotted, outside⟩ := findSome?_wideBlanks c.toNat wide
    rw [if_neg (by omega), if_neg undotted, outside]
    rfl

end Text

namespace Prose

open Text

variable {c d : Char} {before : Option Char} {text word gap again back : List Char}

theorem toNat_of_isWordLetter (letter : isWordLetter c = true) :
    65 ≤ c.toNat ∧ c.toNat ≤ 90 ∨ 97 ≤ c.toNat ∧ c.toNat ≤ 122 ∨
      c.toNat ∈ [0x130, 0x131, 0x17F, 0x212A] := by
  rw [isWordLetter, Bool.or_eq_true, List.contains_iff_mem] at letter
  rcases letter with ascii | other
  · have range : 97 ≤ c.toNat ∧ c.toNat ≤ 122 ∨ 65 ≤ c.toNat ∧ c.toNat ≤ 90 := by
      simpa [isAsciiLetter, Char.le_def, UInt32.le_iff_toNat_le, Char.toNat_val] using ascii
    omega
  · exact .inr (.inr other)

theorem isBlank_eq_false_of_range (low : 65 ≤ c.toNat) (high : c.toNat ≤ 122) :
    isBlank c = false := by
  rw [isBlank, Bool.eq_false_iff]
  simp only [ne_eq, Bool.or_eq_true, Bool.and_eq_true, decide_eq_true_eq, beq_iff_eq]
  omega

/-- No letter is white space, nor becomes white space in lower case. -/
theorem isBlank_of_isWordLetter (letter : isWordLetter c = true) :
    isBlank c = false ∧ isBlank (lowerChar c) = false := by
  have ascii (low : 65 ≤ c.toNat) (high : c.toNat ≤ 122)
      (letter : c.toNat ≤ 90 ∨ 97 ≤ c.toNat) :
      isBlank c = false ∧ isBlank (lowerChar c) = false := by
    have within : c.toNat < 128 := by omega
    have code := toNat_toLower within
    refine ⟨isBlank_eq_false_of_range low high, ?_⟩
    rw [lowerChar, if_pos within]
    apply isBlank_eq_false_of_range <;> split at code <;> omega
  have others : ∀ n ∈ [0x130, 0x131, 0x17F, 0x212A],
      isBlank (Char.ofNat n) = false ∧ isBlank (lowerChar (Char.ofNat n)) = false := by
    decide +kernel
  rcases toNat_of_isWordLetter letter with ⟨low, high⟩ | ⟨low, high⟩ | other
  · exact ascii low (by omega) (.inl high)
  · exact ascii (by omega) high (.inr low)
  · simpa using others c.toNat other

theorem isWordLetter_of_isBlank (blank : isBlank c = true) : isWordLetter c = false := by
  rw [← Bool.not_eq_true]
  intro letter
  rw [(isBlank_of_isWordLetter letter).1] at blank
  cases blank

/-- What equals a letter apart from case is not white space. -/
theorem isBlank_of_lowerChar_eq (letter : isWordLetter c = true)
    (same : lowerChar d = lowerChar c) : isBlank d = false := by
  rw [← Bool.not_eq_true]
  intro blank
  rw [← lowerChar_of_isBlank blank, same, (isBlank_of_isWordLetter letter).2] at blank
  cases blank

theorem sameIgnoringCase_iff {left right : List Char} :
    sameIgnoringCase left right = true ↔ left.map lowerChar = right.map lowerChar :=
  beq_iff_eq

theorem length_eq_of_sameIgnoringCase {left right : List Char}
    (same : sameIgnoringCase left right = true) : left.length = right.length := by
  have sizes := congrArg List.length (sameIgnoringCase_iff.mp same)
  rwa [List.length_map, List.length_map] at sizes

/-! ### A word twice in a row -/

/-- Letters, white space, and the same letters again in some case, with no word character before
or behind. -/
structure IsRepeat (before : Option Char) (word gap again : List Char) (behind : Option Char) :
    Prop where
  letters : ∀ c ∈ word, isWordLetter c = true
  blanks : ∀ c ∈ gap, isBlank c = true
  same : sameIgnoringCase again word = true
  apartBefore : ∀ c ∈ before, isWord c = false
  apartBehind : ∀ c ∈ behind, isWord c = false

theorem any_eq_false_iff {side : Option Char} :
    side.any isWord = false ↔ ∀ c ∈ side, isWord c = false := by
  cases side <;> simp

theorem repeatedWord?_eq_some_iff {found : String} {reach : Nat} :
    repeatedWord? before text = some (found, reach) ↔ ∃ word gap again back,
      text = word ++ (gap ++ (again ++ back)) ∧ word ≠ [] ∧ gap ≠ [] ∧
        IsRepeat before word gap again back.head? ∧ found = String.ofList word ∧
          reach + 1 = word.length + gap.length + again.length := by
  constructor
  · intro seen
    rw [repeatedWord?] at seen
    split at seen
    next all =>
      simp only [Bool.and_eq_true, Bool.not_eq_true', List.isEmpty_eq_false_iff] at all
      obtain ⟨⟨⟨⟨someLetter, someBlank⟩, apartBefore⟩, same⟩, apartBehind⟩ := all
      have sizes := length_eq_of_sameIgnoringCase same
      have positive := List.length_pos_iff.mpr someLetter
      obtain ⟨rfl, rfl⟩ := Prod.mk.inj (Option.some.inj seen)
      refine ⟨_, _, _, _, ?_, someLetter, someBlank,
        ⟨fun c => List.mem_takeWhile_imp, fun c => List.mem_takeWhile_imp, same,
          any_eq_false_iff.mp apartBefore, any_eq_false_iff.mp apartBehind⟩, rfl, ?_⟩
      · rw [List.take_append_drop, ← List.drop_drop, takeWhile_append_drop, takeWhile_append_drop]
      · rw [sizes]
        omega
    next => cases seen
  · rintro ⟨word, gap, again, back, rfl, someLetter, someBlank, isRepeat, rfl, size⟩
    have sizes := length_eq_of_sameIgnoringCase isRepeat.same
    have letters : (word ++ (gap ++ (again ++ back))).takeWhile isWordLetter = word := by
      apply takeWhile_append_of_stop isRepeat.letters
      obtain ⟨c, rest, rfl⟩ := List.exists_cons_of_ne_nil someBlank
      rintro d ⟨⟩
      exact isWordLetter_of_isBlank (isRepeat.blanks c List.mem_cons_self)
    have blanks : (gap ++ (again ++ back)).takeWhile isBlank = gap := by
      apply takeWhile_append_of_stop isRepeat.blanks
      obtain ⟨c, rest, rfl⟩ := List.exists_cons_of_ne_nil someLetter
      cases again with
      | nil => cases sizes
      | cons d others =>
        rintro e ⟨⟩
        have heads := sameIgnoringCase_iff.mp isRepeat.same
        exact isBlank_of_lowerChar_eq (isRepeat.letters c List.mem_cons_self)
          (List.cons.inj heads).1
    have behind : (word ++ (gap ++ (again ++ back))).drop (word.length + gap.length) =
        again ++ back := by
      rw [← List.drop_drop, List.drop_left, List.drop_left]
    have taken : (again ++ back).take word.length = again := by rw [← sizes, List.take_left]
    have left : (again ++ back).drop word.length = back := by rw [← sizes, List.drop_left]
    rw [repeatedWord?]
    simp only [letters, List.drop_left, blanks, behind, taken, left]
    rw [if_pos]
    · congr 2
      omega
    · simp [someLetter, someBlank, isRepeat.same, any_eq_false_iff.mpr isRepeat.apartBefore,
        any_eq_false_iff.mpr isRepeat.apartBehind]

/-! ### Places -/

/-- A word from place `i` to `j`, white space up to `k`, and the word again up to `l`. -/
structure RepeatsAt (text : List Char) (i j k l : Nat) : Prop extends
    IsRepeat (text.take i).getLast? (text.extract i j) (text.extract j k) (text.extract k l)
      text[l]? where
  word_lt : i < j
  gap_lt : j < k
  again_lt : k < l
  le_length : l ≤ text.length

/-- A word that is repeated from one place to another. -/
def RepeatedIn (text : List Char) (start stop : Nat) (word : String) : Prop :=
  ∃ j k, RepeatsAt text start j k stop ∧ word = String.ofList (text.extract start j)

theorem extract_append_drop {i j : Nat} (le : i ≤ j) (text : List Char) :
    text.extract i j ++ text.drop j = text.drop i := by
  have parts := List.take_append_drop (j - i) (text.drop i)
  rwa [List.drop_drop, Nat.add_sub_cancel' le] at parts

theorem matchAt_repeatedWord_iff {i l : Nat} {found : String} :
    MatchAt repeatedWord? text i l found ↔ RepeatedIn text i l found := by
  constructor
  · rintro ⟨within, reach, seen, rfl⟩
    obtain ⟨word, gap, again, back, parts, someLetter, someBlank, isRepeat, rfl, size⟩ :=
      repeatedWord?_eq_some_iff.mp seen
    obtain ⟨wordAt, behindWord⟩ := extract_of_drop parts
    obtain ⟨gapAt, behindGap⟩ := extract_of_drop behindWord
    obtain ⟨againAt, behindAgain⟩ := extract_of_drop behindGap
    have stop : i + reach + 1 = i + word.length + gap.length + again.length := by omega
    have sizes := congrArg List.length parts
    simp only [List.length_drop, List.length_append] at sizes
    have wordSize := List.length_pos_iff.mpr someLetter
    have gapSize := List.length_pos_iff.mpr someBlank
    have againSize := length_eq_of_sameIgnoringCase isRepeat.same
    rw [← behindAgain, List.head?_drop, ← stop] at isRepeat
    rw [← stop] at againAt
    refine ⟨i + word.length, i + word.length + gap.length, ⟨?_, by omega, by omega, by omega,
      by omega⟩, by rw [wordAt]⟩
    rwa [wordAt, gapAt, againAt]
  · rintro ⟨j, k, repeats, rfl⟩
    obtain ⟨isRepeat, wordLt, gapLt, againLt, inText⟩ := repeats
    have parts : text.drop i = text.extract i j ++
        (text.extract j k ++ (text.extract k l ++ text.drop l)) := by
      rw [extract_append_drop againLt.le, extract_append_drop gapLt.le,
        extract_append_drop wordLt.le]
    have size (start stop : Nat) (within : stop ≤ text.length) :
        (text.extract start stop).length = stop - start := by
      rw [List.extract_eq_take_drop, List.length_take, List.length_drop]
      omega
    have wordSize := size i j (by omega)
    have gapSize := size j k (by omega)
    have againSize := size k l inText
    refine ⟨by omega, l - i - 1, repeatedWord?_eq_some_iff.mpr ⟨_, _, _, _, parts, ?_, ?_, ?_, rfl,
      by omega⟩, by omega⟩
    · exact List.ne_nil_of_length_pos (by omega)
    · exact List.ne_nil_of_length_pos (by omega)
    · rwa [List.head?_drop]

/-- The words that the rule names are those that are repeated, found from left to right: each time
the leftmost repetition that starts where the last one ended, or later. There is one list of such
words only, and it is empty just if no word is repeated. A checker that has the rule reports them
in this order, and nothing else under its name. Case is ignored letter by letter: two words are the
same if their letters have the same lower case forms. -/
theorem repeatedWord_leftmost (config : Value) (text : String) :
    (Rule.repeatedWord.issues text ≠ [] ↔ ∃ i j k l, RepeatsAt text.toList i j k l) ∧
      ∃ words : List String,
        (∀ others, LeftmostFrom (RepeatedIn text.toList) 0 others ↔ others = words) ∧
        Rule.repeatedWord.issues text = words.map (fun word =>
          ⟨"Repeated word \"" ++ word ++ "\"", ruleId Rule.repeatedWord.name⟩) ∧
        (ProseChecker.ofConfig config).issuesUnder Rule.repeatedWord.name text =
          if Rule.repeatedWord ∈ (ProseChecker.ofConfig config).rules then
            Rule.repeatedWord.issues text
          else [] := by
  have places : MatchAt repeatedWord? text.toList = RepeatedIn text.toList := by
    funext start stop word
    exact propext matchAt_repeatedWord_iff
  have issues : Rule.repeatedWord.issues text =
      (scan repeatedWord? text.toList).map (fun word =>
        ⟨"Repeated word \"" ++ word ++ "\"", ruleId Rule.repeatedWord.name⟩) :=
    List.map_map
  have leftmost := leftmostFrom_matchAt_iff repeatedWord? text.toList
  rw [places] at leftmost
  refine ⟨?_, _, leftmost, issues, ProseChecker.issuesUnder_rule _
    (ProseChecker.nodup_rules_ofConfig config) Rule.repeatedWord text⟩
  rw [issues, ne_eq, List.map_eq_nil_iff, ← ne_eq, ((leftmost _).mpr rfl).ne_nil_iff]
  constructor
  · rintro ⟨i, -, l, word, j, k, repeats, -⟩
    exact ⟨i, j, k, l, repeats⟩
  · rintro ⟨i, j, k, l, repeats⟩
    exact ⟨i, Nat.zero_le i, l, _, j, k, repeats, rfl⟩

/-- Words beside apostrophes and hyphens are repeated too; the third of three in a row counts for
the next repetition only. -/
example : scan repeatedWord? "Re-re re, it's S the theory the THE the".toList =
    ["re", "s", "the"] := by
  decide

end Prose

end MarkupLint
