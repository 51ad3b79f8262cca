import MarkupLint.Proofs.Exceptions

/-!
More words to accept. The exceptions of a checker are also loaded into its lexicon, where the
longest known word decides from which length on words are not looked up at all (`Lexicon.longest`).
Main statement: with more exceptions no more words are reported, apart from words that were too long
to be looked up before and are not much longer than one of the exceptions
(`SpellingChecker.mem_reported_of_more`).
-/
namespace MarkupLint

open Text

namespace Lexicon

variable {lexicon fewer : Lexicon} {key word : String}

/-! ### Known words -/

theorem any_addTo (word : String) (count : Int) (entries : List (String × Int)) (key : String) :
    (addTo word count entries).any (·.1 == key) = (word == key || entries.any (·.1 == key)) := by
  induction entries with
  | nil => rfl
  | cons entry rest ih =>
    rw [addTo]
    split
    next same => simp [← same]
    next => rw [List.any_cons, List.any_cons, ih, Bool.or_left_comm]

theorem has_add (lexicon : Lexicon) (word : String) (count : Int) (key : String) :
    (lexicon.add word count).has key = (lowered word == key || lexicon.has key) :=
  any_addTo (lowered word) count lexicon.words key

theorem has_load_iff (lexicon : Lexicon) (words : List String) (key : String) :
    (lexicon.load words).has key = true ↔
      (∃ word ∈ words, lowered word = key) ∨ lexicon.has key = true := by
  induction words generalizing lexicon with
  | nil => simp [load]
  | cons word rest ih =>
    have step : (lexicon.load (word :: rest)) = (lexicon.add word 1).load rest := rfl
    rw [step, ih, has_add]
    simp [or_assoc, or_left_comm]

theorem foldl_max_le_iff (sizes : List Nat) (start bound : Nat) :
    sizes.foldl max start ≤ bound ↔ start ≤ bound ∧ ∀ size ∈ sizes, size ≤ bound := by
  induction sizes generalizing start with
  | nil => simp
  | cons size rest ih =>
    rw [List.foldl_cons, ih, Nat.max_le, List.forall_mem_cons, and_assoc]

theorem longest_le_iff (lexicon : Lexicon) (bound : Nat) :
    lexicon.longest ≤ bound ↔ ∀ key, lexicon.has key = true → key.length ≤ bound := by
  rw [longest, foldl_max_le_iff]
  simp only [has, List.mem_map, List.any_eq_true, beq_iff_eq]
  constructor
  · rintro ⟨-, bounded⟩ key ⟨entry, member, rfl⟩
    exact bounded _ ⟨entry, member, rfl⟩
  · intro bounded
    refine ⟨Nat.zero_le _, ?_⟩
    rintro size ⟨entry, member, rfl⟩
    exact bounded _ ⟨entry, member, rfl⟩

theorem longest_load_le_iff (lexicon : Lexicon) (words : List String) (bound : Nat) :
    (lexicon.load words).longest ≤ bound ↔
      lexicon.longest ≤ bound ∧ ∀ word ∈ words, (lowered word).length ≤ bound := by
  simp only [longest_le_iff, has_load_iff]
  constructor
  · intro bounded
    exact ⟨fun key held => bounded key (.inr held),
      fun word member => bounded (lowered word) (.inl ⟨word, member, rfl⟩)⟩
  · rintro ⟨held, loaded⟩ key (⟨word, member, rfl⟩ | known)
    · exact loaded word member
    · exact held key known

/-! ### Looking words up -/

/-- A word that is unknown where more words are known is unknown where they are not, unless it is
too long there to be looked up. -/
theorem isUnknown_of_fewer (known : ∀ key, fewer.has key = true → lexicon.has key = true)
    (unknown : lexicon.isUnknown word = true) (short : word.length ≤ fewer.longest + 3) :
    fewer.isUnknown word = true := by
  rw [isUnknown, isWorthwhile, Bool.and_eq_true, Bool.and_eq_true, Bool.and_eq_true] at unknown ⊢
  obtain ⟨⟨⟨noMark, -⟩, noNumber⟩, notHeld⟩ := unknown
  refine ⟨⟨⟨noMark, decide_eq_true short⟩, noNumber⟩, ?_⟩
  rw [Bool.not_eq_true', ← Bool.not_eq_true] at notHeld ⊢
  exact fun held => notHeld (known _ held)

theorem length_le_of_isUnknown (unknown : lexicon.isUnknown word = true) :
    word.length ≤ lexicon.longest + 3 := by
  rw [isUnknown, isWorthwhile, Bool.and_eq_true, Bool.and_eq_true, Bool.and_eq_true] at unknown
  exact of_decide_eq_true unknown.1.1.2

end Lexicon

namespace SpellingChecker

open Spelling

variable {checker fewer : SpellingChecker} {key : String}

theorem length_stem?_le {word stem : List Char} (found : stem? word = some stem) :
    stem.length ≤ word.length := by
  rw [stem?] at found
  split_ifs at found
  all_goals
    rw [← Option.some.inj found]
    exact (List.takeWhile_sublist _).length_le

theorem isKnown_eq_false_iff : checker.isKnown key = false ↔
    key ∉ checker.allow ∧ checker.lexicon.isUnknown key = true ∧
      ∀ stem, stem? key.toList = some stem →
        stem ≠ [] → checker.lexicon.isUnknown (String.ofList stem) = true := by
  cases found : stem? key.toList with
  | none => simp [isKnown, found]
  | some stem => simp [isKnown, found, and_assoc]

/-- A key that is unknown to a checker with more exceptions is unknown to one with fewer, unless it
was too long there to be looked up. -/
theorem isKnown_of_fewer (allowed : ∀ key ∈ fewer.allow, key ∈ checker.allow)
    (known : ∀ key, fewer.lexicon.has key = true → checker.lexicon.has key = true)
    (unknown : checker.isKnown key = false) (short : key.length ≤ fewer.lexicon.longest + 3) :
    fewer.isKnown key = false := by
  rw [isKnown_eq_false_iff] at unknown ⊢
  obtain ⟨notAllowed, notHeld, stems⟩ := unknown
  refine ⟨fun listed => notAllowed (allowed key listed),
    Lexicon.isUnknown_of_fewer known notHeld short, fun stem found nonempty => ?_⟩
  apply Lexicon.isUnknown_of_fewer known (stems stem found nonempty)
  have within := length_stem?_le found
  rw [String.length_ofList]
  rw [String.length_toList] at within
  exact within.trans short

variable {dictionaries : Dictionaries} {language : String} {allow more : List String}
  {maxAcronym : Int}

/-- The longest word that a checker knows is one of the lexicon or an exception. -/
theorem longest_accepting_le_iff {lexicon : Lexicon} {bound : Nat} :
    (accepting lexicon allow maxAcronym).lexicon.longest ≤ bound ↔
      lexicon.longest ≤ bound ∧ ∀ entry ∈ allow, (lowered entry).length ≤ bound := by
  rw [accepting, Lexicon.longest_load_le_iff]
  simp [lowered_lowered]

/-- What takes the longest known word to a length is an exception of that length. -/
theorem exists_of_longest_lt {lexicon : Lexicon} {bound : Nat}
    (few : (accepting lexicon allow maxAcronym).lexicon.longest < bound)
    (many : bound ≤ (accepting lexicon more maxAcronym).lexicon.longest) :
    ∃ entry ∈ more, bound ≤ (lowered entry).length := by
  by_contra none
  push Not at none
  obtain ⟨held, -⟩ := longest_accepting_le_iff.mp (Nat.le_pred_of_lt few)
  have shorter : (accepting lexicon more maxAcronym).lexicon.longest ≤ bound - 1 :=
    longest_accepting_le_iff.mpr ⟨held, fun entry listed => Nat.le_pred_of_lt (none entry listed)⟩
  omega

/-- With more exceptions no more words of a text are reported, but for those that are longer by more
than three letters than every word known before, and not so much longer than one of the exceptions:
before, they were not looked up. -/
theorem mem_reported_of_more (subset : allow ⊆ more)
    (before : (ofLanguage dictionaries language allow maxAcronym).value = .ok fewer)
    (after : (ofLanguage dictionaries language more maxAcronym).value = .ok checker)
    (text : String) :
    fewer.check text =
        (fewer.reported text).map (fun word => fewer.issue word (lowered word)) ∧
      checker.check text =
        (checker.reported text).map (fun word => checker.issue word (lowered word)) ∧
      ∀ word ∈ checker.reported text, word ∈ fewer.reported text ∨
        fewer.lexicon.longest + 3 < (lowered word).length ∧
          ∃ entry ∈ more, (lowered word).length ≤ (lowered entry).length + 3 := by
  refine ⟨check_eq _ text, check_eq _ text, fun word member => ?_⟩
  obtain ⟨lexicon, found, rfl⟩ := ofLanguage_eq_ok_iff.mp before
  obtain ⟨same, again, rfl⟩ := ofLanguage_eq_ok_iff.mp after
  obtain rfl : lexicon = same := Option.some.inj (found.symm.trans again)
  have keys : ∀ key ∈ (accepting lexicon allow maxAcronym).allow,
      key ∈ (accepting lexicon more maxAcronym).allow := by
    simp only [accepting, List.mem_eraseDups]
    exact fun key listed => List.map_subset lowered subset listed
  have known : ∀ key, (accepting lexicon allow maxAcronym).lexicon.has key = true →
      (accepting lexicon more maxAcronym).lexicon.has key = true := by
    intro key held
    rw [accepting, Lexicon.has_load_iff] at held ⊢
    rcases held with ⟨entry, listed, same⟩ | held
    · exact .inl ⟨entry, keys entry listed, same⟩
    · exact .inr held
  obtain ⟨first, unknown⟩ := List.mem_filter.mp member
  rw [Bool.not_eq_true'] at unknown
  by_cases short : (lowered word).length ≤
      (accepting lexicon allow maxAcronym).lexicon.longest + 3
  · refine .inl (List.mem_filter.mpr ⟨first, ?_⟩)
    rw [Bool.not_eq_true']
    exact isKnown_of_fewer keys known unknown short
  · have within := Lexicon.length_le_of_isUnknown (isKnown_eq_false_iff.mp unknown).2.1
    have few : (accepting lexicon allow maxAcronym).lexicon.longest <
        (lowered word).length - 3 := by omega
    obtain ⟨entry, listed, long⟩ := exists_of_longest_lt few (Nat.sub_le_of_le_add within)
    exact .inr ⟨by omega, entry, listed, by omega⟩

/-- A misspelled word that stays one, beside a word that was too long to be looked up. -/
theorem mem_reported_of_more_misspelled :
    let fewer := accepting (Lexicon.ofCounts [("please", 1)]) ["Acme"] 5
    let checker := accepting (Lexicon.ofCounts [("please", 1)]) ["internationalization", "Acme"] 5
    (ofLanguage [("en", [("please", 1)])] "en" ["Acme"] 5).value = .ok fewer ∧
      (ofLanguage [("en", [("please", 1)])] "en" ["internationalization", "Acme"] 5).value =
        .ok checker ∧
      "Plase" ∈ checker.reported "Plase, Acme: reconfiguration" ∧
      "Plase" ∈ fewer.reported "Plase, Acme: reconfiguration" := by
  intro fewer checker
  have found : lexiconFor? [("en", [("please", 1)])] "en" =
      some (Lexicon.ofCounts [("please", 1)]) := by decide +kernel
  have before : (ofLanguage [("en", [("please", 1)])] "en" ["Acme"] 5).value = .ok fewer :=
    ofLanguage_eq_ok_iff.mpr ⟨_, found, rfl⟩
  have after : (ofLanguage [("en", [("please", 1)])] "en"
      ["internationalization", "Acme"] 5).value = .ok checker :=
    ofLanguage_eq_ok_iff.mpr ⟨_, found, rfl⟩
  have member : "Plase" ∈ checker.reported "Plase, Acme: reconfiguration" := by decide +kernel
  obtain ⟨-, -, reports⟩ := mem_reported_of_more (by decide) before after
    "Plase, Acme: reconfiguration"
  refine ⟨before, after, member, (reports "Plase" member).resolve_right fun long => ?_⟩
  exact absurd long.1 (by decide +kernel)

/-- One more exception makes a word be reported that was not before: it is now short enough to be
looked up. -/
theorem reported_of_longer_exception :
    let fewer := accepting (Lexicon.ofCounts [("please", 1)]) [] 5
    let checker := accepting (Lexicon.ofCounts [("please", 1)]) ["internationalization"] 5
    (ofLanguage [("en", [("please", 1)])] "en" [] 5).value = .ok fewer ∧
      (ofLanguage [("en", [("please", 1)])] "en" ["internationalization"] 5).value =
        .ok checker ∧
      fewer.reported "reconfiguration" = [] ∧
      checker.reported "reconfiguration" = ["reconfiguration"] := by
  intro fewer checker
  have found : lexiconFor? [("en", [("please", 1)])] "en" =
      some (Lexicon.ofCounts [("please", 1)]) := by decide +kernel
  exact ⟨ofLanguage_eq_ok_iff.mpr ⟨_, found, rfl⟩, ofLanguage_eq_ok_iff.mpr ⟨_, found, rfl⟩,
    by decide +kernel, by decide +kernel⟩

end SpellingChecker

end MarkupLint
