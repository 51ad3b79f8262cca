import Mathlib.Data.List.Sort
import MarkupLint.Proofs.Entities
import MarkupLint.Proofs.Leftmost
import MarkupLint.Proofs.ProseIssues

/-!
Punctuation marks in a row. The rule takes all of a mark that stands from a place on, so it starts
to look again where a run has ended: at a seam of the text, with different characters on its two
sides. From a seam on, the first place where a mark stands twice is where a maximal run starts
(`Prose.RunsOn.isRun_of_first`). Main statement: the rule reports the maximal runs of a mark, each
once and in their order (`Prose.repeatedPunctuation_runs`).
-/
namespace MarkupLint

namespace Prose

open Text

/-- The places of a text from one up to another, with the mark that stands there. -/
@[ext]
structure Run where
  start : Nat
  stop : Nat
  mark : Char
  deriving DecidableEq, Repr

namespace Run

/-- What a text holds at the places of a run. -/
def quote (text : List Char) (run : Run) : String :=
  String.ofList (text.extract run.start run.stop)

def Precedes (run next : Run) : Prop := run.start < next.start

instance : Std.Irrefl Precedes := ⟨fun run => Nat.lt_irrefl run.start⟩

instance : Std.Antisymm Precedes := ⟨fun _ _ before after => absurd before (Nat.lt_asymm after)⟩

end Run

/-- One punctuation mark stands at all places of a run, two at least, and not at the next one. -/
structure RunsOn (text : List Char) (run : Run) : Prop where
  mark_mem : run.mark ∈ ['!', '?', ',', ';']
  twice : run.start + 2 ≤ run.stop
  same : ∀ place, run.start ≤ place → place < run.stop → text[place]? = some run.mark
  apartBehind : text[run.stop]? ≠ some run.mark

/-- A run that cannot be made longer on either side. -/
structure IsRun (text : List Char) (run : Run) : Prop extends RunsOn text run where
  apartBefore : ∀ place, place + 1 = run.start → text[place]? ≠ some run.mark

/-- The characters on the two sides of a place differ, if there are any. -/
def IsSeam (text : List Char) (place : Nat) : Prop :=
  ∀ before, before + 1 = place → text[before]? ≠ text[place]?

theorem isSeam_zero (text : List Char) : IsSeam text 0 :=
  fun _ next => absurd next (Nat.succ_ne_zero _)

/-! ### One run -/

variable {text : List Char} {run next : Run} {place : Nat}

namespace RunsOn

theorem at_start (runsOn : RunsOn text run) : text[run.start]? = some run.mark := by
  have twice := runsOn.twice
  exact runsOn.same run.start (Nat.le_refl _) (by omega)

/-- Where a run has ended, no other one can go on. -/
theorem isSeam_stop (runsOn : RunsOn text run) : IsSeam text run.stop := by
  intro last atEnd
  have twice := runsOn.twice
  rw [runsOn.same last (by omega) (by omega)]
  exact runsOn.apartBehind.symm

theorem mark_eq_of_start (runsOn : RunsOn text run) (other : RunsOn text next)
    (sameStart : run.start = next.start) : run.mark = next.mark := by
  have here := runsOn.at_start
  rw [sameStart, other.at_start] at here
  exact (Option.some.inj here).symm

theorem stop_le_stop (runsOn : RunsOn text run) (other : RunsOn text next)
    (sameStart : run.start = next.start) : run.stop ≤ next.stop := by
  by_contra longer
  have twice := other.twice
  have inside := runsOn.same next.stop (by omega) (by omega)
  rw [runsOn.mark_eq_of_start other sameStart] at inside
  exact other.apartBehind inside

/-- One run starts at a place at most. -/
theorem eq_of_start (runsOn : RunsOn text run) (other : RunsOn text next)
    (sameStart : run.start = next.start) : run = next :=
  Run.ext sameStart
    (Nat.le_antisymm (runsOn.stop_le_stop other sameStart)
      (other.stop_le_stop runsOn sameStart.symm))
    (runsOn.mark_eq_of_start other sameStart)

/-- If the mark stands before a run too, the run can start there. -/
theorem extend (runsOn : RunsOn text run) (nextTo : place + 1 = run.start)
    (before : text[place]? = some run.mark) : RunsOn text ⟨place, run.stop, run.mark⟩ where
  mark_mem := runsOn.mark_mem
  twice := by
    have twice := runsOn.twice
    dsimp only
    omega
  same := by
    intro other atLeast below
    rcases Nat.eq_or_lt_of_le atLeast with rfl | beyond
    · exact before
    · exact runsOn.same other (by dsimp only at beyond; omega) below
  apartBehind := runsOn.apartBehind

/-- The first place from a seam on where a mark runs on is where a maximal run starts. -/
theorem isRun_of_first (runsOn : RunsOn text run) (seam : IsSeam text place)
    (onward : place ≤ run.start)
    (absent : ∀ earlier, place ≤ earlier → earlier < run.start → ∀ stop mark,
      ¬RunsOn text ⟨earlier, stop, mark⟩) : IsRun text run where
  toRunsOn := runsOn
  apartBefore := by
    intro before nextTo same
    rcases Nat.eq_or_lt_of_le onward with atSeam | beyond
    · refine seam before (by omega) ?_
      rw [same, atSeam, runsOn.at_start]
    · -- the mark would run on from the place before already
      exact absent before (by omega) (by omega) _ _ (runsOn.extend nextTo same)

/-- A maximal run that starts later starts behind the run. -/
theorem stop_le_start (runsOn : RunsOn text run) (isRun : IsRun text next)
    (later : run.start < next.start) : run.stop ≤ next.start := by
  -- inside the run its mark stands on both sides of every place
  by_contra inside
  obtain ⟨last, nextTo⟩ := Nat.exists_eq_add_of_le' (Nat.one_le_of_lt later)
  have here := runsOn.same next.start (by omega) (by omega)
  rw [isRun.at_start] at here
  have before := runsOn.same last (by omega) (by omega)
  rw [← Option.some.inj here] at before
  exact isRun.apartBefore last nextTo.symm before

end RunsOn

/-! ### What the rule sees at a place -/

theorem isRepeatable_iff {mark : Char} :
    isRepeatable mark = true ↔ mark ∈ ['!', '?', ',', ';'] :=
  List.contains_iff_mem

theorem repeatedMark?_eq_some_iff {before : Option Char} {found : String} {reach : Nat} :
    repeatedMark? before text = some (found, reach) ↔ ∃ mark back,
      text = List.replicate (reach + 1) mark ++ back ∧ 0 < reach ∧
        mark ∈ ['!', '?', ',', ';'] ∧ back.head? ≠ some mark ∧
          found = String.ofList (List.replicate (reach + 1) mark) := by
  constructor
  · intro seen
    cases text with
    | nil => cases seen
    | cons c rest =>
      rw [repeatedMark?] at seen
      split at seen
      next all =>
        simp only [Bool.and_eq_true, Bool.not_eq_true', List.isEmpty_eq_false_iff] at all
        obtain ⟨repeatable, more⟩ := all
        obtain ⟨rfl, rfl⟩ := Prod.mk.inj (Option.some.inj seen)
        have marks : c :: rest.takeWhile (· == c) =
            List.replicate ((rest.takeWhile (· == c)).length + 1) c := by
          rw [List.replicate_succ, ← takeWhile_beq]
        refine ⟨c, rest.dropWhile (· == c), ?_, List.length_pos_iff.mpr more,
          isRepeatable_iff.mp repeatable, ?_, congrArg String.ofList marks⟩
        · rw [← marks, List.cons_append, List.takeWhile_append_dropWhile]
        · intro begins
          have other := stop_dropWhile (· == c) rest c begins
          rw [beq_self_eq_true] at other
          cases other
      next => cases seen
  · rintro ⟨mark, back, rfl, more, member, stops, rfl⟩
    have marks : (List.replicate reach mark ++ back).takeWhile (· == mark) =
        List.replicate reach mark := by
      apply takeWhile_append_of_stop
      · intro c member
        exact beq_iff_eq.mpr (List.eq_of_mem_replicate member)
      · intro c begins
        rw [beq_eq_false_iff_ne]
        rintro rfl
        exact stops begins
    rw [List.replicate_succ, List.cons_append, repeatedMark?]
    simp [marks, isRepeatable_iff.mpr member, Nat.ne_of_gt more]

theorem drop_eq_replicate_iff {start count : Nat} {mark : Char} :
    text.drop start = List.replicate count mark ++ text.drop (start + count) ↔
      ∀ place, start ≤ place → place < start + count → text[place]? = some mark := by
  constructor
  · intro parts place atLeast below
    obtain ⟨offset, rfl⟩ := Nat.exists_eq_add_of_le atLeast
    rw [← List.getElem?_drop, parts, List.getElem?_append_left (by simpa using below),
      List.getElem?_replicate_of_lt (by omega)]
  · intro same
    apply List.ext_getElem?
    intro offset
    rw [List.getElem?_drop]
    by_cases inside : offset < count
    · rw [same _ (by omega) (by omega), List.getElem?_append_left (by simpa using inside),
        List.getElem?_replicate_of_lt inside]
    · rw [List.getElem?_append_right (by simpa using inside), List.length_replicate,
        List.getElem?_drop]
      congr 1
      omega

theorem matchAt_repeatedMark_iff {start stop : Nat} {found : String} :
    MatchAt repeatedMark? text start stop found ↔ ∃ mark,
      RunsOn text ⟨start, stop, mark⟩ ∧ found = Run.quote text ⟨start, stop, mark⟩ := by
  constructor
  · rintro ⟨-, reach, seen, rfl⟩
    obtain ⟨mark, back, parts, more, member, stops, rfl⟩ := repeatedMark?_eq_some_iff.mp seen
    obtain ⟨marksAt, behind⟩ := extract_of_drop parts
    rw [List.length_replicate, ← Nat.add_assoc] at marksAt behind
    have whole : text.drop start =
        List.replicate (reach + 1) mark ++ text.drop (start + (reach + 1)) := by
      rw [parts, ← behind, Nat.add_assoc]
    rw [← behind, List.head?_drop] at stops
    exact ⟨mark, ⟨member, by dsimp only; omega, drop_eq_replicate_iff.mp whole, stops⟩,
      by rw [Run.quote, marksAt]⟩
  · rintro ⟨mark, runsOn, rfl⟩
    have twice : start + 2 ≤ stop := runsOn.twice
    obtain ⟨reach, rfl⟩ : ∃ reach, stop = start + (reach + 1) := ⟨stop - start - 1, by omega⟩
    have parts := drop_eq_replicate_iff.mpr runsOn.same
    obtain ⟨marksAt, -⟩ := extract_of_drop parts
    rw [List.length_replicate] at marksAt
    have within : start < text.length := (List.getElem?_eq_some_iff.mp runsOn.at_start).1
    refine ⟨within, reach, repeatedMark?_eq_some_iff.mpr
      ⟨mark, _, parts, by omega, runsOn.mark_mem, ?_, ?_⟩, rfl⟩
    · rw [List.head?_drop]
      exact runsOn.apartBehind
    · rw [Run.quote, marksAt]

/-! ### All runs -/

/-- The maximal runs that start at a place or later, in their order. -/
structure AreRunsFrom (text : List Char) (place : Nat) (runs : List Run) : Prop where
  ordered : runs.Pairwise Run.Precedes
  mem_iff : ∀ run, run ∈ runs ↔ IsRun text run ∧ place ≤ run.start

theorem AreRunsFrom.unique {runs others : List Run} (are : AreRunsFrom text place runs)
    (alsoAre : AreRunsFrom text place others) : runs = others :=
  are.ordered.eq_of_mem_iff alsoAre.ordered fun run =>
    (are.mem_iff run).trans (alsoAre.mem_iff run).symm

/-- Before the first run there is none, and the others start where it has ended, or later. -/
theorem AreRunsFrom.cons {runs : List Run} (are : AreRunsFrom text run.stop runs)
    (isRun : IsRun text run) (onward : place ≤ run.start)
    (absent : ∀ earlier, place ≤ earlier → earlier < run.start → ∀ stop mark,
      ¬RunsOn text ⟨earlier, stop, mark⟩) : AreRunsFrom text place (run :: runs) where
  ordered := by
    have twice := isRun.twice
    refine List.pairwise_cons.mpr ⟨fun other member => ?_, are.ordered⟩
    have behind := ((are.mem_iff other).mp member).2
    change run.start < other.start
    omega
  mem_iff := by
    intro other
    have twice := isRun.twice
    rw [List.mem_cons, are.mem_iff]
    constructor
    · rintro (rfl | ⟨isOther, behind⟩)
      · exact ⟨isRun, onward⟩
      · exact ⟨isOther, by omega⟩
    · rintro ⟨isOther, atLeast⟩
      rcases Nat.lt_trichotomy other.start run.start with earlier | same | later
      · exact absurd isOther.toRunsOn (absent other.start atLeast earlier _ _)
      · exact .inl (isOther.eq_of_start isRun.toRunsOn same)
      · exact .inr ⟨isOther, isRun.stop_le_start isOther later⟩

/-- From a seam on, the leftmost matches are the maximal runs. Each match ends at a seam, from which
the others are found. -/
theorem exists_runs_of_leftmost {results : List String}
    (leftmost : LeftmostFrom (MatchAt repeatedMark? text) place results)
    (seam : IsSeam text place) :
    ∃ runs, AreRunsFrom text place runs ∧ results = runs.map (Run.quote text) := by
  induction leftmost with
  | nothing nowhere =>
    refine ⟨[], ⟨.nil, fun run => iff_of_false List.not_mem_nil ?_⟩, rfl⟩
    rintro ⟨isRun, atLeast⟩
    exact nowhere run.start atLeast _ _
      (matchAt_repeatedMark_iff.mpr ⟨run.mark, isRun.toRunsOn, rfl⟩)
  | @next place start stop found others onward before here more ih =>
    obtain ⟨mark, runsOn, rfl⟩ := matchAt_repeatedMark_iff.mp here
    have absent (earlier : Nat) (atLeast : place ≤ earlier) (less : earlier < start)
        (stop : Nat) (mark : Char) : ¬RunsOn text ⟨earlier, stop, mark⟩ := fun other =>
      before earlier atLeast less stop _ (matchAt_repeatedMark_iff.mpr ⟨mark, other, rfl⟩)
    have isRun := runsOn.isRun_of_first seam onward absent
    obtain ⟨runs, are, rfl⟩ := ih runsOn.isSeam_stop
    exact ⟨_, are.cons isRun onward absent, rfl⟩

/-- Where a mark stands twice, the rule sees it. -/
theorem exists_matchAt_of_twice {mark : Char} (member : mark ∈ ['!', '?', ',', ';'])
    (first : text[place]? = some mark) (second : text[place + 1]? = some mark) :
    ∃ stop found, MatchAt repeatedMark? text place stop found := by
  obtain ⟨within, here⟩ := List.getElem?_eq_some_iff.mp first
  obtain ⟨withinNext, again⟩ := List.getElem?_eq_some_iff.mp second
  have parts : text.drop place = mark :: mark :: text.drop (place + 2) := by
    rw [List.drop_eq_getElem_cons within, List.drop_eq_getElem_cons withinNext, here, again]
  cases seen : repeatedMark? (text.take place).getLast? (text.drop place) with
  | some result => exact ⟨_, result.1, within, result.2, seen, rfl⟩
  | none =>
    rw [parts, repeatedMark?] at seen
    simp [isRepeatable_iff.mpr member] at seen

/-- The rule reports something just if one of its marks stands twice in a row. What it reports are
the maximal runs, from left to right and each once, with all that the text holds there; there is
one list of these runs only. A checker that has the rule reports them in this order, and nothing
else under its name. -/
theorem repeatedPunctuation_runs (config : Value) (text : String) :
    (Rule.repeatedPunctuation.issues text ≠ [] ↔ ∃ place, ∃ mark ∈ ['!', '?', ',', ';'],
      text.toList[place]? = some mark ∧ text.toList[place + 1]? = some mark) ∧
    ∃ runs : List Run,
      (∀ others : List Run,
        (others.Pairwise (fun run next => run.start < next.start) ∧
          ∀ run, run ∈ others ↔ IsRun text.toList run) ↔ others = runs) ∧
      Rule.repeatedPunctuation.issues text = runs.map (fun run =>
        ⟨"Repeated punctuation \"" ++ run.quote text.toList ++ "\"",
          ruleId Rule.repeatedPunctuation.name⟩) ∧
      (ProseChecker.ofConfig config).issuesUnder Rule.repeatedPunctuation.name text =
        if Rule.repeatedPunctuation ∈ (ProseChecker.ofConfig config).rules then
          Rule.repeatedPunctuation.issues text
        else [] := by
  have issues : Rule.repeatedPunctuation.issues text =
      (scan repeatedMark? text.toList).map (fun marks =>
        ⟨"Repeated punctuation \"" ++ marks ++ "\"", ruleId Rule.repeatedPunctuation.name⟩) :=
    List.map_map
  have leftmost := leftmostFrom_scan repeatedMark? text.toList
  obtain ⟨runs, are, quotes⟩ := exists_runs_of_leftmost leftmost (isSeam_zero text.toList)
  refine ⟨?_, runs, fun others => ⟨?_, ?_⟩, ?_, ProseChecker.issuesUnder_rule _
    (ProseChecker.nodup_rules_ofConfig config) Rule.repeatedPunctuation text⟩
  · rw [issues, ne_eq, List.map_eq_nil_iff, ← ne_eq, leftmost.ne_nil_iff]
    constructor
    · rintro ⟨start, -, stop, found, here⟩
      obtain ⟨mark, runsOn, -⟩ := matchAt_repeatedMark_iff.mp here
      have twice : start + 2 ≤ stop := runsOn.twice
      exact ⟨start, mark, runsOn.mark_mem, runsOn.at_start,
        runsOn.same (start + 1) (Nat.le_succ start) twice⟩
    · rintro ⟨place, mark, member, first, second⟩
      obtain ⟨stop, found, here⟩ := exists_matchAt_of_twice member first second
      exact ⟨place, Nat.zero_le place, stop, found, here⟩
  · rintro ⟨ordered, members⟩
    exact AreRunsFrom.unique ⟨ordered, fun run => by simp [members]⟩ are
  · rintro rfl
    exact ⟨are.ordered, fun run => by simp [are.mem_iff]⟩
  · rw [issues, quotes, List.map_map]
    rfl

/-- Runs of different marks side by side are told apart; a single mark is no run, and no other
character is a mark. -/
example : scan repeatedMark? "Really??!!!, no,, a; ok... ;;".toList = ["??", "!!!", ",,", ";;"] := by
  decide

end Prose

end MarkupLint
