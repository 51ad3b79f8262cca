import MarkupLint.Proofs.Independence
import MarkupLint.Proofs.PlainText
import MarkupLint.Proofs.ProseIssues

/-!
The rule about two spaces in a row. It needs two blanks side by side, and what checkers are given to
look at has none: whatever entities, quotes and wrapped lines leave behind has been collapsed. Main
statement: of the diagnostics under that rule none is a prose checker's, whether a segment is
checked without memory, with one, or as part of a document (`Pipeline.underRule_doubleSpace`). The
rule is there for texts that come another way.
-/
namespace MarkupLint

theorem Normalize.blanksApart_normalize (raw : List Char) : BlanksApart (normalize raw) := by
  rw [normalize_eq]
  exact List.IsChain.infix (blanksApart_collapsed _) (trim_isInfix _)

namespace Prose

open Text

theorem exists_spaces_of_hasDoubleSpace {text : List Char} (found : hasDoubleSpace text = true) :
    ∃ front back, text = front ++ ' ' :: ' ' :: back := by
  induction text with
  | nil => cases found
  | cons c rest ih =>
    rw [hasDoubleSpace, Bool.or_eq_true] at found
    rcases found with here | later
    · simp only [Bool.and_eq_true, decide_eq_true_eq] at here
      obtain ⟨⟨-, two⟩, -⟩ := here
      have spaces := takeWhile_beq ' ' rest
      obtain ⟨more, count⟩ := Nat.exists_eq_add_of_le' two
      have whole := List.takeWhile_append_dropWhile (p := (· == ' ')) (l := rest)
      rw [spaces, count] at whole
      exact ⟨[c], List.replicate more ' ' ++ rest.dropWhile (· == ' '),
        congrArg (c :: ·) whole.symm⟩
    · obtain ⟨front, back, rfl⟩ := ih later
      exact ⟨c :: front, back, rfl⟩

theorem hasDoubleSpace_of_blanksApart {text : List Char} (apart : Normalize.BlanksApart text) :
    hasDoubleSpace text = false := by
  rw [Bool.eq_false_iff]
  intro found
  obtain ⟨front, back, rfl⟩ := exists_spaces_of_hasDoubleSpace found
  have side := (List.isChain_append.mp apart).2.1
  exact (List.isChain_cons_cons.mp side).1 (by decide)

/-- A text that has not been normalized may well be reported. -/
example : hasDoubleSpace "Save  changes".toList = true := by decide

theorem issues_doubleSpace_normalized (raw : String) :
    Rule.doubleSpace.issues (Normalize.normalized raw) = [] := by
  have free := hasDoubleSpace_of_blanksApart (Normalize.blanksApart_normalize raw.toList)
  rw [Rule.issues, Normalize.normalized, String.toList_ofList, Rule.messages, free]
  rfl

end Prose

namespace ProseChecker

open Prose

variable {prose : ProseChecker} {text : String} {issue : Issue}

/-- What a checker reports under the name of a rule is what this rule finds. -/
theorem mem_issues_of_ruleId {rule : Prose.Rule} (found : issue ∈ prose.check text)
    (name : issue.ruleId = ruleId rule.name) : issue ∈ rule.issues text := by
  rw [check_eq, List.mem_append] at found
  rcases found with byRule | byPhrase
  · obtain ⟨other, -, found⟩ := List.mem_flatMap.mp byRule
    obtain ⟨message, -, rfl⟩ := List.mem_map.mp found
    exact Rule.name_inj.mp (ruleId_inj.mp name) ▸ found
  · obtain ⟨phrase, -, rfl⟩ := List.mem_map.mp byPhrase
    exact absurd (ruleId_inj.mp name).symm rule.name_ne_phraseRule

theorem mem_check_of_mem_found {limit : TimeLimit}
    (found : issue ∈ (prose.checker.outcome limit text).found) : issue ∈ prose.check text := by
  have answer : (prose.checker.answer text).found = prose.check text := rfl
  rw [← answer]
  cases limit with
  | unlimited => exact found
  | seconds limit =>
    rw [Checker.outcome] at found
    split at found
    next => cases found
    next => exact found
  | unusable problem => cases found

end ProseChecker

namespace Pipeline

open Prose

/-- The diagnostics that stand under the name of a rule. -/
def underRule (rule : Prose.Rule) (diagnostics : List Diagnostic) : List Diagnostic :=
  diagnostics.filter fun diagnostic => diagnostic.ruleId = ruleId rule.name

theorem underRule_append (rule : Prose.Rule) (front back : List Diagnostic) :
    underRule rule (front ++ back) = underRule rule front ++ underRule rule back :=
  List.filter_append _ _

theorem underRule_flatMap {α : Type} (rule : Prose.Rule) (parts : List α)
    (share : α → List Diagnostic) :
    underRule rule (parts.flatMap share) = parts.flatMap fun part => underRule rule (share part) :=
  List.filter_flatMap

theorem underRule_findings_doubleSpace (limit : TimeLimit) (file : String) (segment : Segment)
    (prose : ProseChecker) :
    underRule .doubleSpace (findings limit file segment prose.checker) = [] := by
  rw [underRule, List.filter_eq_nil_iff]
  intro reported member stands
  obtain ⟨text, worth, told⟩ := List.mem_flatMap.mp member
  obtain ⟨issue, found, rfl⟩ := List.mem_map.mp told
  have plain : text = Normalize.normalized segment.text := by
    rw [checkable?] at worth
    split at worth
    next => exact List.mem_singleton.mp worth
    next => cases worth
  have under : issue ∈ Rule.doubleSpace.issues text :=
    ProseChecker.mem_issues_of_ruleId (ProseChecker.mem_check_of_mem_found found)
      (decide_eq_true_eq.mp stands)
  rw [plain, issues_doubleSpace_normalized] at under
  cases under

/-- Prose checkers among others. -/
def withProse (parts : List (ProseChecker ⊕ Checker)) : List Checker :=
  parts.map (Sum.elim ProseChecker.checker id)

/-- The others. -/
def withoutProse (parts : List (ProseChecker ⊕ Checker)) : List Checker :=
  parts.filterMap Sum.getRight?

theorem underRule_flatMap_findings (limit : TimeLimit) (file : String) (segment : Segment)
    (parts : List (ProseChecker ⊕ Checker)) :
    underRule .doubleSpace ((withProse parts).flatMap (findings limit file segment)) =
      underRule .doubleSpace ((withoutProse parts).flatMap (findings limit file segment)) := by
  induction parts with
  | nil => rfl
  | cons part rest ih =>
    cases part with
    | inl prose =>
      have own := underRule_findings_doubleSpace limit file segment prose
      rw [withProse, List.map_cons, List.flatMap_cons, underRule_append]
      rw [withProse] at ih
      rw [Sum.elim_inl, own, List.nil_append, ih]
      rfl
    | inr checker =>
      rw [withProse, withoutProse] at ih ⊢
      rw [List.map_cons, List.flatMap_cons, underRule_append, ih, ← underRule_append]
      rfl

/-- No prose checker ever reports two spaces in a row: of the diagnostics under that rule, those of
a list of checkers are those of the checkers that are no prose checkers. So it is for a segment that
is checked without memory, for one that is checked at any time of a validation, and for a whole
document. -/
theorem underRule_doubleSpace (extraction : Extraction) (timeout : TimeLimit)
    (parts : List (ProseChecker ⊕ Checker)) :
    let p : Pipeline := ⟨extraction, withProse parts, timeout⟩
    let others : Pipeline := ⟨extraction, withoutProse parts, timeout⟩
    (∀ file segment, underRule .doubleSpace (p.checkAlone file segment).diagnostics =
        underRule .doubleSpace (others.checkAlone file segment).diagnostics) ∧
      (∀ file met progress, Progress.Keeps p file met progress → ∀ segment,
        underRule .doubleSpace
            ((p.queries segment).foldl (Progress.consult p file) progress).diagnostics =
          underRule .doubleSpace progress.diagnostics ++
            underRule .doubleSpace (others.checkAlone file segment).diagnostics) ∧
      ∀ document, underRule .doubleSpace (p.validate document).diagnostics =
        underRule .doubleSpace (others.validate document).diagnostics := by
  intro p others
  have alone (file : String) (segment : Segment) :
      underRule .doubleSpace (p.checkAlone file segment).diagnostics =
        underRule .doubleSpace (others.checkAlone file segment).diagnostics := by
    rw [diagnostics_checkAlone, diagnostics_checkAlone, flatMap_answers_queries,
      flatMap_answers_queries]
    exact underRule_flatMap_findings timeout file segment parts
  refine ⟨alone, fun file met progress keeps segment => ?_, fun document => ?_⟩
  · have next := keeps.foldl_consult (p.queries segment) (p.isFor_of_mem_queries segment)
    rw [next.diagnostics, List.flatMap_append, underRule_append, ← keeps.diagnostics,
      ← diagnostics_checkAlone, alone]
  · rw [diagnostics_validate, diagnostics_validate, shares_eq, shares_eq, ← List.flatMap_def,
      ← List.flatMap_def, underRule_flatMap, underRule_flatMap]
    simp only [p, others, underRule_flatMap_findings]

/-- The checker of another kind keeps what it reports under that rule, for a segment that comes
after another: the text, which is the same in the end, is not put to the checkers again. -/
theorem underRule_doubleSpace_beside_another :
    let own : Checker := {
      name := "own"
      run := fun text => .ok [⟨text, ruleId Rule.doubleSpace.name⟩] }
    let parts : List (ProseChecker ⊕ Checker) := [.inl {}, .inr own]
    let p : Pipeline := ⟨{}, withProse parts, .unlimited⟩
    let earlier : Segment := ⟨"the the a b", 1, .textRun⟩
    let segment : Segment := ⟨"the the &nbsp; a\n  b", 3, .textRun⟩
    let progress := (p.queries earlier).foldl (Progress.consult p "f") {}
    Progress.Keeps p "f" (p.queries earlier) progress ∧
      (∀ query ∈ p.queries segment,
        (progress.memo.lookup (query.index, query.text)).isSome = true) ∧
      underRule .doubleSpace
          ((p.queries segment).foldl (Progress.consult p "f") progress).diagnostics =
        [⟨1, "the the a b", "prose/double-space", "own", "f"⟩,
          ⟨3, "the the a b", "prose/double-space", "own", "f"⟩] := by
  intro own parts p earlier segment progress
  have keeps : Progress.Keeps p "f" (p.queries earlier) progress :=
    (Progress.Keeps.start p "f").foldl_consult (p.queries earlier)
      (p.isFor_of_mem_queries earlier)
  refine ⟨keeps, by decide +kernel, ?_⟩
  rw [(underRule_doubleSpace {} .unlimited parts).2.1 "f" (p.queries earlier) progress keeps
    segment]
  decide +kernel

end Pipeline

end MarkupLint
