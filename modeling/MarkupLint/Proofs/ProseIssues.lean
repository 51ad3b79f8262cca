import MarkupLint.Check.Prose

/-!
The issues of a prose checker, told apart by the rule they stand under. Rules have different names,
so what stands under the name of a rule is what that rule finds
(`ProseChecker.issuesUnder_rule`), and what stands under the name for phrases are the messages of
the phrases that the text has (`ProseChecker.issuesUnder_phraseRule`).
-/
namespace MarkupLint

open Prose

namespace Prose

theorem ruleId_inj {name other : String} : ruleId name = ruleId other ↔ name = other :=
  String.append_right_inj "prose/"

theorem Rule.name_inj {rule other : Rule} : rule.name = other.name ↔ rule = other := by
  cases rule <;> cases other <;> decide

theorem Rule.name_ne_phraseRule (rule : Rule) : rule.name ≠ phraseRule := by
  cases rule <;> decide

def ForbiddenPhrase.issue (phrase : ForbiddenPhrase) : Issue :=
  ⟨phrase.message, ruleId phraseRule⟩

def Rule.issues (rule : Rule) (text : String) : List Issue :=
  (rule.messages text.toList).map fun message => ⟨message, ruleId rule.name⟩

end Prose

namespace ProseChecker

variable (checker : ProseChecker) {text : String}

/-- The issues of a text that stand under a name. -/
def issuesUnder (name text : String) : List Issue :=
  (checker.check text).filter fun issue => issue.ruleId = ruleId name

theorem check_eq (text : String) :
    checker.check text = checker.rules.flatMap (fun rule => rule.issues text) ++
      (checker.phrases.filter fun phrase => hasPhrase phrase.phrase.toList text.toList).map
        ForbiddenPhrase.issue :=
  rfl

theorem filter_issues (rule : Prose.Rule) (name : String) :
    (rule.issues text).filter (fun issue => issue.ruleId = ruleId name) =
      if rule.name = name then rule.issues text else [] := by
  by_cases same : rule.name = name
  · rw [if_pos same, List.filter_eq_self]
    intro issue found
    obtain ⟨message, -, rfl⟩ := List.mem_map.mp found
    exact decide_eq_true (ruleId_inj.mpr same)
  · rw [if_neg same, List.filter_eq_nil_iff]
    intro issue found
    obtain ⟨message, -, rfl⟩ := List.mem_map.mp found
    rw [decide_eq_true_eq, ruleId_inj]
    exact same

theorem issuesUnder_phraseRule (text : String) :
    checker.issuesUnder phraseRule text =
      (checker.phrases.filter fun phrase => hasPhrase phrase.phrase.toList text.toList).map
        ForbiddenPhrase.issue := by
  have rules : (checker.rules.flatMap fun rule => rule.issues text).filter
      (fun issue => issue.ruleId = ruleId phraseRule) = [] := by
    rw [List.filter_flatMap, List.flatMap_eq_nil_iff]
    intro rule _
    rw [filter_issues, if_neg rule.name_ne_phraseRule]
  rw [issuesUnder, check_eq, List.filter_append, rules, List.nil_append, List.filter_eq_self]
  intro issue found
  obtain ⟨phrase, -, rfl⟩ := List.mem_map.mp found
  exact decide_eq_true rfl

theorem flatMap_issues (rule : Prose.Rule) {rules : List Prose.Rule} (once : rules.Nodup) :
    (rules.flatMap fun other => if other = rule then rule.issues text else []) =
      if rule ∈ rules then rule.issues text else [] := by
  induction rules with
  | nil => rfl
  | cons other rest ih =>
    obtain ⟨new, once⟩ := List.nodup_cons.mp once
    rw [List.flatMap_cons, ih once]
    by_cases same : other = rule
    · subst same
      rw [if_pos rfl, if_neg new, if_pos List.mem_cons_self, List.append_nil]
    · rw [if_neg same, List.nil_append]
      simp [Ne.symm same]

theorem issuesUnder_rule (once : checker.rules.Nodup) (rule : Prose.Rule) (text : String) :
    checker.issuesUnder rule.name text = if rule ∈ checker.rules then rule.issues text else [] := by
  have phrases : ((checker.phrases.filter fun phrase =>
      hasPhrase phrase.phrase.toList text.toList).map ForbiddenPhrase.issue).filter
        (fun issue => issue.ruleId = ruleId rule.name) = [] := by
    rw [List.filter_eq_nil_iff]
    intro issue found
    obtain ⟨phrase, -, rfl⟩ := List.mem_map.mp found
    rw [decide_eq_true_eq]
    exact fun same => rule.name_ne_phraseRule (ruleId_inj.mp same).symm
  rw [issuesUnder, check_eq, List.filter_append, phrases, List.append_nil, List.filter_flatMap,
    ← flatMap_issues rule once]
  congr 1
  funext other
  rw [filter_issues]
  by_cases same : other = rule
  · rw [if_pos (Prose.Rule.name_inj.mpr same), if_pos same, same]
  · rw [if_neg (same ∘ Prose.Rule.name_inj.mp), if_neg same]

/-- A configured checker has each rule once at most. -/
theorem nodup_rules_ofConfig (config : Value) : (ofConfig config).rules.Nodup :=
  List.filter_sublist.nodup (by decide : Prose.Rule.all.Nodup)

end ProseChecker

end MarkupLint
