import Mathlib.Data.List.Basic
import MarkupLint.Markup.Segment
import MarkupLint.Proofs.AppendedItems
import MarkupLint.Proofs.Keys
import MarkupLint.Proofs.RegionScope
import MarkupLint.Value.Merge

/-!
What the lists of attribute names do to what is extracted. A name is checked if it is listed and
no ignored entry covers it, so a longer list of ignored names takes checked names away and a
longer list of checked names adds some (`AttributeRules.Narrower`); the rest of a traversal does
not look at the lists. Main statement: appending to one of the lists in a layer leaves the text
runs as they are and makes what is extracted a sublist of what was before, or the other way round.
-/
namespace MarkupLint

namespace AttributeRules

/-- An entry covers its own name, and one with a star at its end what begins like it. -/
def Matches (entry name : String) : Prop :=
  entry = name ∨ ∃ stem, entry = stem ++ "*" ∧ stem.toList <+: name.toList

theorem covers_of_matches {entry name : String} (fits : Matches entry name) :
    covers entry name = true := by
  unfold covers
  rw [Bool.or_eq_true]
  rcases fits with rfl | ⟨stem, rfl, before⟩
  · exact .inl BEq.rfl
  · have ends : (stem ++ "*").toList.reverse = '*' :: stem.toList.reverse := by
      rw [String.toList_append, List.reverse_append]
      rfl
    right
    rw [ends]
    exact List.isPrefixOf_iff_prefix.mpr (List.reverse_reverse _ ▸ before)

theorem isChecked_iff {rules : AttributeRules} {name : String} :
    rules.isChecked name = true ↔
      name ∈ rules.target ∧ ∀ entry ∈ rules.ignore, covers entry name = false := by
  unfold isChecked classify
  rw [beq_iff_eq]
  split
  next covered =>
    obtain ⟨entry, member, covers⟩ := List.any_eq_true.mp covered
    refine ⟨nofun, fun checked => ?_⟩
    rw [checked.2 entry member] at covers
    cases covers
  next free =>
    have uncovered : ∀ entry ∈ rules.ignore, covers entry name = false := by
      intro entry member
      exact Bool.eq_false_iff.mpr fun covers => free (List.any_eq_true.mpr ⟨entry, member, covers⟩)
    split
    next listed => exact ⟨fun _ => ⟨List.contains_iff_mem.mp listed, uncovered⟩, fun _ => rfl⟩
    next unlisted =>
      exact ⟨nofun, fun ⟨member, _⟩ => absurd (List.contains_iff_mem.mpr member) unlisted⟩

/-- Rules that check no name that others do not. -/
def Narrower (rules others : AttributeRules) : Prop :=
  ∀ name, rules.isChecked name = true → others.isChecked name = true

theorem narrower_of_subset {rules others : AttributeRules} (target : rules.target ⊆ others.target)
    (ignore : others.ignore ⊆ rules.ignore) : Narrower rules others := by
  intro name checked
  rw [isChecked_iff] at checked ⊢
  exact ⟨target checked.1, fun entry member => checked.2 entry (ignore member)⟩

/-- The names of a list are its items, trimmed, that are not null and not blank. -/
theorem mem_names_iff {config : Value} {name : String} :
    name ∈ names config ↔ ∃ item ∈ elements config,
      item.isNull = false ∧ Text.trimmed item.display = name ∧ name.isEmpty = false := by
  simp only [names, List.mem_eraseDups, List.mem_filter, List.mem_map, Bool.not_eq_true']
  constructor
  · rintro ⟨⟨item, ⟨member, given⟩, text⟩, filled⟩
    exact ⟨item, member, given, text, filled⟩
  · rintro ⟨item, member, given, text, filled⟩
    exact ⟨⟨item, ⟨member, given⟩, text⟩, filled⟩

theorem names_subset {few many : List Value} (subset : few ⊆ many) (l m : Option Label) :
    names (.list l few) ⊆ names (.list m many) := by
  intro name listed
  obtain ⟨item, member, given⟩ := mem_names_iff.mp listed
  exact mem_names_iff.mpr ⟨item, subset member, given⟩

end AttributeRules

/-! ### Extraction under narrower rules -/

/-- Whatever one function gives, the other gives too. -/
theorem filterMap_sublist_filterMap {α β : Type} {f g : α → Option β}
    (weaker : ∀ a b, f a = some b → g a = some b) (items : List α) :
    (items.filterMap f).Sublist (items.filterMap g) := by
  induction items with
  | nil => exact List.Sublist.refl _
  | cons item rest ih =>
    rw [List.filterMap_cons, List.filterMap_cons]
    cases given : f item with
    | none =>
      cases g item with
      | none => exact ih
      | some other => exact ih.cons other
    | some b =>
      rw [weaker item b given]
      exact ih.cons_cons b

namespace Extraction

variable {e f : Extraction}

/-- Text runs are taken without a look at the rules. -/
theorem ofTextRun_eq (same : e.directives = f.directives) (visit : Visit) :
    e.ofTextRun visit = f.ofTextRun visit := by
  unfold ofTextRun
  rw [same]

theorem segment?_of_narrower (same : e.directives = f.directives)
    (narrow : e.rules.Narrower f.rules) (visit : Visit) (segment : Segment)
    (extracted : e.segment? visit = some segment) : f.segment? visit = some segment := by
  unfold segment? at extracted ⊢
  split at extracted
  next =>
    unfold ofAttribute at extracted ⊢
    split at extracted
    next name value named valued =>
      rw [Option.ite_none_right_eq_some, Bool.and_eq_true, Bool.and_eq_true] at extracted ⊢
      obtain ⟨⟨⟨filled, checked⟩, free⟩, text⟩ := extracted
      exact ⟨⟨⟨filled, narrow name checked⟩, same ▸ free⟩, text⟩
    next => cases extracted
  next => rw [← ofTextRun_eq same, extracted]
  next => cases extracted

theorem segment?_eq_none_of_unchecked {visit : Visit} {name : String}
    (kind : visit.info.kind = .attribute) (named : visit.info.name = some name)
    (unchecked : e.rules.isChecked name = false) : e.segment? visit = none := by
  unfold segment?
  rw [kind]
  dsimp only
  unfold ofAttribute
  split
  next name' value named' valued =>
    rw [named] at named'
    cases named'
    rw [unchecked, Bool.and_false, Bool.false_and, if_neg Bool.false_ne_true]
  next => rfl

/-- The text runs among some segments. -/
def textRuns (segments : List Segment) : List Segment :=
  segments.filter fun segment => segment.origin = .textRun

theorem textRuns_segment? (same : e.directives = f.directives) (visit : Visit) :
    (e.segment? visit).filter (fun segment => segment.origin = .textRun) =
      (f.segment? visit).filter fun segment => segment.origin = .textRun := by
  have none (e : Extraction) :
      (e.ofAttribute visit).filter (fun segment => segment.origin = .textRun) = none := by
    unfold ofAttribute
    split
    next => split <;> rfl
    next => rfl
  unfold segment?
  split
  next => rw [none e, none f]
  next => rw [ofTextRun_eq same]
  next => rfl

end Extraction

namespace Document

open Extraction (textRuns)

variable {e f : Extraction}

/-- Which nodes are visited outside ignore regions does not depend on the rules. -/
theorem segments_eq_filterMap (document : Document) (same : e.directives = f.directives) :
    document.segments e = (f.unsuppressed [] document.visits).filterMap e.segment? := by
  have visits : f.unsuppressed [] document.visits = e.unsuppressed [] document.visits := by
    rw [Extraction.unsuppressed, Extraction.unsuppressed, same]
  rw [visits, ← e.walk_segments]
  rfl

theorem segments_sublist_of_narrower (document : Document) (same : e.directives = f.directives)
    (narrow : e.rules.Narrower f.rules) :
    (document.segments e).Sublist (document.segments f) := by
  rw [document.segments_eq_filterMap same, document.segments_eq_filterMap (e := f) rfl]
  exact filterMap_sublist_filterMap (Extraction.segment?_of_narrower same narrow) _

theorem textRuns_segments (document : Document) (same : e.directives = f.directives) :
    textRuns (document.segments e) = textRuns (document.segments f) := by
  rw [document.segments_eq_filterMap same, document.segments_eq_filterMap (e := f) rfl, textRuns,
    textRuns, List.filter_filterMap, List.filter_filterMap]
  exact List.filterMap_congr fun visit _ => Extraction.textRuns_segment? same visit

end Document

/-! ### Layers -/

namespace Value

theorem field_of_get? {label : Option Label} {entries : Entries} {name : String} {value : Value}
    (found : entries.get? (.str name) = some value) :
    (Value.map label entries).field name = value := by
  rw [field, entries?, Option.getD_some, Entries.field?, found, Option.getD_some]

/-- A layer that does nothing but append to a list of the attribute section. -/
def Appends (list : String) (extra : List Value) (layer : Value) : Prop :=
  ∃ l m n, layer = .map l [(.str "attributes",
    .map m [(.str list, .list n (.str appendMark :: extra))])]

/-- Such a layer changes one list of the section, and nothing else there. -/
theorem exists_mergeLayer_of_appends {base attributes : Entries} {list : String}
    {l m : Option Label} {items extra : List Value} {layer : Value}
    (inside : base.get? (.str "attributes") = some (.map l attributes))
    (listed : attributes.get? (.str list) = some (.list m items))
    (appends : Appends list extra layer) :
    ∃ merged after : Entries, mergeLayer base layer = .ok merged ∧
      merged.get? (.str "attributes") = some (.map none after) ∧
      after.get? (.str list) = some (.list none (appendNew items extra)) ∧
      ∀ other, list ≠ other → after.get? (.str other) = attributes.get? (.str other) := by
  obtain ⟨a, b, c, rfl⟩ := appends
  refine ⟨base.set (.str "attributes")
      (.map none (attributes.set (.str list) (.list none (appendNew items extra)))), _, ?_,
    (Entries.get?_set_str _ _ _ _).trans (if_pos rfl),
    (Entries.get?_set_str _ _ _ _).trans (if_pos rfl),
    fun other distinct => (Entries.get?_set_str _ _ _ _).trans (if_neg distinct)⟩
  simp only [mergeLayer, isGiven, mergeEntries, mergeOver, inside, listed, mergeItems_append]
  rfl

/-- The two lists of a section with both. -/
theorem exists_attributes_of_at? {base : Entries} {target ignore : Value}
    (targets : (Value.ofEntries base).at? [.str "attributes", .str "target"] = some target)
    (ignores : (Value.ofEntries base).at? [.str "attributes", .str "ignore"] = some ignore) :
    ∃ (label : Option Label) (attributes : Entries),
      base.get? (.str "attributes") = some (.map label attributes) ∧
      attributes.get? (.str "target") = some target ∧
      attributes.get? (.str "ignore") = some ignore := by
  rw [ofEntries, at?_cons, Option.bind_eq_some_iff] at targets ignores
  obtain ⟨own, inside, targets⟩ := targets
  obtain ⟨own', inside', ignores⟩ := ignores
  rw [inside] at inside'
  cases inside'
  cases own with
  | map label attributes =>
    simp only [at?_cons, at?_nil, Option.bind_fun_some] at targets ignores
    exact ⟨label, attributes, inside, targets, ignores⟩
  | _ => cases targets

end Value

/-- What is extracted under a configuration. -/
def Extraction.under (config : Entries) (directives : Directives) : Extraction :=
  { rules := .ofConfig ((Value.ofEntries config).field "attributes"), directives := directives }

open Value in
theorem Extraction.rules_under {base attributes : Entries} {label l m : Option Label}
    {target ignore : List Value} (directives : Directives)
    (inside : base.get? (.str "attributes") = some (.map label attributes))
    (targets : attributes.get? (.str "target") = some (.list l target))
    (ignores : attributes.get? (.str "ignore") = some (.list m ignore)) :
    (under base directives).rules =
      { target := AttributeRules.names (.list l target)
        ignore := AttributeRules.names (.list m ignore) } := by
  rw [under, AttributeRules.ofConfig, Value.ofEntries, field_of_get? inside, field_of_get? targets,
    field_of_get? ignores]

open Value Extraction in
/-- Appending to the ignored names takes some of what was extracted away, appending to the checked
names adds to it, and neither touches the text runs; an attribute that an ignored entry covers
never gives anything. -/
theorem Document.segments_of_appended (document : Document) (directives : Directives)
    {base : Entries} {l m : Option Label} {target ignore : List Value}
    (targets : (Value.ofEntries base).at? [.str "attributes", .str "target"] =
      some (.list l target))
    (ignores : (Value.ofEntries base).at? [.str "attributes", .str "ignore"] =
      some (.list m ignore)) (extra : List Value) :
    (∀ layer, Appends "ignore" extra layer → ∃ merged, mergeLayer base layer = .ok merged ∧
      (document.segments (under merged directives)).Sublist
        (document.segments (under base directives)) ∧
      textRuns (document.segments (under merged directives)) =
        textRuns (document.segments (under base directives))) ∧
    (∀ layer, Appends "target" extra layer → ∃ merged, mergeLayer base layer = .ok merged ∧
      (document.segments (under base directives)).Sublist
        (document.segments (under merged directives)) ∧
      textRuns (document.segments (under merged directives)) =
        textRuns (document.segments (under base directives))) ∧
    ∀ item ∈ ignore, item.isNull = false → (Text.trimmed item.display).isEmpty = false →
      ∀ (visit : Visit) (name : String), visit.info.kind = .attribute →
        visit.info.name = some name → AttributeRules.Matches (Text.trimmed item.display) name →
          ∀ region, ((under base directives).step region visit).segment = none := by
  obtain ⟨label, attributes, inside, hasTarget, hasIgnore⟩ :=
    exists_attributes_of_at? targets ignores
  have before := rules_under directives inside hasTarget hasIgnore
  refine ⟨?_, ?_, ?_⟩
  · intro layer appends
    obtain ⟨merged, attributes', done, inside', grown, others⟩ :=
      exists_mergeLayer_of_appends inside hasIgnore appends
    have after :=
      rules_under directives inside' ((others "target" (by decide)).trans hasTarget) grown
    have narrow : (under merged directives).rules.Narrower (under base directives).rules := by
      rw [before, after]
      exact AttributeRules.narrower_of_subset (List.Subset.refl _)
        (AttributeRules.names_subset (subset_appendNew _ _) _ _)
    exact ⟨merged, done, document.segments_sublist_of_narrower rfl narrow,
      document.textRuns_segments rfl⟩
  · intro layer appends
    obtain ⟨merged, attributes', done, inside', grown, others⟩ :=
      exists_mergeLayer_of_appends inside hasTarget appends
    have after :=
      rules_under directives inside' grown ((others "ignore" (by decide)).trans hasIgnore)
    have narrow : (under base directives).rules.Narrower (under merged directives).rules := by
      rw [before, after]
      exact AttributeRules.narrower_of_subset
        (AttributeRules.names_subset (subset_appendNew _ _) _ _) (List.Subset.refl _)
    exact ⟨merged, done, document.segments_sublist_of_narrower rfl narrow,
      document.textRuns_segments rfl⟩
  · intro item member given filled visit name kind named fits region
    have listed : Text.trimmed item.display ∈ (under base directives).rules.ignore := by
      rw [before]
      exact AttributeRules.mem_names_iff.mpr ⟨item, member, given, rfl, filled⟩
    have nothing : (under base directives).segment? visit = none := by
      have unchecked : (under base directives).rules.isChecked name = false := by
        rw [Bool.eq_false_iff]
        intro checked
        have free := (AttributeRules.isChecked_iff.mp checked).2 _ listed
        rw [AttributeRules.covers_of_matches fits] at free
        cases free
      exact segment?_eq_none_of_unchecked kind named unchecked
    unfold step
    dsimp only
    rw [nothing, ite_self]

open Value Extraction in
/-- Two names are checked, one of which the layer takes away; a third is covered by a star. -/
theorem Document.segments_of_appended_name :
    let node (name value : String) : Node :=
      .mk { kind := .attribute, name := some name, value := some value } []
    let document : Document :=
      ⟨"a", .mk { kind := .other } [node "alt" "One", node "title" "Two", node "data-id" "Three"]⟩
    let target : List Value := [.str "alt", .str "title", .str "data-id"]
    let base : Entries :=
      [(.str "attributes",
        .ofFields [("target", .ofList target), ("ignore", .ofStrings ["data-*"])])]
    let layer : Value :=
      .ofFields [("attributes", .ofFields [("ignore", .ofStrings ["+", " title "])])]
    (Value.ofEntries base).at? [.str "attributes", .str "target"] = some (.list none target) ∧
    (Value.ofEntries base).at? [.str "attributes", .str "ignore"] =
      some (.list none [.str "data-*"]) ∧
    Appends "ignore" [.str " title "] layer ∧
    document.segments (under base {}) = [⟨"One", 1, .attribute⟩, ⟨"Two", 1, .attribute⟩] ∧
    (∃ merged, mergeLayer base layer = .ok merged ∧
      (document.segments (under merged {})).Sublist (document.segments (under base {}))) ∧
    ∀ (visit : Visit), visit.info.kind = .attribute → visit.info.name = some "data-id" →
      ((under base {}).step none visit).segment = none := by
  intro node document target base layer
  have appends : Appends "ignore" [.str " title "] layer := ⟨none, none, none, rfl⟩
  have targets : (Value.ofEntries base).at? [.str "attributes", .str "target"] =
      some (.list none target) := rfl
  have ignores : (Value.ofEntries base).at? [.str "attributes", .str "ignore"] =
      some (.list none [.str "data-*"]) := rfl
  obtain ⟨less, -, nothing⟩ :=
    document.segments_of_appended {} targets ignores [.str " title "]
  obtain ⟨merged, done, fewer, -⟩ := less layer appends
  refine ⟨targets, ignores, appends, ?_, ⟨merged, done, fewer⟩, ?_⟩
  · rw [Document.segments, Document.steps, document.visits_eq_descendants]
    decide +kernel
  · intro visit kind named
    have trimmed : Text.trimmed (Value.str "data-*").display = "data-*" := by decide +kernel
    refine nothing (.str "data-*") (.head _) rfl (by rw [trimmed]; decide) visit "data-id" kind
      named ?_ none
    rw [trimmed]
    exact .inr ⟨"data-", rfl, by decide⟩

end MarkupLint
