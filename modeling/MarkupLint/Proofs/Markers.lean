import Mathlib.Data.List.Infix
import MarkupLint.Markup.Region
import MarkupLint.Proofs.Entities

/-!
Markers that are told apart. A marker is looked for anywhere in a comment, the start marker first,
and the single marker once more when the region markers have been taken away. Main statement: the
comments that consist of one marker each do what the marker is there for exactly if the start
marker stands in neither of the other two and the end marker not in the single one
(`Directives.toldApart_iff`).
-/
namespace MarkupLint

namespace Text

variable {c : Char} {part text : List Char}

theorem occurs_eq_true_iff : occurs part text = true ↔ part <:+: text := by
  induction text with
  | nil => rw [occurs, List.isEmpty_iff, List.infix_nil]
  | cons c rest ih =>
    rw [occurs, Bool.or_eq_true, ih, List.isPrefixOf_iff_prefix, List.infix_cons_iff]

/-- The end of a match is taken away, and the search goes on behind it. -/
theorem erase_cons (c : Char) (tail text : List Char) :
    erase (c :: tail) text = substitute
      (fun rest => if (c :: tail).isPrefixOf rest then some ([], tail.length) else none) text :=
  rfl

/-- Induction along a scan for a mark: where the mark begins the scan goes on behind it, and else
behind the first character. -/
theorem mark_induction {mark : List Char} {motive : List Char → Prop} (nonempty : mark ≠ [])
    (nil : motive []) (here : ∀ rest, motive rest → motive (mark ++ rest))
    (other : ∀ c rest, ¬mark <+: c :: rest → motive rest → motive (c :: rest)) (text : List Char) :
    motive text := by
  induction size : text.length using Nat.strong_induction_on generalizing text with
  | h n ih =>
    subst size
    cases text with
    | nil => exact nil
    | cons c rest =>
      by_cases begins : mark <+: c :: rest
      · obtain ⟨after, same⟩ := begins
        rw [← same]
        have length := congrArg List.length same
        rw [List.length_append, List.length_cons] at length
        have longer := List.length_pos_iff.mpr nonempty
        exact here after (ih after.length (by rw [List.length_cons]; omega) after rfl)
      · exact other c rest begins (ih rest.length (Nat.lt_succ_self _) rest rfl)

theorem erase_append (c : Char) (tail rest : List Char) :
    erase (c :: tail) (c :: tail ++ rest) = erase (c :: tail) rest := by
  have whole : (c :: tail).isPrefixOf (c :: (tail ++ rest)) = true :=
    List.isPrefixOf_iff_prefix.mpr (List.prefix_append (c :: tail) rest)
  rw [List.cons_append, erase_cons, substitute_of_some (if_pos whole), List.drop_left,
    List.nil_append, ← erase_cons]

theorem erase_of_apart {tail rest : List Char} {d : Char} (apart : ¬c :: tail <+: d :: rest) :
    erase (c :: tail) (d :: rest) = d :: erase (c :: tail) rest := by
  rw [← List.isPrefixOf_iff_prefix] at apart
  rw [erase_cons, substitute_of_none (if_neg apart), ← erase_cons]

theorem erase_eq_self (absent : ¬part <:+: text) : erase part text = text := by
  cases part with
  | nil => rfl
  | cons p tail =>
    induction text with
    | nil => rfl
    | cons c rest ih =>
      rw [List.infix_cons_iff, not_or] at absent
      rw [erase_of_apart absent.1, ih absent.2]

theorem erase_self (text : List Char) : erase text text = [] := by
  cases text with
  | nil => rfl
  | cons c tail =>
    have whole := erase_append c tail []
    rwa [List.append_nil] at whole

theorem contains_eq_true_iff {text part : String} :
    contains text part = true ↔ part.toList <:+: text.toList :=
  occurs_eq_true_iff

theorem contains_self (text : String) : contains text text = true :=
  contains_eq_true_iff.mpr List.infix_rfl

end Text

namespace Directives

open Text

/-- A comment with nothing attached to it. -/
structure IsLone (info : Info) (text : String) : Prop where
  kind : info.kind = .comment
  leading : info.leading = []
  text : info.text = text

/-- The comments that consist of one marker do what the marker is there for: from any region that
is open or none, the start marker leaves the region of the comment's file, the end marker leaves
none, and the single marker leaves all as it was; and the single marker alone counts as one. -/
structure ToldApart (d : Directives) : Prop where
  opens : ∀ region info, IsLone info d.regionStart →
    (Region.observe d region info).region = some info.fileId
  closes : ∀ region info, IsLone info d.regionEnd → (Region.observe d region info).region = none
  keeps : ∀ region info, IsLone info d.single → (Region.observe d region info).region = region
  isSingle_single : d.isSingle d.single = true
  isSingle_regionStart : d.isSingle d.regionStart = false
  isSingle_regionEnd : d.isSingle d.regionEnd = false

variable {d : Directives} {info : Info} {text : String}

theorem region_observe_lone (lone : IsLone info text) (region : Region) :
    (Region.observe d region info).region =
      if contains text d.regionStart then some info.fileId
      else if contains text d.regionEnd then none
      else region := by
  rw [Region.observe, Region.comments, lone.leading, lone.kind, lone.text]
  change (Region.State.cross info ⟨region, []⟩ (d.boundary? text)).region = _
  rw [boundary?]
  split_ifs <;> rfl

theorem isSingle_of_erased (erased : erase d.regionEnd.toList (erase d.regionStart.toList
    text.toList) = []) (nonempty : d.single ≠ "") : d.isSingle text = false := by
  have absent : occurs d.single.toList [] = false := by
    rw [occurs, List.isEmpty_eq_false_iff]
    simpa using nonempty
  rw [isSingle, erased, absent, Bool.and_false]

theorem isSingle_regionStart_eq_false_iff : d.isSingle d.regionStart = false ↔ d.single ≠ "" := by
  constructor
  · intro apart empty
    have everywhere (text : List Char) : occurs d.single.toList text = true :=
      occurs_eq_true_iff.mpr (empty ▸ List.nil_infix)
    rw [isSingle, contains, everywhere, everywhere] at apart
    cases apart
  · intro nonempty
    refine isSingle_of_erased ?_ nonempty
    rw [erase_self]
    cases d.regionEnd.toList <;> rfl

theorem isSingle_of_apart (noStart : contains text d.regionStart = false)
    (noEnd : contains text d.regionEnd = false) : d.isSingle text = contains text d.single := by
  rw [← Bool.not_eq_true, contains_eq_true_iff] at noStart noEnd
  rw [isSingle, erase_eq_self noStart, erase_eq_self noEnd]
  exact Bool.and_self _

/-- A comment that consists of one marker, in a file. -/
def lone (text : String) : Info :=
  { kind := .comment, text := text, fileId := "App.tsx" }

theorem isLone_lone (text : String) : IsLone (lone text) text :=
  ⟨rfl, rfl, rfl⟩

/-- A marker that stands in another one acts in its place. -/
theorem ToldApart.not_contains (told : d.ToldApart) :
    contains d.regionEnd d.regionStart = false ∧ contains d.single d.regionStart = false ∧
      contains d.single d.regionEnd = false := by
  have closed := told.closes none _ (isLone_lone d.regionEnd)
  rw [region_observe_lone (isLone_lone d.regionEnd)] at closed
  have kept (region : Region) := told.keeps region _ (isLone_lone d.single)
  simp only [region_observe_lone (isLone_lone d.single)] at kept
  have singleNoStart : contains d.single d.regionStart = false := by
    rw [← Bool.not_eq_true]
    intro found
    have opened := kept none
    rw [if_pos found] at opened
    cases opened
  refine ⟨?_, singleNoStart, ?_⟩
  · rw [← Bool.not_eq_true]
    intro found
    rw [if_pos found] at closed
    cases closed
  · rw [← Bool.not_eq_true]
    intro found
    have stopped := kept (some "")
    rw [singleNoStart, if_neg Bool.false_ne_true, if_pos found] at stopped
    cases stopped

/-- Whatever the markers are, a comment with the start marker alone opens a region, and that marker
is not taken for the single one unless this is empty. All three are told apart exactly if the
single marker is not empty, the start marker stands neither in the end marker nor in the single
one, and the end marker does not stand in the single one. -/
theorem toldApart_iff (d : Directives) :
    (∀ region info, IsLone info d.regionStart →
      (Region.observe d region info).region = some info.fileId) ∧
    (d.isSingle d.regionStart = false ↔ d.single ≠ "") ∧
    (d.ToldApart ↔ d.single ≠ "" ∧ contains d.regionEnd d.regionStart = false ∧
      contains d.single d.regionStart = false ∧ contains d.single d.regionEnd = false) := by
  have opens : ∀ region info, IsLone info d.regionStart →
      (Region.observe d region info).region = some info.fileId := by
    intro region info lone
    rw [region_observe_lone lone, if_pos (contains_self d.regionStart)]
  refine ⟨opens, isSingle_regionStart_eq_false_iff, fun told =>
    ⟨isSingle_regionStart_eq_false_iff.mp told.isSingle_regionStart, told.not_contains⟩, ?_⟩
  rintro ⟨nonempty, endNoStart, singleNoStart, singleNoEnd⟩
  refine ⟨opens, fun region info lone => ?_, fun region info lone => ?_, ?_,
    isSingle_regionStart_eq_false_iff.mpr nonempty, isSingle_of_erased ?_ nonempty⟩
  · rw [region_observe_lone lone, endNoStart, contains_self]
    rfl
  · rw [region_observe_lone lone, singleNoStart, singleNoEnd]
    rfl
  · rw [isSingle_of_apart singleNoStart singleNoEnd, contains_self]
  · rw [← Bool.not_eq_true, contains_eq_true_iff] at endNoStart
    rw [erase_eq_self endNoStart, erase_self]

/-- An end marker in which the start marker stands, and before it the single one: where it is met
the region goes on, and it excludes the next node too. -/
theorem not_toldApart_of_inner_start :
    let d : Directives :=
      { regionStart := "ignore", regionEnd := "@text-lint ignore end", single := "@text-lint" }
    d.regionStart ≠ "" ∧ d.regionEnd ≠ "" ∧ d.single ≠ "" ∧ d.regionStart ≠ d.regionEnd ∧
      d.regionStart ≠ d.single ∧ d.regionEnd ≠ d.single ∧
      (Region.observe d (some "App.tsx") (lone d.regionEnd)).region = some "App.tsx" ∧
      d.isSingle d.regionEnd = true ∧ ¬d.ToldApart := by
  intro d
  have taken : d.isSingle d.regionEnd = true := by decide
  refine ⟨by decide, by decide, by decide, by decide, by decide, by decide, by decide, taken, ?_⟩
  intro told
  rw [told.isSingle_regionEnd] at taken
  cases taken

end Directives

end MarkupLint
