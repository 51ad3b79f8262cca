import Mathlib.Data.List.Perm.Subperm
import Mathlib.Data.List.Range
import MarkupLint.Proofs.ForestLinks

/-!
The walk back from a node over its siblings. Where links and lists of a forest agree, a step back
stays in one list and comes closer to its beginning: the walk ends, and it ends on the last sibling
in front that is not a blank run. That no node stands below itself plays no part in it. Main
statement: what it takes for the single marker to be attached to a node
(`Forest.Built.isExcluded_iff`).
-/
namespace MarkupLint.Forest

variable {forest : Forest} {parent id sibling fuel : Nat} {front back : List Nat}
  {found : Option Nat}

/-- The walk as it goes, from a place to the place where it ends. -/
inductive WalksBack (forest : Forest) : Option Nat → Option Nat → Prop
  | out : WalksBack forest none none
  | stop {id : Nat} (given : (forest.info? id).any Info.isBlankRun = false) :
      WalksBack forest (some id) (some id)
  | pass {id : Nat} {found : Option Nat} (blank : (forest.info? id).any Info.isBlankRun = true)
      (rest : WalksBack forest (forest.previousSibling? id) found) :
      WalksBack forest (some id) found

/-- A member of a list that is not a blank run and has only blank runs behind it. -/
def IsLastGiven (forest : Forest) (members : List Nat) (id : Nat) : Prop :=
  ∃ front gap, members = front ++ id :: gap ∧
    (∀ blank ∈ gap, (forest.info? blank).any Info.isBlankRun = true) ∧
    (forest.info? id).any Info.isBlankRun = false

/-- A sibling before a node that is not a blank run, with only blank runs between the two. -/
def IsNearest (forest : Forest) (sibling id : Nat) : Prop :=
  ∃ parent before behind, forest.children parent = before ++ id :: behind ∧
    forest.IsLastGiven before sibling

theorem not_isLastGiven_nil : ¬forest.IsLastGiven [] id := by
  rintro ⟨front, gap, same, -⟩
  simp at same

theorem isLastGiven_concat_iff : forest.IsLastGiven (front ++ [id]) sibling ↔
    if (forest.info? id).any Info.isBlankRun then forest.IsLastGiven front sibling
      else id = sibling := by
  constructor
  · rintro ⟨before, gap, same, blank, given⟩
    rcases List.eq_nil_or_concat' gap with rfl | ⟨gap, last, rfl⟩
    · obtain rfl := List.singleton_inj.mp (List.append_inj' same rfl).2
      rw [given, if_neg Bool.false_ne_true]
    · rw [← List.cons_append, ← List.append_assoc] at same
      obtain ⟨rfl, ends⟩ := List.append_inj' same rfl
      obtain rfl := List.singleton_inj.mp ends
      rw [if_pos (blank id (List.mem_append_right gap (.head _)))]
      exact ⟨before, gap, rfl, fun n member => blank n (List.mem_append_left _ member), given⟩
  · split_ifs with own
    · rintro ⟨before, gap, rfl, blank, given⟩
      refine ⟨before, gap ++ [id], by simp, fun n member => ?_, given⟩
      rcases List.mem_append.mp member with member | member
      · exact blank n member
      · rwa [List.mem_singleton.mp member]
    · rintro rfl
      exact ⟨front, [], rfl, nofun, Bool.eq_false_iff.mpr own⟩

theorem memberBefore?_append (absent : id ∉ front) :
    memberBefore? id (front ++ id :: back) = front.getLast? := by
  induction front with
  | nil => cases back <;> simp [memberBefore?]
  | cons a front ih =>
    obtain ⟨other, absent⟩ := not_or.mp (List.mem_cons.not.mp absent)
    cases front with
    | nil => simp [memberBefore?, Ne.symm other]
    | cons b front =>
      obtain ⟨next, -⟩ := not_or.mp (List.mem_cons.not.mp absent)
      rw [List.cons_append, List.cons_append, memberBefore?, if_neg (Ne.symm other),
        if_neg (Ne.symm next), ← List.cons_append, ih absent, List.getLast?_cons_cons]

/-- A step back ends in the same list. -/
theorem Linked.previousSibling?_eq (linked : Linked forest)
    (own : forest.children parent = front ++ id :: back) :
    forest.previousSibling? id = front.getLast? := by
  have distinct := linked.nodup parent
  rw [own, List.nodup_middle, List.nodup_cons] at distinct
  have link : forest.parent? id = some parent := by
    rw [← linked.mem_children_iff, own]
    exact List.mem_append_right front (.head back)
  rw [previousSibling?, link, Option.bind_some, own]
  exact memberBefore?_append fun member => distinct.1 (List.mem_append_left back member)

/-- The walk ends: with each step fewer members of the list stand in front. -/
theorem Linked.walksBack_precedingFrom (linked : Linked forest)
    (own : forest.children parent = front ++ back) (enough : front.length < fuel) :
    WalksBack forest front.getLast? (forest.precedingFrom fuel front.getLast?) := by
  -- The walk stands on the last member in front; a step back leaves one member fewer in front.
  induction front using List.reverseRecOn generalizing back fuel with
  | nil =>
    cases fuel with
    | zero => cases enough
    | succ fuel => exact .out
  | append_singleton front id ih =>
    cases fuel with
    | zero => cases enough
    | succ fuel =>
      rw [List.getLast?_concat, precedingFrom]
      split_ifs with blank
      · refine .pass blank ?_
        rw [List.append_assoc, List.singleton_append] at own
        rw [linked.previousSibling?_eq own]
        exact ih own (by simpa using enough)
      · exact .stop (Bool.eq_false_iff.mpr blank)

/-- Where the walk ends. -/
theorem Linked.eq_some_iff_of_walksBack (linked : Linked forest)
    (walk : WalksBack forest front.getLast? found)
    (own : forest.children parent = front ++ back) :
    found = some sibling ↔ forest.IsLastGiven front sibling := by
  induction front using List.reverseRecOn generalizing back with
  | nil =>
    cases walk
    exact iff_of_false nofun not_isLastGiven_nil
  | append_singleton front id ih =>
    rw [List.getLast?_concat] at walk
    cases walk with
    | stop given => rw [isLastGiven_concat_iff, given, if_neg Bool.false_ne_true, Option.some_inj]
    | pass blank rest =>
      rw [List.append_assoc, List.singleton_append] at own
      rw [linked.previousSibling?_eq own] at rest
      rw [isLastGiven_concat_iff, if_pos blank, ih rest own]

theorem Linked.length_children_le (linked : Linked forest) (parent : Nat) :
    (forest.children parent).length ≤ forest.size := by
  have within : forest.children parent ⊆ List.range forest.size := fun child member =>
    List.mem_range.mpr (lt_size_of_parent? ((linked.mem_children_iff parent child).mp member))
  simpa using (List.subperm_of_subset (linked.nodup parent) within).length_le

theorem Linked.walksBack_preceding? (linked : Linked forest) (id : Nat) :
    WalksBack forest (forest.previousSibling? id) (forest.preceding? id) := by
  rw [preceding?]
  cases link : forest.parent? id with
  | none =>
    rw [previousSibling?, link]
    exact .out
  | some parent =>
    obtain ⟨front, back, own⟩ := List.append_of_mem ((linked.mem_children_iff parent id).mpr link)
    have few : front.length ≤ forest.size := by
      have all := linked.length_children_le parent
      rw [own, List.length_append] at all
      omega
    rw [linked.previousSibling?_eq own]
    exact linked.walksBack_precedingFrom own (Nat.lt_succ_of_le few)

theorem Linked.preceding?_eq_some_iff (linked : Linked forest) :
    forest.preceding? id = some sibling ↔ forest.IsNearest sibling id := by
  have walk := linked.walksBack_preceding? id
  constructor
  · intro found
    cases link : forest.parent? id with
    | none =>
      rw [previousSibling?, link] at walk
      rw [found] at walk
      cases walk
    | some parent =>
      obtain ⟨before, behind, own⟩ :=
        List.append_of_mem ((linked.mem_children_iff parent id).mpr link)
      rw [linked.previousSibling?_eq own] at walk
      exact ⟨parent, before, behind, own, (linked.eq_some_iff_of_walksBack walk own).mp found⟩
  · rintro ⟨parent, before, behind, own, last⟩
    rw [linked.previousSibling?_eq own] at walk
    exact (linked.eq_some_iff_of_walksBack walk own).mpr last

/-- In a forest where each node is added at most once the walk back from a node ends, and the
single marker is attached to the node exactly if it stands in one of its leading comments, or if
the nearest sibling before it that is not a blank run is a comment with the marker. -/
theorem Built.isExcluded_iff (built : Built forest) (d : Directives) (id : Nat) :
    WalksBack forest (forest.previousSibling? id) (forest.preceding? id) ∧
    (forest.isExcluded d id = true ↔
      (∃ info, forest.info? id = some info ∧
        ∃ comment ∈ info.leading, d.isSingle comment = true) ∨
      ∃ sibling info, forest.IsNearest sibling id ∧ forest.info? sibling = some info ∧
        info.kind = .comment ∧ d.isSingle info.text = true) := by
  refine ⟨built.linked.walksBack_preceding? id, ?_⟩
  rw [isExcluded, Bool.or_eq_true, Option.any_eq_true, precedingComment?]
  refine or_congr (by simp) ?_
  simp only [← built.linked.preceding?_eq_some_iff, Option.any_eq_true, Option.filter_eq_some_iff,
    Option.bind_eq_some_iff, beq_iff_eq]
  tauto

theorem Built.isExcluded_iff_past_blank_run :
    let forest := plant {} none (.mk { kind := .element }
      [.mk { kind := .comment, text := "/* @text-lint ignore */" } [],
        .mk { kind := .textRun, text := " \n" } [], .mk { kind := .textRun, text := "teh" } []])
    WalksBack forest (some 2) (some 1) ∧
      ∃ sibling info, forest.IsNearest sibling 3 ∧ forest.info? sibling = some info ∧
        info.kind = .comment ∧ Directives.isSingle {} info.text = true := by
  intro forest
  have built : Built forest := (built_plant _ {} none .empty nofun).1
  have own := built.isExcluded_iff {} 3
  have start : forest.previousSibling? 3 = some 2 := by decide +kernel
  have last : forest.preceding? 3 = some 1 := by decide +kernel
  rw [start, last] at own
  refine ⟨own.1, (own.2.mp ?_).resolve_left ?_⟩
  · decide +kernel
  · rintro ⟨info, same, comment, member, -⟩
    cases same
    cases member

end MarkupLint.Forest
