import Mathlib.Data.List.Induction
import MarkupLint.Proofs.Sameness
import MarkupLint.Value.Display

/-!
Which items a list gains that others are appended to. The list grows while it is asked whether an
item is there, but since two values that equal a third one equal each other, an item is found there
just if it equals one of the base or an earlier item (`Value.isIn_appendNew_eq`). Main statement:
what is appended are the first occurrences of the items that the base does not have, and no item is
there twice because of it (`Value.mergeItems_appendMark`).
-/
namespace MarkupLint.Value

/-- The items that equal none of a base and none of the items before them. -/
def firstNew (base items : List Value) : List Value :=
  (items.zipIdx.filter fun entry =>
    !entry.1.isIn base && !entry.1.isIn (items.take entry.2)).map (·.1)

variable {base items : List Value} {item last : Value}

theorem isIn_append (item : Value) (front back : List Value) :
    item.isIn (front ++ back) = (item.isIn front || item.isIn back) :=
  List.any_append

theorem isIn_singleton (item own : Value) : item.isIn [own] = own.same item := by
  simp [isIn]

theorem isIn_trans {value : Value} (known : item.isIn base = true)
    (alike : item.same value = true) : value.isIn base = true := by
  obtain ⟨own, member, same⟩ := List.any_eq_true.mp known
  exact List.any_eq_true.mpr ⟨own, member, same_trans own item value same alike⟩

theorem appendNew_concat (base items : List Value) (last : Value) :
    appendNew base (items ++ [last]) =
      if last.isIn (appendNew base items) then appendNew base items
      else appendNew base items ++ [last] := by
  rw [appendNew, List.foldl_append]
  rfl

/-- What was left out equals something that is there. -/
theorem isIn_appendNew_eq (base items : List Value) (value : Value) :
    value.isIn (appendNew base items) = (value.isIn base || value.isIn items) := by
  induction items using List.reverseRecOn with
  | nil => exact (Bool.or_false _).symm
  | append_singleton items last ih =>
    rw [isIn_append, ← Bool.or_assoc, ← ih, isIn_singleton, appendNew_concat]
    split
    next known =>
      cases alike : last.same value with
      | false => rw [Bool.or_false]
      | true => rw [isIn_trans known alike, Bool.true_or]
    next => rw [isIn_append, isIn_singleton]

theorem firstNew_concat (base items : List Value) (last : Value) :
    firstNew base (items ++ [last]) =
      firstNew base items ++ if last.isIn base || last.isIn items then [] else [last] := by
  have earlier : (items.zipIdx.filter fun entry =>
        !entry.1.isIn base && !entry.1.isIn ((items ++ [last]).take entry.2)) =
      items.zipIdx.filter fun entry =>
        !entry.1.isIn base && !entry.1.isIn (items.take entry.2) := by
    apply List.filter_congr
    intro entry member
    have inside := List.snd_lt_of_mem_zipIdx member
    rw [List.take_append_of_le_length (by omega)]
  rw [firstNew, List.zipIdx_append, List.filter_append, List.map_append, earlier, firstNew,
    List.zipIdx_singleton, List.filter_singleton, Nat.zero_add, List.take_left]
  cases last.isIn base <;> cases last.isIn items <;> rfl

theorem appendNew_eq (base items : List Value) :
    appendNew base items = base ++ firstNew base items := by
  induction items using List.reverseRecOn with
  | nil => exact (List.append_nil base).symm
  | append_singleton items last ih =>
    rw [appendNew_concat, isIn_appendNew_eq, firstNew_concat, ih]
    split
    next => rw [List.append_nil]
    next => rw [List.append_assoc]

/-! ### What is appended -/

theorem firstNew_subset (base items : List Value) : firstNew base items ⊆ items := by
  intro item member
  obtain ⟨⟨own, place⟩, inside, rfl⟩ := List.mem_map.mp member
  exact List.fst_mem_of_mem_zipIdx (List.mem_of_mem_filter inside)

theorem isIn_eq_false_of_mem_firstNew (member : item ∈ firstNew base items) :
    item.isIn base = false := by
  obtain ⟨⟨own, place⟩, inside, rfl⟩ := List.mem_map.mp member
  have kept := (List.mem_filter.mp inside).2
  rw [Bool.and_eq_true, Bool.not_eq_true'] at kept
  exact kept.1

theorem pairwise_firstNew (base items : List Value) :
    (firstNew base items).Pairwise fun a b => a.same b = false := by
  induction items using List.reverseRecOn with
  | nil => exact .nil
  | append_singleton items last ih =>
    rw [firstNew_concat]
    split
    next => rwa [List.append_nil]
    next fresh =>
      rw [Bool.or_eq_true, not_or, Bool.not_eq_true, Bool.not_eq_true] at fresh
      refine List.pairwise_append.mpr ⟨ih, List.pairwise_singleton _ _, fun a member b single => ?_⟩
      rw [List.mem_singleton.mp single, ← Bool.not_eq_true]
      exact List.any_eq_false.mp fresh.2 a (firstNew_subset base items member)

/-- Nothing that comes before an appended item equals it. -/
theorem same_eq_false_of_appended {front back : List Value} {value : Value}
    (split : appendNew base items = front ++ value :: back)
    (appended : base.length ≤ front.length) : ∀ other ∈ front, other.same value = false := by
  rw [appendNew_eq] at split
  obtain ⟨more, rfl⟩ : base <+: front :=
    List.prefix_of_prefix_length_le ⟨_, split⟩ (List.prefix_append _ _) appended
  rw [List.append_assoc, List.append_cancel_left_eq] at split
  intro other member
  rcases List.mem_append.mp member with inside | before
  · have new : value ∈ firstNew base items := by rw [split]; simp
    have fresh := isIn_eq_false_of_mem_firstNew new
    exact Bool.eq_false_iff.mpr (List.any_eq_false.mp fresh other inside)
  · have apart := pairwise_firstNew base items
    rw [split, List.pairwise_append] at apart
    exact apart.2.2 other before value (.head _)

/-- A list that a plus opens leaves what was there as it is, and appends the first occurrences of
its items that equal nothing there: every item then equals one of the list, and no appended item
equals another one of it. -/
theorem mergeItems_appendMark
    (comparable : ∀ value ∈ base ++ items, value.isComparable = true)
    (differ : ∀ value ∈ base ++ items, value.membersDiffer = true) :
    let merged := mergeItems base (.str appendMark :: items)
    merged = base ++ firstNew base items ∧ base <+: merged ∧
      (∀ item ∈ items, item.isIn merged = true) ∧
      ∀ front value back, merged = front ++ value :: back → base.length ≤ front.length →
        ∀ other ∈ front ++ back, other.same value = false ∧ value.same other = false := by
  intro merged
  have told : merged = appendNew base items := mergeItems_append base items
  have known : ∀ value ∈ merged, value ∈ base ++ items := by
    rw [told, appendNew_eq]
    intro value member
    rcases List.mem_append.mp member with inside | added
    · exact List.mem_append_left _ inside
    · exact List.mem_append_right _ (firstNew_subset base items added)
  refine ⟨told.trans (appendNew_eq base items), ?_, fun item member => ?_,
    fun front value back split appended other member => ?_⟩
  · rw [told, appendNew_eq]
    exact List.prefix_append _ _
  · have own := same_self item (comparable item (List.mem_append_right _ member))
    rw [told, isIn_appendNew_eq, isIn_of_mem own member, Bool.or_true]
  · have valueKnown := known value (by rw [split]; simp)
    have otherKnown := known other (by
      rw [split]
      rcases List.mem_append.mp member with before | behind
      · exact List.mem_append_left _ before
      · exact List.mem_append_right _ (.tail _ behind))
    have comm : other.same value = value.same other :=
      same_comm (comparable _ otherKnown) (differ _ otherKnown) (comparable _ valueKnown)
        (differ _ valueKnown)
    rw [told] at split
    rcases List.mem_append.mp member with before | behind
    · have apart := same_eq_false_of_appended split appended other before
      exact ⟨apart, comm ▸ apart⟩
    · obtain ⟨near, far, rfl⟩ := List.append_of_mem behind
      have further : appendNew base items = (front ++ value :: near) ++ other :: far := by
        rw [split]; simp
      have apart := same_eq_false_of_appended further (by rw [List.length_append]; omega) value
        (by simp)
      exact ⟨comm ▸ apart, apart⟩

/-- What is true equals one and is left out; a list with a zero equals one with what is false, and
the order of the members of a set does not matter. -/
theorem mergeItems_appendMark_forms :
    let base : List Value := [.str "alt", .int 1]
    let items : List Value := [.bool true, .ofList [.int 0, .ofFields [("k", .null)]], .str "label",
      .str "alt", .ofList [.bool false, .ofFields [("k", .null)]],
      .set ⟨0, 0, false⟩ [.str "a", .int 1], .str "label",
      .set ⟨0, 1, false⟩ [.bool true, .str "a"]]
    (∀ value ∈ base ++ items, value.isComparable = true) ∧
      (∀ value ∈ base ++ items, value.membersDiffer = true) ∧
      (mergeItems base (.str appendMark :: items)).map display =
        ["alt", "1", "[0, \x7b'k': None\x7d]", "label", "\x7b'a', 1\x7d"] := by
  intro base items
  have comparable : ∀ value ∈ base ++ items, value.isComparable = true := by decide +kernel
  have differ : ∀ value ∈ base ++ items, value.membersDiffer = true := by decide +kernel
  refine ⟨comparable, differ, ?_⟩
  rw [(mergeItems_appendMark comparable differ).1]
  decide +kernel

end MarkupLint.Value
