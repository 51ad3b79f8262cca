import Mathlib.Algebra.Order.BigOperators.Group.List
import Mathlib.Algebra.Order.Group.Nat
import MarkupLint.Proofs.Shown

/-!
Leaves, and how they give way. A leaf stands for a container that it is inside, so only containers
that are inside themselves, or hold one that is, hold leaves (`Value.Shows.leaves_eq_nil`); their
labels tell which these are. Main statements: a value that can stand alone shows what it did when it
is written out (`Value.Shows.writesOut`), and it has no leaves if nothing in it is inside itself
(`Value.leaves_eq_nil_of_loops`).
-/
namespace MarkupLint.Value

mutual

/-- The labels of the leaves in a value. -/
def leaves : Value → List Label
  | .scalar _ | .set _ _ => []
  | .list _ items => leavesOfItems items
  | .pair _ first second => leaves first ++ leaves second
  | .map _ entries => leavesOfEntries entries
  | .again label _ => [label]

def leavesOfItems : List Value → List Label
  | [] => []
  | item :: rest => leaves item ++ leavesOfItems rest

def leavesOfEntries : List (Scalar × Value) → List Label
  | [] => []
  | (_, value) :: rest => leaves value ++ leavesOfEntries rest

end

/-- What a container holds that is not inside itself are other such containers, and these come
before it in some order. -/
def Grounded (holds : Label → Value → Prop) (rank : Label → Nat) : Prop :=
  ∀ l held, holds l held → l.loops = false → ∀ k ∈ held.leaves, k.loops = false ∧ rank k < rank l

variable {holds : Label → Value → Prop} {rank : Label → Nat}

theorem mem_leavesOfItems {l : Label} {items : List Value} :
    l ∈ leavesOfItems items ↔ ∃ item ∈ items, l ∈ item.leaves := by
  induction items with
  | nil => simp [leavesOfItems]
  | cons item rest ih => simp [leavesOfItems, ih]

theorem mem_leavesOfEntries {l : Label} {entries : Entries} :
    l ∈ leavesOfEntries entries ↔ ∃ entry ∈ entries, l ∈ entry.2.leaves := by
  induction entries with
  | nil => simp [leavesOfEntries]
  | cons entry rest ih => simp [leavesOfEntries, ih]

mutual

/-- The containers of leaves are mentioned. -/
theorem leaves_subset_labels : (value : Value) → value.leaves ⊆ value.labels
  | .scalar _ | .set _ _ => List.nil_subset _
  | .pair _ first second => List.append_subset.mpr
      ⟨List.subset_cons_of_subset _
          (List.subset_append_of_subset_left _ (leaves_subset_labels first)),
        List.subset_cons_of_subset _
          (List.subset_append_of_subset_right _ (leaves_subset_labels second))⟩
  | .list _ items => List.subset_append_of_subset_right _ (leavesOfItems_subset_labels items)
  | .map _ entries => List.subset_append_of_subset_right _ (leavesOfEntries_subset_labels entries)
  | .again _ _ => List.Subset.refl _

theorem leavesOfItems_subset_labels : (items : List Value) →
    leavesOfItems items ⊆ labelsOfItems items
  | [] => List.Subset.refl _
  | item :: rest => List.append_subset.mpr
      ⟨List.subset_append_of_subset_left _ (leaves_subset_labels item),
        List.subset_append_of_subset_right _ (leavesOfItems_subset_labels rest)⟩

theorem leavesOfEntries_subset_labels : (entries : List (Scalar × Value)) →
    leavesOfEntries entries ⊆ labelsOfEntries entries
  | [] => List.Subset.refl _
  | (_, value) :: rest => List.append_subset.mpr
      ⟨List.subset_append_of_subset_left _ (leaves_subset_labels value),
        List.subset_append_of_subset_right _ (leavesOfEntries_subset_labels rest)⟩

end

/-! ### Values without leaves -/

mutual

/-- Where containers that are not inside themselves come down the order, they come to no leaf: it
would stand for one that is further up. -/
theorem Shows.leaves_eq_nil (grounded : Grounded holds rank) {around : List Label} {bound : Nat}
    (above : ∀ k ∈ around, k.loops = false → bound ≤ rank k) : (value : Value) →
      Shows holds around value →
      (∀ k ∈ (outline value).leaves, k.loops = false ∧ rank k < bound) → value.leaves = []
  | .scalar _, _, _ | .set _ _, _, _ => rfl
  | .pair _ first second, ⟨one, two⟩, below => by
    obtain ⟨below, below'⟩ := List.forall_mem_append.mp below
    rw [leaves, Shows.leaves_eq_nil grounded above first one below,
      Shows.leaves_eq_nil grounded above second two below', List.append_nil]
  | .list none items, ⟨_, each⟩, below => ShowsItems.leaves_eq_nil grounded above items each below
  | .map none entries, ⟨_, each⟩, below =>
    ShowsEntries.leaves_eq_nil grounded above entries each below
  | .list (some l) items, ⟨own, each⟩, below => by
    obtain ⟨plain, less⟩ := below l (.head _)
    refine ShowsItems.leaves_eq_nil grounded (fun k member unlooped => ?_) items each
      (grounded l _ (own l rfl) plain)
    rcases List.mem_cons.mp member with rfl | old
    · exact Nat.le_refl _
    · exact Nat.le_of_lt (Nat.lt_of_lt_of_le less (above k old unlooped))
  | .map (some l) entries, ⟨own, each⟩, below => by
    obtain ⟨plain, less⟩ := below l (.head _)
    refine ShowsEntries.leaves_eq_nil grounded (fun k member unlooped => ?_) entries each
      (grounded l _ (own l rfl) plain)
    rcases List.mem_cons.mp member with rfl | old
    · exact Nat.le_refl _
    · exact Nat.le_of_lt (Nat.lt_of_lt_of_le less (above k old unlooped))
  | .again l _, ⟨member, _⟩, below => by
    obtain ⟨plain, less⟩ := below l (.head _)
    exact absurd less (Nat.not_lt.mpr (above l member plain))

theorem ShowsItems.leaves_eq_nil (grounded : Grounded holds rank) {around : List Label}
    {bound : Nat} (above : ∀ k ∈ around, k.loops = false → bound ≤ rank k) :
    (items : List Value) → ShowsItems holds around items →
      (∀ k ∈ leavesOfItems (outlineItems items), k.loops = false ∧ rank k < bound) →
      leavesOfItems items = []
  | [], _, _ => rfl
  | item :: rest, ⟨first, others⟩, below => by
    obtain ⟨below, below'⟩ := List.forall_mem_append.mp below
    rw [leavesOfItems, Shows.leaves_eq_nil grounded above item first below,
      ShowsItems.leaves_eq_nil grounded above rest others below', List.append_nil]

theorem ShowsEntries.leaves_eq_nil (grounded : Grounded holds rank) {around : List Label}
    {bound : Nat} (above : ∀ k ∈ around, k.loops = false → bound ≤ rank k) :
    (entries : List (Scalar × Value)) → ShowsEntries holds around entries →
      (∀ k ∈ leavesOfEntries (outlineEntries entries), k.loops = false ∧ rank k < bound) →
      leavesOfEntries entries = []
  | [], _, _ => rfl
  | (_, value) :: rest, ⟨first, others⟩, below => by
    obtain ⟨below, below'⟩ := List.forall_mem_append.mp below
    rw [leavesOfEntries, Shows.leaves_eq_nil grounded above value first below,
      ShowsEntries.leaves_eq_nil grounded above rest others below', List.append_nil]

end

mutual

/-- A value without leaves may stand anywhere. -/
theorem Shows.of_leaves_eq_nil {around inside : List Label} : (value : Value) →
    Shows holds around value → value.leaves = [] → Shows holds inside value
  | .scalar _, _, _ | .set _ _, _, _ => trivial
  | .pair _ first second, ⟨one, two⟩, bare => by
    obtain ⟨bare, bare'⟩ := List.append_eq_nil_iff.mp bare
    exact ⟨Shows.of_leaves_eq_nil first one bare, Shows.of_leaves_eq_nil second two bare'⟩
  | .list _ items, ⟨own, each⟩, bare => ⟨own, ShowsItems.of_leaves_eq_nil items each bare⟩
  | .map _ entries, ⟨own, each⟩, bare => ⟨own, ShowsEntries.of_leaves_eq_nil entries each bare⟩
  | .again _ _, _, bare => nomatch bare

theorem ShowsItems.of_leaves_eq_nil {around inside : List Label} : (items : List Value) →
    ShowsItems holds around items → leavesOfItems items = [] → ShowsItems holds inside items
  | [], _, _ => trivial
  | item :: rest, ⟨first, others⟩, bare => by
    obtain ⟨bare, bare'⟩ := List.append_eq_nil_iff.mp bare
    exact ⟨Shows.of_leaves_eq_nil item first bare, ShowsItems.of_leaves_eq_nil rest others bare'⟩

theorem ShowsEntries.of_leaves_eq_nil {around inside : List Label} :
    (entries : List (Scalar × Value)) → ShowsEntries holds around entries →
      leavesOfEntries entries = [] → ShowsEntries holds inside entries
  | [], _, _ => trivial
  | (_, value) :: rest, ⟨first, others⟩, bare => by
    obtain ⟨bare, bare'⟩ := List.append_eq_nil_iff.mp bare
    exact ⟨Shows.of_leaves_eq_nil value first bare, ShowsEntries.of_leaves_eq_nil rest others bare'⟩

end

mutual

/-- In a value without leaves nothing gives way to a container. -/
theorem fill_of_leaves_eq_nil (label : Label) (container : Value) : (value : Value) →
    value.leaves = [] → fill label container value = value
  | .scalar _, _ | .set _ _, _ => rfl
  | .pair _ first second, bare => by
    obtain ⟨bare, bare'⟩ := List.append_eq_nil_iff.mp bare
    rw [fill, fill_of_leaves_eq_nil label container first bare,
      fill_of_leaves_eq_nil label container second bare']
  | .list _ items, bare => by
    rw [fill, fillItems_of_leaves_eq_nil label container items bare, ite_self]
  | .map _ entries, bare => by
    rw [fill, fillEntries_of_leaves_eq_nil label container entries bare, ite_self]
  | .again _ _, bare => nomatch bare

theorem fillItems_of_leaves_eq_nil (label : Label) (container : Value) : (items : List Value) →
    leavesOfItems items = [] → fillItems label container items = items
  | [], _ => rfl
  | item :: rest, bare => by
    obtain ⟨bare, bare'⟩ := List.append_eq_nil_iff.mp bare
    rw [fillItems, fill_of_leaves_eq_nil label container item bare,
      fillItems_of_leaves_eq_nil label container rest bare']

theorem fillEntries_of_leaves_eq_nil (label : Label) (container : Value) :
    (entries : List (Scalar × Value)) → leavesOfEntries entries = [] →
      fillEntries label container entries = entries
  | [], _ => rfl
  | (_, value) :: rest, bare => by
    obtain ⟨bare, bare'⟩ := List.append_eq_nil_iff.mp bare
    rw [fillEntries, fill_of_leaves_eq_nil label container value bare,
      fillEntries_of_leaves_eq_nil label container rest bare']

end

theorem part_of_leaves_eq_nil (container : Value) (label : Option Label) {value : Value}
    (bare : value.leaves = []) : part container label value = value := by
  unfold part
  split
  next l => rw [fill_of_leaves_eq_nil l container value bare, ite_self]
  next => rfl

/-! ### Parts that can stand alone -/

section Parts

variable {label : Option Label} {container value : Value}

/-- What `part` needs to know of a container and something in it. -/
structure IsPart (holds : Label → Value → Prop) (container : Value) (label : Option Label)
    (value : Value) : Prop where
  whole : Shows holds [] container
  inside : Shows holds (label.toList ++ []) value
  told : ∀ l ∈ label, ∃ held, holds l held ∧ outline container = .again l held.isMap ∧
    (outline value).leaves ⊆ held.leaves

theorem isPart_of_mem_items {items : List Value} (shown : Shows holds [] (.list label items))
    (member : value ∈ items) : IsPart holds (.list label items) label value where
  whole := shown
  inside := showsItems_iff.mp shown.2 value member
  told l labelled := by
    cases labelled
    refine ⟨_, shown.1 l rfl, rfl, fun k mentioned => mem_leavesOfItems.mpr ?_⟩
    rw [outlineItems_eq_map]
    exact ⟨_, List.mem_map_of_mem member, mentioned⟩

theorem isPart_of_mem_entries {entries : Entries} {key : Scalar}
    (shown : Shows holds [] (.map label entries)) (member : (key, value) ∈ entries) :
    IsPart holds (.map label entries) label value where
  whole := shown
  inside := showsEntries_iff.mp shown.2 _ member
  told l labelled := by
    cases labelled
    refine ⟨_, shown.1 l rfl, rfl, fun k mentioned => mem_leavesOfEntries.mpr ?_⟩
    rw [outlineEntries_eq_map]
    exact ⟨_, List.mem_map_of_mem member, mentioned⟩

/-- A part of a container can stand alone. -/
theorem IsPart.part (isPart : IsPart holds container label value) (sorted : Sorted holds)
    (grounded : Grounded holds rank) :
    Shows holds [] (part container label value) ∧
      outline (part container label value) = outline value := by
  obtain ⟨whole, inside, told⟩ := isPart
  cases label with
  | none => exact ⟨inside, rfl⟩
  | some l =>
    obtain ⟨held, own, isContainer, mentions⟩ := told l rfl
    unfold Value.part
    dsimp only
    cases loops : l.loops with
    | true =>
      rw [if_pos rfl, fill_eq_replace]
      exact Shows.replace (reshows_filled sorted isContainer own whole)
        ⟨List.Subset.refl _, List.Subset.refl _⟩ value inside
    | false =>
      rw [if_neg Bool.false_ne_true]
      refine ⟨Shows.of_leaves_eq_nil value inside (Shows.leaves_eq_nil grounded ?_ value inside
        fun k mentioned => grounded l held own loops k (mentions mentioned)), rfl⟩
      intro k member _
      exact Nat.le_of_eq (congrArg rank (List.mem_singleton.mp member).symm)

end Parts

/-! ### Writing out -/

section WritingOut

variable {label : Option Label} {value written : Value}

/-- Items may be written in another way. -/
theorem Shows.mapItems {items : List Value} {f : Value → Value}
    (shown : Shows holds [] (.list label items))
    (each : ∀ item ∈ items, Shows holds [] (f item) ∧ outline (f item) = outline item) :
    Shows holds [] (.list label (items.map f)) ∧
      outline (.list label (items.map f)) = outline (.list label items) := by
  have same : outlineItems (items.map f) = outlineItems items := by
    rw [outlineItems_eq_map, outlineItems_eq_map, List.map_map]
    exact List.map_congr_left fun item member => (each item member).2
  refine ⟨⟨same ▸ shown.1, showsItems_iff.mpr fun item member => ?_⟩, ?_⟩
  · obtain ⟨own, there, rfl⟩ := List.mem_map.mp member
    exact Shows.mono (fun _ _ => id) (List.nil_subset _) _ (each own there).1
  · cases label with
    | none => exact congrArg (Value.list none) same
    | some l => rfl

/-- What is under keys may be written in another way. -/
theorem Shows.mapEntries {entries : Entries} {f : Scalar → Value → Value}
    (shown : Shows holds [] (.map label entries))
    (each : ∀ entry ∈ entries,
      Shows holds [] (f entry.1 entry.2) ∧ outline (f entry.1 entry.2) = outline entry.2) :
    Shows holds [] (.map label (entries.map fun (key, value) => (key, f key value))) ∧
      outline (.map label (entries.map fun (key, value) => (key, f key value))) =
        outline (.map label entries) := by
  have same : outlineEntries (entries.map fun (key, value) => (key, f key value)) =
      outlineEntries entries := by
    rw [outlineEntries_eq_map, outlineEntries_eq_map, List.map_map]
    exact List.map_congr_left fun entry member => congrArg _ (each entry member).2
  refine ⟨⟨same ▸ shown.1, showsEntries_iff.mpr fun entry member => ?_⟩, ?_⟩
  · obtain ⟨own, there, rfl⟩ := List.mem_map.mp member
    exact Shows.mono (fun _ _ => id) (List.nil_subset _) _ (each own there).1
  · cases label with
    | none => exact congrArg (Value.map none) same
    | some l => rfl

/-- A value that can stand alone shows what it did when it is written out. -/
theorem Shows.writesOut (sorted : Sorted holds) (grounded : Grounded holds rank)
    (out : WritesOut value written) (shown : Shows holds [] value) :
    Shows holds [] written ∧ outline written = outline value := by
  induction out with
  | refl => exact ⟨shown, rfl⟩
  | list each ih =>
    refine shown.mapItems fun item member => ?_
    obtain ⟨alone, same⟩ := (isPart_of_mem_items shown member).part sorted grounded
    obtain ⟨written, same'⟩ := ih item member alone
    exact ⟨written, same'.trans same⟩
  | map each ih =>
    refine shown.mapEntries fun entry member => ?_
    obtain ⟨alone, same⟩ := (isPart_of_mem_entries shown member).part sorted grounded
    obtain ⟨written, same'⟩ := ih entry member alone
    exact ⟨written, same'.trans same⟩

end WritingOut

/-! ### Values that are not inside themselves -/

mutual

/-- Labels tell whether a container is inside itself, or holds one that is. -/
theorem loops_of_mem_leaves_outline : (value : Value) → value.loops = false →
    ∀ k ∈ (outline value).leaves, k.loops = false
  | .scalar _, _, _, member | .set _ _, _, _, member => nomatch member
  | .pair _ first second, plain, k, member => by
    rw [loops, Bool.or_eq_false_iff] at plain
    rcases List.mem_append.mp member with one | two
    · exact loops_of_mem_leaves_outline first plain.1 k one
    · exact loops_of_mem_leaves_outline second plain.2 k two
  | .list (some _) _, plain, _, member | .map (some _) _, plain, _, member =>
    (congrArg Label.loops (List.mem_singleton.mp member)).trans plain
  | .list none items, plain, k, member => loops_of_mem_leavesOfItems_outline items plain k member
  | .map none entries, plain, k, member =>
    loops_of_mem_leavesOfEntries_outline entries plain k member
  | .again _ _, plain, _, _ => absurd plain Bool.true_eq_false.mp

theorem loops_of_mem_leavesOfItems_outline : (items : List Value) → anyLoops items = false →
    ∀ k ∈ leavesOfItems (outlineItems items), k.loops = false
  | [], _, _, member => nomatch member
  | item :: rest, plain, k, member => by
    rw [anyLoops, Bool.or_eq_false_iff] at plain
    rcases List.mem_append.mp member with first | later
    · exact loops_of_mem_leaves_outline item plain.1 k first
    · exact loops_of_mem_leavesOfItems_outline rest plain.2 k later

theorem loops_of_mem_leavesOfEntries_outline : (entries : List (Scalar × Value)) →
    anyEntryLoops entries = false →
      ∀ k ∈ leavesOfEntries (outlineEntries entries), k.loops = false
  | [], _, _, member => nomatch member
  | (_, value) :: rest, plain, k, member => by
    rw [anyEntryLoops, Bool.or_eq_false_iff] at plain
    rcases List.mem_append.mp member with first | later
    · exact loops_of_mem_leaves_outline value plain.1 k first
    · exact loops_of_mem_leavesOfEntries_outline rest plain.2 k later

end

/-- A value that can stand alone, and in which nothing is inside itself, has no leaves. -/
theorem leaves_eq_nil_of_loops (grounded : Grounded holds rank) {value : Value}
    (shown : Shows holds [] value) (plain : value.loops = false) : value.leaves = [] := by
  have below : ∀ k ∈ (outline value).leaves,
      k.loops = false ∧ rank k < ((outline value).leaves.map rank).sum + 1 := fun k member =>
    ⟨loops_of_mem_leaves_outline value plain k member,
      Nat.lt_succ_of_le (List.le_sum_of_mem (List.mem_map_of_mem member))⟩
  exact Shows.leaves_eq_nil grounded (fun k member => absurd member List.not_mem_nil) value shown
    below

end MarkupLint.Value
