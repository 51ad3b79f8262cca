import MarkupLint.Proofs.AppendedOnce
import MarkupLint.Proofs.Layers
import MarkupLint.Proofs.Leaves

/-!
Layers whose containers may be inside themselves. What is merged has no label, so a leaf in it would
stand for nothing; both sides are written out as far as they meet, and there is an end to that:
where one of them is not inside itself it is no deeper than it stands written
(`Value.meetAt_eq_false_of_leaves`), and otherwise the layer is refused. Main statement: a layer
that can stand alone, laid over such a mapping, leaves such a mapping (`Config.shows_lay`).
-/
namespace MarkupLint

namespace Value

variable {holds : Label → Value → Prop} {rank : Label → Nat}

/-- Keys differ in every container that is held. -/
def Orderly (holds : Label → Value → Prop) : Prop :=
  ∀ l held, holds l held → held.keysDiffer = true

/-! ### Keys -/

/-- The keys of a mapping differ, whether it has a label or not. -/
theorem Shows.keysDiffer (orderly : Orderly holds) {around : List Label} {label : Option Label}
    {entries : Entries} (shown : Shows holds around (.map label entries))
    (differ : (outline (.map label entries)).keysDiffer = true) :
    Scalar.AllDiffer (entries.map (·.1)) ∧
      ∀ entry ∈ entries, (outline entry.2).keysDiffer = true := by
  have outlined : entryKeysDiffer (outlineEntries entries) = true := by
    cases label with
    | none => exact differ
    | some l => exact orderly l _ (shown.1 l rfl)
  rwa [entryKeysDiffer_iff, outlineEntries_keys, outlineEntries_eq_map, List.forall_mem_map]
    at outlined

/-! ### Merging -/

theorem mem_mergeItems {base items : List Value} {item : Value}
    (member : item ∈ mergeItems base items) : item ∈ base ∨ item ∈ items := by
  unfold mergeItems at member
  split at member
  next mark rest =>
    split at member
    next =>
      rw [appendNew_eq] at member
      exact (List.mem_append.mp member).imp_right fun new => .tail _ (firstNew_subset base rest new)
    next =>
      split at member
      next => exact .inr (.tail _ member)
      next => exact .inr member
  next => exact .inr member

/-- When keys differ, each is laid over what the lower mapping has. -/
theorem ShowsEntries.mergeEntries {base incoming : Entries} (below : ShowsEntries holds [] base)
    (differ : Scalar.AllDiffer (incoming.map (·.1)))
    (each : ∀ entry ∈ incoming, Shows holds [] (mergeOver (base.get? entry.1) entry.2)) :
    ShowsEntries holds [] (Value.mergeEntries base incoming) := by
  induction incoming generalizing base with
  | nil => exact below
  | cons entry rest ih =>
    rw [List.map_cons, Scalar.allDiffer_cons, List.forall_mem_map] at differ
    rw [List.forall_mem_cons] at each
    refine ih (below.set entry.1 each.1) differ.2 fun other member => ?_
    rw [Entries.get?_set, differ.1 other member, if_neg Bool.false_ne_true]
    exact each.2 other member

theorem unfoldWith_list (levels : Nat) (l m : Option Label) (items others : List Value) :
    unfoldWith levels (.list l items) (some (.list m others)) =
      .list l (items.map (part (.list l items) l)) := by
  cases levels <;> rfl

/-- Whether both values are mappings, or both are lists. -/
def meets : Value → Value → Bool
  | .map _ _, .map _ _ | .list _ _, .list _ _ => true
  | _, _ => false

theorem meets_comm (value other : Value) : value.meets other = other.meets value := by
  cases value <;> cases other <;> rfl

/-- What meets nothing of its kind is not written out. -/
theorem unfoldWith_eq_self {value other : Value} (levels : Nat)
    (apart : value.meets other = false) : unfoldWith levels value (some other) = value := by
  unfold unfoldWith
  split
  next met => cases met; cases apart
  next met => cases met; cases apart
  next => rfl

/-- It takes the place of what was there. -/
theorem mergeOver_of_meets_eq_false {base layer : Value} (apart : base.meets layer = false) :
    mergeOver (some base) layer = layer := by
  apply mergeOver_eq_self
  · rintro l below m above met rfl
    cases met
    cases apart
  · rintro l below m above met rfl
    cases met
    cases apart

section Over

variable {base layer : Value} {l m : Option Label} {levels levels' : Nat}

theorem Shows.mergeOver_list (sorted : Sorted holds) (grounded : Grounded holds rank)
    {items others : List Value} (below : Shows holds [] (.list l items))
    (above : Shows holds [] (.list m others)) :
    Shows holds []
      (Value.mergeOver (some (Value.unfoldWith levels (.list l items) (some (.list m others))))
        (Value.unfoldWith levels' (.list m others) (some (.list l items)))) := by
  rw [unfoldWith_list, unfoldWith_list, Value.mergeOver]
  refine ⟨(fun _ labelled => by cases labelled), showsItems_iff.mpr fun item member => ?_⟩
  rcases mem_mergeItems member with old | new
  · obtain ⟨own, there, rfl⟩ := List.mem_map.mp old
    exact ((isPart_of_mem_items below there).part sorted grounded).1
  · obtain ⟨own, there, rfl⟩ := List.mem_map.mp new
    exact ((isPart_of_mem_items above there).part sorted grounded).1

/-- Values that are no two mappings can be laid over each other, however deep they are written
out. -/
theorem Shows.mergeOver_of_apart (sorted : Sorted holds) (grounded : Grounded holds rank)
    (below : Shows holds [] base) (above : Shows holds [] layer)
    (apart : ∀ l entries m others, base = .map l entries → layer = .map m others → False) :
    Shows holds [] (Value.mergeOver (some (base.unfoldWith levels (some layer)))
      (layer.unfoldWith levels' (some base))) := by
  cases met : base.meets layer with
  | false =>
    rw [unfoldWith_eq_self levels met, unfoldWith_eq_self levels' (meets_comm layer base ▸ met),
      mergeOver_of_meets_eq_false met]
    exact above
  | true =>
    unfold meets at met
    split at met
    next l entries m others => exact (apart l entries m others rfl rfl).elim
    next => exact Shows.mergeOver_list sorted grounded below above
    next => cases met

/-- What a mapping that is written out has under a key. -/
theorem get?_unfoldWith (levels : Nat) (entries others : Entries) (key : Scalar) :
    Entries.get? (entries.map fun (key, value) =>
        (key, unfoldWith levels (part (.map l entries) l value)
          ((Entries.get? others key).map (part (.map m others) m)))) key =
      (entries.get? key).map fun value =>
        unfoldWith levels (part (.map l entries) l value)
          ((Entries.get? others key).map (part (.map m others) m)) :=
  Entries.get?_mapWithKey
    (f := fun key value => unfoldWith levels (part (.map l entries) l value)
      ((Entries.get? others key).map (part (.map m others) m)))
    entries key fun value alike => by rw [Entries.get?_congr alike others]

/-- Where two values that can stand alone are written out down to where they no longer meet, one can
be laid over the other. -/
theorem Shows.mergeOver (sorted : Sorted holds) (grounded : Grounded holds rank)
    (orderly : Orderly holds) {n : Nat} (enough : n ≤ levels) (enough' : n ≤ levels')
    (below : Shows holds [] base) (above : Shows holds [] layer)
    (differ : (outline layer).keysDiffer = true) (ends : meetAt n base layer = false) :
    Shows holds [] (Value.mergeOver (some (base.unfoldWith levels (some layer)))
      (layer.unfoldWith levels' (some base))) := by
  -- Along the levels at which they meet: each has parts that can stand alone and are written out to
  -- one level less.
  fun_induction meetAt n base layer generalizing levels levels' with
  | case1 => cases ends
  | case2 n l base m layer ih =>
    obtain ⟨levels, rfl⟩ := Nat.exists_eq_succ_of_ne_zero (Nat.ne_zero_of_lt enough)
    obtain ⟨levels', rfl⟩ := Nat.exists_eq_succ_of_ne_zero (Nat.ne_zero_of_lt enough')
    obtain ⟨apart, inside⟩ := above.keysDiffer orderly differ
    rw [Value.unfoldWith, Value.unfoldWith, Value.mergeOver]
    refine (ShowsEntries.mergeEntries ?_ ?_ ?_).ofEntries
    · rw [showsEntries_iff, List.forall_mem_map]
      intro entry member
      obtain ⟨alone, -⟩ := (isPart_of_mem_entries below member).part sorted grounded
      exact (alone.writesOut sorted grounded (writesOut_unfoldWith levels _ _)).1
    · rwa [List.map_map]
    · rw [List.forall_mem_map]
      intro entry member
      obtain ⟨alone, same⟩ := (isPart_of_mem_entries above member).part sorted grounded
      dsimp only
      rw [get?_unfoldWith]
      cases found : Entries.get? base entry.1 with
      | none =>
        have kept : ∀ value, Value.mergeOver none value = value :=
          fun value => mergeOver_eq_self nofun nofun
        rw [Option.map_none, kept]
        exact (alone.writesOut sorted grounded (writesOut_unfoldWith levels' _ _)).1
      | some current =>
        obtain ⟨own, there, alike⟩ := mem_of_get? found
        obtain ⟨alone', -⟩ := (isPart_of_mem_entries below there).part sorted grounded
        have met := Entries.get?_of_mem apart member (Scalar.same_self_of_same alike)
        rw [Option.map_some, Option.map_some, met, Option.map_some]
        refine ih entry.2 current (Nat.le_of_succ_le_succ enough)
          (Nat.le_of_succ_le_succ enough') alone' alone ?_ ?_
        · rw [same]
          exact inside entry member
        · have ends := List.any_eq_false.mp ends entry member
          dsimp only at ends
          rw [found, Option.any_some] at ends
          exact Bool.eq_false_iff.mpr ends
  | case3 n base layer first next =>
    refine Shows.mergeOver_of_apart sorted grounded below above ?_
    rintro l entries m others rfl rfl
    cases n with
    | zero => exact first l entries m others rfl rfl rfl
    | succ n => exact next n l entries m others rfl rfl rfl

end Over

/-! ### Where meeting ends -/

theorem depth_le_of_mem {entries : Entries} {entry : Scalar × Value} (member : entry ∈ entries) :
    entry.2.depth ≤ depthOfEntries entries := by
  induction entries with
  | nil => cases member
  | cons first rest ih =>
    rw [depthOfEntries]
    rcases List.mem_cons.mp member with rfl | later
    · exact Nat.le_max_left _ _
    · exact Nat.le_trans (ih later) (Nat.le_max_right _ _)

/-- What a mapping without leaves holds is a mapping without leaves as it stands, and less deep. -/
theorem part_of_bare {label : Option Label} {entries : Entries} {entry : Scalar × Value} {n : Nat}
    (bare : (Value.map label entries).leaves = []) (short : (Value.map label entries).depth ≤ n + 1)
    (member : entry ∈ entries) :
    let own := part (.map label entries) label entry.2
    own.leaves = [] ∧ own.depth ≤ n := by
  have none : entry.2.leaves = [] := List.eq_nil_iff_forall_not_mem.mpr fun l mentioned =>
    List.eq_nil_iff_forall_not_mem.mp bare l (mem_leavesOfEntries.mpr ⟨entry, member, mentioned⟩)
  dsimp only
  rw [part_of_leaves_eq_nil _ _ none]
  exact ⟨none, Nat.le_trans (depth_le_of_mem member) (Nat.le_of_succ_le_succ short)⟩

/-- A value without leaves meets others no further than it is deep. -/
theorem meetAt_eq_false_of_leaves {n : Nat} {base layer : Value}
    (shallow : base.leaves = [] ∧ base.depth ≤ n ∨ layer.leaves = [] ∧ layer.depth ≤ n) :
    meetAt n base layer = false := by
  fun_induction meetAt n base layer with
  | case1 l base m layer =>
    rcases shallow with ⟨-, short⟩ | ⟨-, short⟩ <;> cases short
  | case2 n l base m layer ih =>
    rw [List.any_eq_false]
    intro entry member
    rw [Bool.not_eq_true, Option.any_eq_false]
    intro current found
    obtain ⟨own, there, -⟩ := mem_of_get? found
    refine ih entry.2 current ?_
    exact shallow.imp (fun bare => part_of_bare bare.1 bare.2 there)
      fun bare => part_of_bare bare.1 bare.2 member
  | case3 => rfl

end Value

namespace Config

open MarkupLint.Value

variable {holds : Label → Value → Prop} {rank : Label → Nat}

/-- A layer is laid only if there is an end to where it meets what is below. -/
theorem exists_meetAt_eq_false (grounded : Grounded holds rank) {base layer : Value}
    (below : Shows holds [] base) (above : Shows holds [] layer)
    (ends : (base.loops && layer.loops && base.meetAt mergeLimit layer) = false) :
    ∃ n ≤ mergeLimit + (base.depth + layer.depth), base.meetAt n layer = false := by
  cases loops : base.loops with
  | false =>
    refine ⟨base.depth, by omega, meetAt_eq_false_of_leaves (.inl ⟨?_, Nat.le_refl _⟩)⟩
    exact leaves_eq_nil_of_loops grounded below loops
  | true =>
    cases loops' : layer.loops with
    | false =>
      refine ⟨layer.depth, by omega, meetAt_eq_false_of_leaves (.inr ⟨?_, Nat.le_refl _⟩)⟩
      exact leaves_eq_nil_of_loops grounded above loops'
    | true =>
      rw [loops, loops'] at ends
      exact ⟨mergeLimit, Nat.le_add_right _ _, ends⟩

theorem meetAt_eq_false_of_lay {base merged : Entries} {layer : Value}
    (laid : lay base layer = .ok merged) :
    ((Value.ofEntries base).loops && layer.loops &&
      (Value.ofEntries base).meetAt mergeLimit layer) = false := by
  unfold lay at laid
  dsimp only at laid
  split at laid
  next => cases laid
  next ends => exact Bool.eq_false_iff.mpr ends

/-- A layer that can stand alone is laid over such a mapping so that what comes out is one. -/
theorem shows_lay (sorted : Sorted holds) (grounded : Grounded holds rank)
    (orderly : Orderly holds) {base merged entries : Entries} {label : Option Label}
    (below : ShowsEntries holds [] base) (above : Shows holds [] (.map label entries))
    (differ : (outline (.map label entries)).keysDiffer = true)
    (laid : lay base (.map label entries) = .ok merged) : ShowsEntries holds [] merged := by
  obtain ⟨n, enough, ends⟩ := exists_meetAt_eq_false grounded below.ofEntries above
    (meetAt_eq_false_of_lay laid)
  obtain ⟨own, isBelow, merge⟩ := mergeLayer_of_lay laid
  obtain ⟨own', isAbove⟩ := exists_unfoldAlong_map label entries (.ofEntries base)
  rw [isAbove, mergeLayer_map] at merge
  cases merge
  have shown := Shows.mergeOver sorted grounded orderly enough
    (Nat.add_comm (depth _) _ ▸ enough) below.ofEntries above differ ends
  unfold unfoldAlong at isBelow isAbove
  rw [Value.ofEntries] at isBelow isAbove
  rw [isBelow, isAbove, mergeOver] at shown
  exact shown.2

end Config

end MarkupLint
