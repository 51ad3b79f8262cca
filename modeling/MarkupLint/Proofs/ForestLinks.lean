import Mathlib.Data.List.Nodup
import MarkupLint.Markup.Forest

/-!
Links and lists of a forest. A forest grows by making nodes and adding them, and where no node is
added twice, the links to parents and the lists of children agree and no list has a node twice: this
holds of one step (`Forest.Linked.alloc`, `Forest.Linked.add`), hence of every forest that is built
so (`Forest.Built.linked`), planted trees among them (`Forest.built_plant`).
-/
namespace MarkupLint.Forest

variable {forest : Forest} {info : Info} {parent child id : Nat}

/-- Links and lists agree. -/
structure Linked (forest : Forest) : Prop where
  mem_children_iff (parent child : Nat) :
    child ∈ forest.children parent ↔ forest.parent? child = some parent
  nodup (parent : Nat) : (forest.children parent).Nodup

/-! ### Making and adding nodes -/

theorem parent?_eq_none (beyond : forest.size ≤ id) : forest.parent? id = none := by
  rw [parent?, Array.getElem?_eq_none beyond, Option.bind_none]

theorem lt_size_of_parent? (linked : forest.parent? child = some parent) :
    child < forest.size := by
  by_contra beyond
  rw [parent?_eq_none (Nat.not_lt.mp beyond)] at linked
  cases linked

@[simp] theorem size_alloc : (forest.alloc info).size = forest.size + 1 :=
  Array.size_push _

@[simp] theorem parent?_alloc : (forest.alloc info).parent? id = forest.parent? id := by
  rw [parent?, parent?, alloc, Array.getElem?_push]
  split_ifs with new
  · rw [new, Array.getElem?_eq_none (Nat.le_refl _)]
    rfl
  · rfl

@[simp] theorem children_alloc : (forest.alloc info).children id = forest.children id := by
  rw [children, children, alloc, Array.getElem?_push]
  split_ifs with new
  · rw [new, Array.getElem?_eq_none (Nat.le_refl _)]
    rfl
  · rfl

theorem exists_info?_of_lt (known : id < forest.size) : ∃ info, forest.info? id = some info :=
  ⟨_, by rw [info?, Array.getElem?_eq_getElem known]; rfl⟩

@[simp] theorem size_add : (forest.add parent child).size = forest.size := by
  rw [add]
  split
  · rfl
  · simp [size]

theorem parent?_add (parentKnown : parent < forest.size) (childKnown : child < forest.size) :
    (forest.add parent child).parent? id =
      if id = child then some parent else forest.parent? id := by
  obtain ⟨above, own⟩ := exists_info?_of_lt parentKnown
  simp only [parent?, add, own, Array.getElem?_modify, eq_comm (a := id)]
  by_cases new : child = id
  · subst new
    rw [Array.getElem?_eq_getElem childKnown]
    split_ifs <;> rfl
  · rw [if_neg new, if_neg new]
    cases forest.slots[id]? <;> split_ifs <;> rfl

theorem children_add (parentKnown : parent < forest.size) :
    (forest.add parent child).children id =
      if id = parent then forest.children id ++ [child] else forest.children id := by
  obtain ⟨above, own⟩ := exists_info?_of_lt parentKnown
  simp only [children, add, own, Array.getElem?_modify, eq_comm (a := id)]
  by_cases under : parent = id
  · subst under
    rw [Array.getElem?_eq_getElem parentKnown]
    split_ifs <;> rfl
  · rw [if_neg under, if_neg under]
    cases forest.slots[id]? <;> split_ifs <;> rfl

theorem Linked.alloc (linked : Linked forest) (info : Info) : Linked (forest.alloc info) where
  mem_children_iff parent child := by
    rw [children_alloc, parent?_alloc, linked.mem_children_iff]
  nodup parent := by
    rw [children_alloc]
    exact linked.nodup parent

theorem Linked.notMem_children (linked : Linked forest) (free : forest.parent? child = none) :
    child ∉ forest.children parent := by
  rw [linked.mem_children_iff, free]
  exact nofun

theorem Linked.add (linked : Linked forest) (parentKnown : parent < forest.size)
    (childKnown : child < forest.size) (free : forest.parent? child = none) :
    Linked (forest.add parent child) where
  mem_children_iff above id := by
    rw [children_add parentKnown, parent?_add parentKnown childKnown]
    by_cases new : id = child
    · subst new
      have absent : id ∉ forest.children above := linked.notMem_children free
      by_cases under : above = parent
      · simp [under]
      · simp [under, absent, Ne.symm under]
    · by_cases under : above = parent <;> simp [under, new, linked.mem_children_iff]
  nodup above := by
    rw [children_add parentKnown]
    split_ifs
    · rw [← List.concat_eq_append]
      exact (linked.nodup above).concat (linked.notMem_children free)
    · exact linked.nodup above

/-! ### Forests that are built -/

/-- Forests that come from making nodes and adding each of them to another one at most once. -/
inductive Built : Forest → Prop
  | empty : Built {}
  | alloc {forest : Forest} (built : Built forest) (info : Info) : Built (forest.alloc info)
  | add {forest : Forest} {parent child : Nat} (built : Built forest)
      (parentKnown : parent < forest.size) (childKnown : child < forest.size)
      (free : forest.parent? child = none) : Built (forest.add parent child)

theorem Built.linked (built : Built forest) : Linked forest := by
  induction built with
  | empty => exact ⟨fun _ _ => by simp [children, parent?], fun _ => by simp [children]⟩
  | alloc _ info ih => exact ih.alloc info
  | add _ parentKnown childKnown free ih => exact ih.add parentKnown childKnown free

mutual

/-- A forest stays built when a tree is planted in it. -/
theorem built_plant : (node : Node) → ∀ (forest : Forest) (above? : Option Nat), Built forest →
    (∀ above ∈ above?, above < forest.size) →
      Built (forest.plant above? node) ∧ forest.size < (forest.plant above? node).size
  | .mk info children => by
    intro forest above? built known
    have grown : Built (forest.alloc info) := built.alloc info
    cases above? with
    | none =>
      have below := built_plantAll children _ forest.size grown (by simp)
      rwa [size_alloc] at below
    | some above =>
      have added : Built ((forest.alloc info).add above forest.size) := by
        refine grown.add (by simpa using Nat.lt_succ_of_lt (known above rfl)) (by simp) ?_
        rw [parent?_alloc, parent?_eq_none (Nat.le_refl _)]
      have below := built_plantAll children _ forest.size added (by simp)
      rwa [size_add, size_alloc] at below

theorem built_plantAll : (nodes : List Node) → ∀ (forest : Forest) (parent : Nat), Built forest →
    parent < forest.size →
      Built (forest.plantAll parent nodes) ∧ forest.size ≤ (forest.plantAll parent nodes).size
  | [] => fun _ _ built _ => ⟨built, Nat.le_refl _⟩
  | node :: rest => by
    intro forest parent built known
    have first := built_plant node forest (some parent) built (by simpa using known)
    have others := built_plantAll rest _ parent first.1 (Nat.lt_trans known first.2)
    exact ⟨others.1, Nat.le_trans (Nat.le_of_lt first.2) others.2⟩

end

end MarkupLint.Forest
