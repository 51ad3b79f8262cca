import Mathlib.Data.List.Pairwise
import MarkupLint.Proofs.Traversal

/-!
Where nodes stand. An address leads from the root of a tree to a node by the place of a child on
every level, and addresses are compared place by place, so that a node comes before the nodes below
it and these before its later siblings. Main statement: the stack visits the nodes in the order of
their addresses, each of them once (`Visit.walk_in_order`), which is the order of the recursion.
-/
namespace MarkupLint

namespace Node

/-- The node that an address leads to. -/
def at? : Node → List Nat → Option Node
  | node, [] => some node
  | node, place :: rest => node.children[place]?.bind fun child => child.at? rest

mutual

/-- The addresses of the nodes below a node, from left to right. -/
def addresses : Node → List (List Nat)
  | mk _ children => addressesFrom 0 children

/-- The addresses of siblings, the first of which has a certain place, and of the nodes below
them. -/
def addressesFrom (place : Nat) : List Node → List (List Nat)
  | [] => []
  | node :: rest => [place] :: ((addresses node).map (place :: ·) ++ addressesFrom (place + 1) rest)

end

/-- Whether some node among siblings, the first of which has a certain place, or below them has
this address. -/
def LeadsFrom (start : Nat) (nodes : List Node) (address : List Nat) : Prop :=
  ∃ place rest node, address = (start + place) :: rest ∧ nodes[place]? = some node ∧
    (node.at? rest).isSome = true

theorem leadsFrom_cons_iff {start : Nat} {node : Node} {more : List Node} {address : List Nat} :
    LeadsFrom start (node :: more) address ↔
      (∃ rest, address = start :: rest ∧ (node.at? rest).isSome = true) ∨
        LeadsFrom (start + 1) more address := by
  constructor
  · rintro ⟨place, rest, found, rfl, here, leads⟩
    cases place with
    | zero => exact .inl ⟨rest, rfl, Option.some.inj here ▸ leads⟩
    | succ place => exact .inr ⟨place, rest, found, by rw [Nat.succ_add_eq_add_succ], here, leads⟩
  · rintro (⟨rest, rfl, leads⟩ | ⟨place, rest, found, rfl, here, leads⟩)
    · exact ⟨0, rest, node, rfl, rfl, leads⟩
    · exact ⟨place + 1, rest, found, by rw [Nat.succ_add_eq_add_succ], here, leads⟩

theorem leadsFrom_zero_iff {nodes : List Node} {place : Nat} {rest : List Nat} :
    LeadsFrom 0 nodes (place :: rest) ↔
      ∃ node, nodes[place]? = some node ∧ (node.at? rest).isSome = true := by
  constructor
  · rintro ⟨_, _, node, same, here, leads⟩
    obtain ⟨rfl, rfl⟩ := List.cons.inj same
    exact ⟨node, by rwa [Nat.zero_add], leads⟩
  · rintro ⟨node, here, leads⟩
    exact ⟨place, rest, node, by rw [Nat.zero_add], here, leads⟩

mutual

/-- The addresses are those that lead to some node below the root. -/
theorem mem_addresses_iff : (node : Node) → (address : List Nat) →
    (address ∈ node.addresses ↔ address ≠ [] ∧ (node.at? address).isSome = true)
  | mk info children, address => by
    rw [addresses, mem_addressesFrom_iff]
    cases address with
    | nil => exact iff_of_false (fun ⟨_, _, _, same, _⟩ => nomatch same) fun held => held.1 rfl
    | cons place rest =>
      rw [leadsFrom_zero_iff, at?, Option.isSome_bind, Option.any_eq_true]
      exact (and_iff_right (List.cons_ne_nil _ _)).symm

theorem mem_addressesFrom_iff (start : Nat) : (nodes : List Node) → (address : List Nat) →
    (address ∈ addressesFrom start nodes ↔ LeadsFrom start nodes address)
  | [], address => by
    rw [addressesFrom]
    exact iff_of_false List.not_mem_nil fun ⟨_, _, _, _, here, _⟩ => nomatch here
  | node :: more, address => by
    rw [addressesFrom, List.mem_cons, List.mem_append, leadsFrom_cons_iff,
      mem_addressesFrom_iff (start + 1) more address, ← or_assoc]
    refine or_congr_left ?_
    constructor
    · rintro (rfl | below)
      · exact ⟨[], rfl, rfl⟩
      · obtain ⟨rest, member, rfl⟩ := List.mem_map.mp below
        exact ⟨rest, rfl, ((mem_addresses_iff node rest).mp member).2⟩
    · rintro ⟨rest, rfl, leads⟩
      cases rest with
      | nil => exact .inl rfl
      | cons place rest =>
        exact .inr (List.mem_map_of_mem
          ((mem_addresses_iff node _).mpr ⟨List.cons_ne_nil _ _, leads⟩))

end

mutual

theorem pairwise_addresses : (node : Node) → node.addresses.Pairwise (· < ·)
  | mk _ children => by
    rw [addresses]
    exact pairwise_addressesFrom 0 children

/-- From left to right addresses grow, since a child stands before what is below it and all that
before the next child. -/
theorem pairwise_addressesFrom (start : Nat) :
    (nodes : List Node) → (addressesFrom start nodes).Pairwise (· < ·)
  | [] => by
    rw [addressesFrom]
    exact .nil
  | node :: more => by
    have below : ((addresses node).map (start :: ·)).Pairwise (· < ·) :=
      (pairwise_addresses node).map _ fun _ _ smaller =>
        List.cons_lt_cons_iff.mpr (.inr ⟨rfl, smaller⟩)
    have later (address : List Nat) (member : address ∈ addressesFrom (start + 1) more)
        (rest : List Nat) : start :: rest < address := by
      obtain ⟨place, behind, -, rfl, -⟩ := (mem_addressesFrom_iff _ _ _).mp member
      exact List.cons_lt_cons_iff.mpr (.inl (by omega))
    rw [addressesFrom, List.pairwise_cons, List.pairwise_append]
    refine ⟨fun address member => ?_, below, pairwise_addressesFrom (start + 1) more,
      fun address member other behind => ?_⟩
    · rcases List.mem_append.mp member with inside | behind
      · obtain ⟨rest, under, rfl⟩ := List.mem_map.mp inside
        obtain ⟨place, further, rfl⟩ :=
          List.exists_cons_of_ne_nil ((mem_addresses_iff node rest).mp under).1
        exact List.cons_lt_cons_iff.mpr (.inr ⟨rfl, List.nil_lt_cons _ _⟩)
      · exact later address behind []
    · obtain ⟨rest, -, rfl⟩ := List.mem_map.mp member
      exact later other behind rest

end

end Node

namespace Visit

open Node

/-- The visit of the node that an address leads to. -/
def at? : Node → List Nat → Option Visit
  | _, [] => none
  | root, [place] => (ofChildren root)[place]?
  | root, place :: next :: rest =>
      root.children[place]?.bind fun child => Visit.at? child (next :: rest)

theorem getElem?_row (siblings before : List Node) (nodes : List Node) (place : Nat) :
    (row siblings before nodes)[place]? =
      nodes[place]?.map fun node => ⟨node, (nodes.take place).reverse ++ before, siblings⟩ := by
  induction nodes generalizing before place with
  | nil => rfl
  | cons node rest ih =>
    cases place with
    | zero => rfl
    | succ place => simp [row, ih]

mutual

/-- Told by their addresses, the nodes below a root are its descendants. -/
theorem map_at?_addresses : (root : Node) →
    root.addresses.map (Visit.at? root) = (descendants root).map some
  | .mk info children => by
    rw [addresses, descendants]
    exact map_at?_addressesFrom (.mk info children) [] children rfl

theorem map_at?_addressesFrom (parent : Node) (before : List Node) : (nodes : List Node) →
    parent.children = before.reverse ++ nodes →
      (addressesFrom before.length nodes).map (Visit.at? parent) =
        (descendantsFrom parent.children before nodes).map some
  | [], _ => by
    rw [addressesFrom, descendantsFrom]
    rfl
  | node :: rest, whole => by
    have place : parent.children[before.length]? = some node := by
      rw [whole, ← List.length_reverse, List.getElem?_append_right (Nat.le_refl _), Nat.sub_self]
      rfl
    have here : Visit.at? parent [before.length] = some ⟨node, before, parent.children⟩ := by
      rw [Visit.at?, ofChildren, getElem?_row, place, whole, ← before.length_reverse,
        List.take_left, List.reverse_reverse, List.append_nil]
      rfl
    have inside : ((addresses node).map (before.length :: ·)).map (Visit.at? parent) =
        (descendants node).map some := by
      rw [← map_at?_addresses node, List.map_map]
      apply List.map_congr_left
      intro address member
      obtain ⟨first, more, rfl⟩ :=
        List.exists_cons_of_ne_nil ((mem_addresses_iff node address).mp member).1
      rw [Function.comp_apply, Visit.at?, place, Option.bind_some]
    have behind := map_at?_addressesFrom parent (node :: before) rest (by simp [whole])
    rw [addressesFrom, descendantsFrom, List.map_cons, List.map_append, inside, here,
      ← List.length_cons, behind, List.map_cons, List.map_append]

end

/-- The stack visits the nodes below a root in document order, as the recursion does: each node that
an address leads to is visited once, before the nodes below it and before its later siblings. -/
theorem walk_in_order (root : Node) :
    walk (ofChildren root) = descendants root ∧
      ∃ addresses : List (List Nat), addresses.Pairwise (· < ·) ∧
        (∀ address, address ∈ addresses ↔ address ≠ [] ∧ (root.at? address).isSome = true) ∧
        addresses.map (Visit.at? root) = (walk (ofChildren root)).map some := by
  refine ⟨walk_ofChildren root, root.addresses, pairwise_addresses root, mem_addresses_iff root, ?_⟩
  rw [walk_ofChildren, map_at?_addresses]

end Visit

end MarkupLint
