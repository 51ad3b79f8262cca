import Mathlib.Data.List.Perm.Subperm
import MarkupLint.Proofs.LaidOver
import MarkupLint.Proofs.Leaves
import MarkupLint.Proofs.NodeValues

/-!
The containers of a document as a store. A container has the number of its node, and its label tells
whether it is inside itself; what it holds is told by the shapes of its parts. Main statement: there
is a store that the value of a document shows (`Yaml.exists_store_of_read`).
-/
namespace MarkupLint.Yaml

open MarkupLint.Value

variable {document : Nat}

/-- What the containers of a document hold. Those that are not inside themselves hold only such, and
what they hold comes before them. -/
structure DocumentStore (document : Nat) where
  contents : Label → Value
  rank : Label → Nat
  grounded : ∀ l, l.document = document → l.loops = false →
    ∀ k ∈ (contents l).leaves, k.document = document ∧ k.loops = false ∧ rank k < rank l
  keysDiffer : ∀ l, (contents l).keysDiffer = true

/-- Nothing is held. -/
def DocumentStore.empty (document : Nat) : DocumentStore document where
  contents _ := .null
  rank _ := 0
  grounded _ _ _ _ member := nomatch member
  keysDiffer _ := rfl

def DocumentStore.Holds (store : DocumentStore document) (l : Label) (held : Value) : Prop :=
  l.document = document ∧ store.contents l = held

/-! ### Containers and their parts -/

namespace Object

variable {number : Nat → Label} {l : Label} {part shape : Nat → Value} {object : Object}

def isContainer : Object → Bool
  | .list _ | .map _ | .pairs _ => true
  | .scalar _ | .set _ => false

def isMap : Object → Bool
  | .map _ => true
  | _ => false

theorem isContainer_of_mem_parts {id : Nat} (member : id ∈ object.parts) :
    object.isContainer = true := by
  cases object with
  | scalar | set => cases member
  | list | map | pairs => rfl

/-- A container shows what it holds if its parts have the shapes that are held. -/
theorem shows_assemble {holds : Label → Value → Prop} {around : List Label}
    (own : object.isContainer = true → holds l (object.assemble number none shape))
    (each : ∀ id ∈ object.parts,
      Shows holds (l :: around) (part id) ∧ outline (part id) = shape id) :
    Shows holds around (object.assemble number (some l) part) := by
  cases object with
  | scalar | set => trivial
  | list items =>
    have same : outlineItems (items.map part) = items.map shape := by
      rw [outlineItems_eq_map, List.map_map]
      exact List.map_congr_left fun id member => (each id member).2
    refine ⟨fun k labelled => ?_, showsItems_iff.mpr (List.forall_mem_map.mpr fun id member =>
      (each id member).1)⟩
    cases labelled
    exact same ▸ own rfl
  | map entries =>
    have same : outlineEntries (entries.map fun entry => (entry.1, part entry.2)) =
        entries.map fun entry => (entry.1, shape entry.2) := by
      rw [outlineEntries_eq_map, List.map_map]
      exact List.map_congr_left fun entry member =>
        congrArg (Prod.mk entry.1) (each entry.2 (List.mem_map_of_mem member)).2
    refine ⟨fun k labelled => ?_, showsEntries_iff.mpr (List.forall_mem_map.mpr fun entry member =>
      (each entry.2 (List.mem_map_of_mem member)).1)⟩
    cases labelled
    exact same ▸ own rfl
  | pairs pairs =>
    have inside := fun pair member =>
      And.intro (each _ (mem_parts_pairs_iff.mpr ⟨pair, member, .inl rfl⟩))
        (each _ (mem_parts_pairs_iff.mpr ⟨pair, member, .inr rfl⟩))
    have same : outlineItems (pairs.map fun pair =>
          .pair (number pair.1) (part pair.2.1) (part pair.2.2)) =
        pairs.map fun pair => .pair (number pair.1) (shape pair.2.1) (shape pair.2.2) := by
      rw [outlineItems_eq_map, List.map_map]
      exact List.map_congr_left fun pair member =>
        congrArg₂ (Value.pair (number pair.1)) (inside pair member).1.2 (inside pair member).2.2
    refine ⟨fun k labelled => ?_, showsItems_iff.mpr (List.forall_mem_map.mpr fun pair member =>
      ⟨(inside pair member).1.1, (inside pair member).2.1⟩)⟩
    cases labelled
    exact same ▸ own rfl

theorem mem_leaves_assemble {k : Label}
    (member : k ∈ (object.assemble number none part).leaves) :
    ∃ id ∈ object.parts, k ∈ (part id).leaves := by
  cases object with
  | scalar | set => cases member
  | list items =>
    obtain ⟨item, there, inside⟩ := mem_leavesOfItems.mp member
    obtain ⟨id, listed, rfl⟩ := List.mem_map.mp there
    exact ⟨id, listed, inside⟩
  | map entries =>
    obtain ⟨item, there, inside⟩ := mem_leavesOfEntries.mp member
    obtain ⟨entry, listed, rfl⟩ := List.mem_map.mp there
    exact ⟨entry.2, List.mem_map_of_mem listed, inside⟩
  | pairs pairs =>
    obtain ⟨item, there, inside⟩ := mem_leavesOfItems.mp member
    obtain ⟨pair, listed, rfl⟩ := List.mem_map.mp there
    rcases List.mem_append.mp inside with first | second
    · exact ⟨pair.2.1, mem_parts_pairs_iff.mpr ⟨pair, listed, .inl rfl⟩, first⟩
    · exact ⟨pair.2.2, mem_parts_pairs_iff.mpr ⟨pair, listed, .inr rfl⟩, second⟩

/-- Whatever its parts are, a container with a label is a leaf in an outline. -/
theorem outline_assemble (object : Object) (part other : Nat → Value) :
    outline (object.assemble number (some l) part) =
      outline (object.assemble number (some l) other) := by
  cases object <;> rfl

theorem eq_of_mem_leaves_outline {k : Label}
    (member : k ∈ (outline (object.assemble number (some l) part)).leaves) : k = l := by
  cases object with
  | scalar | set => cases member
  | list | map | pairs => exact List.mem_singleton.mp member

theorem keysDiffer_outline (object : Object) :
    (outline (object.assemble number (some l) part)).keysDiffer = true := by
  cases object <;> rfl

theorem sizeOf_part_lt (number : Nat → Label) (label : Option Label) (part : Nat → Value) {id : Nat}
    (member : id ∈ object.parts) :
    sizeOf (part id) < sizeOf (object.assemble number label part) := by
  cases object with
  | scalar | set => cases member
  | list items =>
    have inside := List.sizeOf_lt_of_mem (List.mem_map_of_mem (f := part) member)
    rw [assemble, Value.list.sizeOf_spec]
    exact Nat.lt_add_left _ inside
  | map entries =>
    obtain ⟨entry, listed, rfl⟩ := List.mem_map.mp member
    rw [assemble, Value.map.sizeOf_spec]
    refine Nat.lt_add_left _ (Nat.lt_of_le_of_lt ?_
      (List.sizeOf_lt_of_mem (List.mem_map.mpr ⟨entry, listed, rfl⟩)))
    exact Nat.le_add_left _ _
  | pairs pairs =>
    obtain ⟨⟨number, first, second⟩, listed, isPart⟩ := mem_parts_pairs_iff.mp member
    rw [assemble, Value.list.sizeOf_spec]
    refine Nat.lt_add_left _ (Nat.lt_of_le_of_lt ?_
      (List.sizeOf_lt_of_mem (List.mem_map.mpr ⟨_, listed, rfl⟩)))
    rw [Value.pair.sizeOf_spec]
    rcases isPart with rfl | rfl <;> omega

end Object

namespace Objects

variable {o : Objects} {made : Made} {id : Nat} {value : Value}

/-! ### The store -/

/-- How the value of a node stands in the contents of others. Of a container that is inside itself,
or holds one that is, no value is known. -/
def shape (o : Objects) (made : Made) (id : Nat) : Value :=
  match o.get? id with
  | none => .null
  | some object => outline (object.assemble (o.label · false)
      (some (o.label id (o.known? made id).isNone)) fun _ => .null)

/-- What the container of a node holds. -/
def held (o : Objects) (made : Made) (id : Nat) : Value :=
  match o.get? id with
  | none => .null
  | some object => object.assemble (o.label · false) none (o.shape made)

def contents (o : Objects) (made : Made) (l : Label) : Value :=
  if l.loops = (o.known? made l.number).isNone then o.held made l.number else .null

theorem keysDiffer_shape (o : Objects) (made : Made) (id : Nat) :
    (o.shape made id).keysDiffer = true := by
  unfold shape
  split
  next => rfl
  next object _ => exact object.keysDiffer_outline

theorem eq_of_mem_leaves_shape {k : Label} (member : k ∈ (o.shape made id).leaves) :
    k = o.label id (o.known? made id).isNone := by
  unfold shape at member
  split at member
  next => cases member
  next => exact Object.eq_of_mem_leaves_outline member

theorem keysDiffer_contents (sound : Sound document o) (made : Made) (l : Label) :
    (o.contents made l).keysDiffer = true := by
  unfold contents held
  split
  next =>
    split
    next => rfl
    next object there =>
      cases object with
      | map entries =>
        refine entryKeysDiffer_iff.mpr ⟨?_, List.forall_mem_map.mpr fun entry _ =>
          keysDiffer_shape o made entry.2⟩
        rw [List.map_map]
        exact sound.keys l.number entries there
      | _ => rfl
  next => rfl

/-- A value that is known is null, or made of an object whose parts are known. -/
theorem Good.cases (good : Good o made) (known : o.known? made id = some value) :
    o.get? id = none ∧ value = .null ∨ ∃ object, o.get? id = some object ∧
      value = object.assemble (o.label · false) (some (o.label id false))
        (fun part => (o.known? made part).getD .null) ∧
      ∀ part ∈ object.parts, ∃ own, o.known? made part = some own ∧ sizeOf own < sizeOf value := by
  have isMade := good.isMade known
  have own := isMade.own
  unfold assembled at own
  split at own
  next absent => exact .inl ⟨absent, own⟩
  next object there =>
    refine .inr ⟨object, there, own, fun part member => ?_⟩
    obtain ⟨child, isChild⟩ := Option.isSome_iff_exists.mp (isMade.parts object there part member)
    have less := Object.sizeOf_part_lt (o.label · false) (some (o.label id false))
      (fun part => (o.known? made part).getD .null) member
    rw [← own, isChild] at less
    exact ⟨child, isChild, less⟩

theorem shape_of_known (good : Good o made) (known : o.known? made id = some value) :
    o.shape made id = outline value := by
  rcases good.cases known with ⟨absent, rfl⟩ | ⟨object, there, rfl, -⟩
  · rw [shape, absent]
    rfl
  · rw [shape, there, known]
    exact object.outline_assemble _ _

/-- What a container that is not inside itself holds was made before it. -/
theorem grounded_contents (good : Good o made) {l k : Label} (plain : l.loops = false)
    (member : k ∈ (o.contents made l).leaves) :
    k.document = o.document ∧ k.loops = false ∧
      sizeOf (o.known? made k.number) < sizeOf (o.known? made l.number) := by
  unfold contents at member
  split at member
  next told =>
    obtain ⟨value, known⟩ := Option.isSome_iff_exists.mp
      (Option.isNone_eq_false_iff.mp (told.symm.trans plain))
    unfold held at member
    rcases good.cases known with ⟨absent, -⟩ | ⟨object, there, -, parts⟩
    · rw [absent] at member
      cases member
    · rw [there] at member
      obtain ⟨part, listed, member⟩ := Object.mem_leaves_assemble member
      obtain ⟨own, isKnown, less⟩ := parts part listed
      have same := eq_of_mem_leaves_shape member
      rw [isKnown] at same
      subst same
      refine ⟨rfl, rfl, ?_⟩
      rw [known]
      change sizeOf (o.known? made part) < _
      rw [isKnown, Option.some.sizeOf_spec, Option.some.sizeOf_spec]
      exact Nat.add_lt_add_left less 1
  next => cases member

/-- The containers of finished objects. -/
noncomputable def store (sound : Sound document o) (good : Good o made) :
    DocumentStore document where
  contents := o.contents made
  rank l := sizeOf (o.known? made l.number)
  grounded _ _ plain _ member := sound.document ▸ grounded_contents good plain member
  keysDiffer := keysDiffer_contents sound made

/-! ### Values -/

section Values

variable (sound : Sound document o) (good : Good o made)

theorem holds_of_get? {object : Object} (there : o.get? id = some object) :
    (store sound good).Holds (o.label id (o.known? made id).isNone)
      (object.assemble (o.label · false) none (o.shape made)) := by
  refine ⟨sound.document, (if_pos rfl).trans ?_⟩
  change o.held made id = _
  rw [held, there]

/-- What is known shows the store. -/
theorem shows_known {around : List Label} (known : o.known? made id = some value) :
    Shows (store sound good).Holds around value := by
  induction size : sizeOf value using Nat.strong_induction_on generalizing id value around with
  | _ n ih =>
    rcases good.cases known with ⟨-, rfl⟩ | ⟨object, there, own, parts⟩
    · trivial
    · have holds := holds_of_get? sound good there
      rw [known] at holds
      rw [own]
      refine Object.shows_assemble (fun _ => holds) fun part member => ?_
      obtain ⟨child, isChild, less⟩ := parts part member
      rw [isChild]
      exact ⟨ih _ (size ▸ less) isChild rfl, (shape_of_known good isChild).symm⟩

omit sound in
include good in
/-- The value of a node inside others, by what is known. -/
theorem valueWithin_cases (fuel : Nat) (around : List Nat) (id : Nat) :
    (∃ value, o.known? made id = some value ∧ o.valueWithin made (fuel + 1) around id = value) ∨
      ∃ object, o.get? id = some object ∧ o.known? made id = none ∧
        o.valueWithin made (fuel + 1) around id =
          if object.isContainer && around.contains id then .again (o.label id true) object.isMap
          else object.assemble (o.label · false) (some (o.label id true))
            (o.valueWithin made fuel (id :: around)) := by
  cases kept : ((made[id]?).join).join with
  | some value => exact .inl ⟨value, good.isKnown kept, by rw [valueWithin, kept]⟩
  | none =>
    cases there : o.get? id with
    | none => exact .inl ⟨.null, by rw [known?, there], by rw [valueWithin, kept, there]⟩
    | some object =>
      refine .inr ⟨object, rfl, by rw [known?, there]; exact kept, ?_⟩
      rw [valueWithin, kept]
      dsimp only
      rw [there]
      cases object <;> rfl

/-- A value shows the store inside the containers that it is within, of which there are never more
than nodes. -/
theorem shows_valueWithin {fuel : Nat} {around : List Nat} (distinct : around.Nodup)
    (inside : ∀ k ∈ around, k < o.objects.size)
    (enough : around.length + fuel = o.objects.size + 1) (id : Nat) :
    Shows (store sound good).Holds (around.map (o.label · true))
        (o.valueWithin made fuel around id) ∧
      outline (o.valueWithin made fuel around id) = o.shape made id := by
  induction fuel generalizing around id with
  | zero =>
    -- Fuel is left as long as there are nodes that are not around.
    have short := (List.subperm_of_subset distinct
      fun k member => List.mem_range.mpr (inside k member)).length_le
    rw [List.length_range] at short
    omega
  | succ fuel ih =>
    rcases valueWithin_cases good fuel around id with ⟨value, known, same⟩ |
      ⟨object, there, unknown, same⟩
    · rw [same]
      exact ⟨shows_known sound good known, (shape_of_known good known).symm⟩
    · have holds := holds_of_get? sound good there
      have isShape : o.shape made id = outline (object.assemble (o.label · false)
          (some (o.label id true)) fun _ => .null) := by rw [shape, there, unknown]; rfl
      rw [unknown] at holds
      rw [same, isShape]
      split
      next isAround =>
        obtain ⟨container, member⟩ := (Bool.and_eq_true _ _).mp isAround
        refine ⟨⟨List.mem_map_of_mem (List.contains_iff_mem.mp member), _, holds, ?_⟩, ?_⟩
        · cases object <;> cases container <;> rfl
        · cases object <;> cases container <;> rfl
      next free =>
        refine ⟨Object.shows_assemble (fun _ => holds) fun part listed => ?_,
          object.outline_assemble _ _⟩
        have fresh : id ∉ around := fun member => free ((Bool.and_eq_true _ _).mpr
          ⟨Object.isContainer_of_mem_parts listed, List.contains_iff_mem.mpr member⟩)
        refine ih (List.nodup_cons.mpr ⟨fresh, distinct⟩) ?_ (by rw [List.length_cons]; omega) part
        exact List.forall_mem_cons.mpr ⟨lt_size_of_get? there, inside⟩

end Values

/-- The value of finished objects shows what their containers hold. -/
theorem exists_store (sound : Sound document o) :
    ∃ store : DocumentStore document, Shows store.Holds [] o.value ∧
      (outline o.value).keysDiffer = true := by
  have start : Good o (.replicate o.objects.size none) := by
    refine ⟨Array.size_replicate, fun id value kept => ?_⟩
    rw [Array.getElem?_replicate] at kept
    split at kept <;> cases kept
  obtain ⟨-, good, -⟩ := finds_plainValue (o.objects.size + 1) o.graph.root _ start
  obtain ⟨shown, same⟩ := shows_valueWithin sound good List.nodup_nil nofun (Nat.zero_add _)
    o.graph.root
  exact ⟨store sound good, shown, same ▸ keysDiffer_shape o _ _⟩

end Objects

/-- There is a store that the value of a text shows. -/
theorem exists_store_of_read {supply : Supply} {value : Value}
    (done : read document supply = .ok value) :
    ∃ store : DocumentStore document, Shows store.Holds [] value ∧
      (outline value).keysDiffer = true := by
  obtain ⟨graph?, -, done⟩ := Config.exists_of_bind_eq_ok done
  cases graph? with
  | none =>
    cases done
    exact ⟨.empty document, trivial, rfl⟩
  | some graph =>
    obtain ⟨o, made, done⟩ := Config.exists_of_bind_eq_ok done
    cases done
    exact Objects.exists_store (Objects.sound_of_ofDocument made)

end MarkupLint.Yaml
