import Mathlib.Logic.Basic
import MarkupLint.Proofs.NodeObjects
import MarkupLint.Yaml.Read

/-!
The values that are made of a document's objects. A collection that is not inside itself is made
once and kept; a node is marked while its value is made, so that one that is met in itself is found
out. Main statement: whatever is kept was made of values that are kept, and making a value keeps
this (`Yaml.Objects.Good`, `Yaml.Objects.finds_plainValue`).
-/
namespace MarkupLint.Yaml

namespace Object

/-- The nodes that an object is made of. -/
def parts : Object → List Nat
  | .list items => items
  | .map entries => entries.map (·.2)
  | .pairs own => own.flatMap fun (_, first, second) => [first, second]
  | .scalar _ | .set _ => []

theorem mem_parts_pairs_iff {pairs : List (Nat × Nat × Nat)} {id : Nat} :
    id ∈ (Object.pairs pairs).parts ↔ ∃ pair ∈ pairs, id = pair.2.1 ∨ id = pair.2.2 := by
  simp [parts]

/-- The value of an object, of those of its parts; a label is for the container that it is, and
`number` are the labels of pairs. -/
def assemble (number : Nat → Label) (label : Option Label) (part : Nat → Value) : Object → Value
  | .scalar s => .scalar s
  | .set members => (label.map (.set · members)).getD .null
  | .list items => .list label (items.map part)
  | .map entries => .map label (entries.map fun (key, id) => (key, part id))
  | .pairs own => .list label (own.map fun (id, first, second) =>
      .pair (number id) (part first) (part second))

/-- Only the values of parts matter. -/
theorem assemble_congr {number : Nat → Label} {label : Option Label} {part other : Nat → Value}
    (object : Object) (same : ∀ id ∈ object.parts, part id = other id) :
    object.assemble number label part = object.assemble number label other := by
  cases object with
  | scalar | set => rfl
  | list items => exact congrArg (Value.list label) (List.map_congr_left same)
  | map entries =>
    refine congrArg (Value.map label) (List.map_congr_left fun entry member => ?_)
    exact congrArg (Prod.mk entry.1) (same entry.2 (List.mem_map_of_mem member))
  | pairs own =>
    refine congrArg (Value.list label) (List.map_congr_left fun pair member => ?_)
    have first := same pair.2.1 (mem_parts_pairs_iff.mpr ⟨pair, member, .inl rfl⟩)
    have second := same pair.2.2 (mem_parts_pairs_iff.mpr ⟨pair, member, .inr rfl⟩)
    dsimp only
    rw [first, second]

end Object

namespace Objects

variable {o : Objects} {made made' : Made} {id : Nat} {value : Value}

/-! ### What is known -/

/-- The value of a node, as far as one is kept; a node without an object is null. -/
def known? (o : Objects) (made : Made) (id : Nat) : Option Value :=
  match o.get? id with
  | none => some .null
  | some _ => ((made[id]?).join).join

/-- The value of a node, of those of its parts. -/
def assembled (o : Objects) (loops : Bool) (part : Nat → Value) (id : Nat) : Value :=
  match o.get? id with
  | none => .null
  | some object => object.assemble (o.label · false) (some (o.label id loops)) part

/-- A value is made of those of its parts, which are known. -/
structure IsMade (o : Objects) (made : Made) (id : Nat) (value : Value) : Prop where
  parts : ∀ object, o.get? id = some object → ∀ part ∈ object.parts,
    (o.known? made part).isSome = true
  own : value = o.assembled false (fun part => (o.known? made part).getD .null) id

/-- Each value that is kept is made of such. -/
structure Good (o : Objects) (made : Made) : Prop where
  size : made.size = o.objects.size
  kept : ∀ id value, ((made[id]?).join).join = some value → IsMade o made id value

/-- What is known in one state is known in another. -/
def Grows (o : Objects) (made made' : Made) : Prop :=
  ∀ id value, o.known? made id = some value → o.known? made' id = some value

/-- Nodes that were met have been left as they were. -/
def Extends (made made' : Made) : Prop :=
  ∀ (id : Nat) known, (made[id]?).join = some known → (made'[id]?).join = some known

theorem Extends.trans {last : Made} (one : Extends made made') (two : Extends made' last) :
    Extends made last :=
  fun id known seen => two id known (one id known seen)

theorem Extends.grows (o : Objects) (extends' : Extends made made') : Grows o made made' := by
  intro id value own
  unfold known? at own ⊢
  split
  next absent => rwa [absent] at own
  next object there =>
    rw [there] at own
    exact Option.join_eq_some_iff.mpr (extends' id _ (Option.join_eq_some_iff.mp own))

theorem IsMade.mono (grows : Grows o made made') (isMade : IsMade o made id value) :
    IsMade o made' id value := by
  have same : ∀ object, o.get? id = some object → ∀ part ∈ object.parts,
      o.known? made' part = o.known? made part := by
    intro object there part member
    obtain ⟨own, known⟩ := Option.isSome_iff_exists.mp (isMade.parts object there part member)
    rw [known, grows part own known]
  constructor
  · intro object there part member
    rw [same object there part member]
    exact isMade.parts object there part member
  · rw [isMade.own, assembled, assembled]
    split
    next => rfl
    next object there =>
      exact object.assemble_congr fun part member => by rw [same object there part member]

theorem lt_size_of_get? {object : Object} (there : o.get? id = some object) :
    id < o.objects.size := by
  refine Nat.lt_of_not_le fun outside => ?_
  rw [get?, Array.getElem?_eq_none outside] at there
  cases there

theorem Good.isMade (good : Good o made) (known : o.known? made id = some value) :
    IsMade o made id value := by
  unfold known? at known
  split at known
  next absent =>
    cases known
    refine ⟨fun object there => ?_, ?_⟩
    · rw [absent] at there
      cases there
    · rw [assembled, absent]
  next => exact good.kept id value known

theorem Good.isKnown (good : Good o made) (kept : ((made[id]?).join).join = some value) :
    o.known? made id = some value := by
  unfold known?
  split
  next absent => rw [(good.kept id value kept).own, assembled, absent]
  next => exact kept

/-- A node that is not known is given a value, or none: what was known still is. -/
theorem Good.set (good : Good o made) (unknown : ((made[id]?).join).join = none)
    {given : Option Value} (own : ∀ value, given = some value → IsMade o made id value) :
    Good o (made.setIfInBounds id (some given)) := by
  have grows : Grows o made (made.setIfInBounds id (some given)) := by
    intro other value known
    unfold known? at known ⊢
    split
    next absent => rwa [absent] at known
    next object there =>
      rw [there] at known
      have apart : id ≠ other := by
        rintro rfl
        dsimp only at known
        rw [unknown] at known
        cases known
      rwa [Array.getElem?_setIfInBounds_ne apart]
  refine ⟨Array.size_setIfInBounds.trans good.size, fun other value kept => ?_⟩
  rw [Array.getElem?_setIfInBounds] at kept
  split at kept
  next same =>
    subst same
    split at kept
    next => exact (own value kept).mono grows
    next => cases kept
  next => exact (good.kept other value kept).mono grows

/-! ### Making values -/

section Steps

variable {α : Type}

theorem all?_cons (value : Value) (rest : List (Option Value)) :
    all? (some value :: rest) = (all? rest).map (value :: ·) := by
  unfold all?
  rw [List.mapM_cons]
  cases rest.mapM id <;> rfl

theorem all?_eq_some_iff {found : List (Option Value)} {values : List Value} :
    all? found = some values ↔ values.map some = found := by
  induction found generalizing values with
  | nil => cases values <;> simp [all?]
  | cons first rest ih =>
    cases first with
    | none => cases values <;> simp [all?, List.mapM_cons]
    | some value =>
      rw [all?_cons, Option.map_eq_some_iff, List.map_eq_cons_iff]
      constructor
      · rintro ⟨others, all, rfl⟩
        exact ⟨value, others, rfl, rfl, ih.mp all⟩
      · rintro ⟨own, others, rfl, ⟨⟩, same⟩
        exact ⟨others, ih.mpr same, rfl⟩

/-- A step that leaves nodes that were met as they were, and of whose outcome this holds. -/
def Finds (o : Objects) (step : StateM Made α) (found : Made → α → Prop) : Prop :=
  ∀ made, Good o made →
    Extends made (step made).2 ∧ Good o (step made).2 ∧ found (step made).2 (step made).1

theorem finds_pure {found : Made → α → Prop} {a : α} (own : ∀ made, Good o made → found made a) :
    Finds o (pure a) found :=
  fun made good => ⟨fun _ _ seen => seen, good, own made good⟩

theorem Finds.map {β : Type} {step : StateM Made α} {found : Made → α → Prop}
    {final : Made → β → Prop} {f : α → β} (one : Finds o step found)
    (own : ∀ made a, found made a → final made (f a)) : Finds o (do return f (← step)) final := by
  intro made good
  obtain ⟨kept, good', there⟩ := one made good
  exact ⟨kept, good', own _ _ there⟩

/-- The value that a step gives is what is known afterwards. -/
abbrev FindsKnown (o : Objects) (step : StateM Made (Option Value)) (known : Made → Option Value) :
    Prop :=
  Finds o step fun made found => ∀ value, found = some value → known made = some value

/-- The values of all items, if there are such, are what is known of them. -/
theorem finds_mapM {step : α → StateM Made (Option Value)} {known : Made → α → Option Value}
    (mono : ∀ {made made'}, Extends made made' → ∀ a value, known made a = some value →
      known made' a = some value) (each : ∀ a, FindsKnown o (step a) (known · a)) (items : List α) :
    Finds o (items.mapM step) fun made found => ∀ values, all? found = some values →
      items.map (known made) = values.map some := by
  induction items with
  | nil =>
    refine finds_pure fun made good values all => ?_
    cases all
    rfl
  | cons item rest ih =>
    intro made good
    obtain ⟨kept, good', own⟩ := each item made good
    obtain ⟨kept', good'', own'⟩ := ih _ good'
    rw [List.mapM_cons]
    refine ⟨kept.trans kept', good'', fun values all => ?_⟩
    obtain ⟨value, others, rfl, first, more⟩ := List.map_eq_cons_iff.mp (all?_eq_some_iff.mp all)
    exact congrArg₂ List.cons (mono kept' item value (own value first.symm))
      (own' others (all?_eq_some_iff.mpr more))

/-- Values that are all known, one by one. -/
theorem eq_map_of_known {items : List α} {values : List Value} {known : α → Option Value}
    (same : items.map known = values.map some) :
    (∀ item ∈ items, (known item).isSome = true) ∧
      values = items.map fun item => (known item).getD .null := by
  constructor
  · intro item member
    have listed : known item ∈ values.map some := same ▸ List.mem_map_of_mem member
    obtain ⟨value, -, own⟩ := List.mem_map.mp listed
    rw [← own, Option.isSome_some]
  · have given := congrArg (List.map (Option.getD · .null)) same
    rw [List.map_map, List.map_map] at given
    exact (List.map_id values).symm.trans given.symm

end Steps

/-- The value of a node, made by a step for each of its parts. -/
def composed (o : Objects) (part : Nat → StateM Made (Option Value)) (id : Nat) :
    StateM Made (Option Value) := do
  let label := o.label id false
  match o.get? id with
  | none => pure (some .null)
  | some (.scalar s) => pure (some (.scalar s))
  | some (.set members) => pure (some (.set label members))
  | some (.list items) => do
      let parts ← items.mapM part
      pure ((all? parts).map (.list (some label)))
  | some (.map entries) => do
      let parts ← entries.mapM fun entry => part entry.2
      pure ((all? parts).map fun values =>
        .map (some label) ((entries.map (·.1)).zip values))
  | some (.pairs pairs) => do
      let parts ← pairs.mapM fun (number, first, second) => do
        let a ← part first
        let b ← part second
        return a.bind fun a => b.map (.pair (o.label number false) a)
      pure ((all? parts).map (.list (some label)))

theorem plainValue_succ (o : Objects) (fuel id : Nat) (made : Made) :
    o.plainValue (fuel + 1) id made =
      match (made[id]?).join with
      | some known => (known, made)
      | none =>
        let (value, made) := o.composed (o.plainValue fuel) id (made.setIfInBounds id (some none))
        (value, made.setIfInBounds id (some value)) := by
  unfold plainValue composed
  simp only [bind, StateT.bind, get, getThe, MonadStateOf.get, StateT.get, pure]
  cases (made[id]?).join with
  | some known => rfl
  | none =>
    cases o.get? id with
    | none => rfl
    | some object => cases object <;> rfl

/-- The value of a pair, if those of its parts are known. -/
def knownPair? (o : Objects) (made : Made) (pair : Nat × Nat × Nat) : Option Value :=
  (o.known? made pair.2.1).bind fun a =>
    (o.known? made pair.2.2).map (.pair (o.label pair.1 false) a)

theorem finds_pair {part : Nat → StateM Made (Option Value)}
    (each : ∀ id, FindsKnown o (part id) (o.known? · id)) (pair : Nat × Nat × Nat) :
    FindsKnown o (do
        let a ← part pair.2.1
        let b ← part pair.2.2
        return a.bind fun a => b.map (.pair (o.label pair.1 false) a))
      (o.knownPair? · pair) := by
  intro made good
  obtain ⟨kept, good', first⟩ := each pair.2.1 made good
  obtain ⟨kept', good'', second⟩ := each pair.2.2 _ good'
  refine ⟨kept.trans kept', good'', fun value both => ?_⟩
  obtain ⟨a, own, both⟩ := Option.bind_eq_some_iff.mp both
  obtain ⟨b, own', rfl⟩ := Option.map_eq_some_iff.mp both
  exact Option.bind_eq_some_iff.mpr ⟨a, kept'.grows o _ a (first a own),
    Option.map_eq_some_iff.mpr ⟨b, second b own', rfl⟩⟩

theorem exists_of_isSome_knownPair? {pair : Nat × Nat × Nat}
    (known : (o.knownPair? made pair).isSome = true) :
    ∃ a b, o.known? made pair.2.1 = some a ∧ o.known? made pair.2.2 = some b := by
  obtain ⟨both, isPair⟩ := Option.isSome_iff_exists.mp known
  obtain ⟨a, own, isPair⟩ := Option.bind_eq_some_iff.mp isPair
  obtain ⟨b, own', -⟩ := Option.map_eq_some_iff.mp isPair
  exact ⟨a, b, own, own'⟩

theorem knownPair?_mono (extends' : Extends made made') (pair : Nat × Nat × Nat) (value : Value)
    (known : o.knownPair? made pair = some value) : o.knownPair? made' pair = some value := by
  obtain ⟨a, own, known⟩ := Option.bind_eq_some_iff.mp known
  obtain ⟨b, own', rfl⟩ := Option.map_eq_some_iff.mp known
  exact Option.bind_eq_some_iff.mpr ⟨a, extends'.grows o _ a own,
    Option.map_eq_some_iff.mpr ⟨b, extends'.grows o _ b own', rfl⟩⟩

theorem isMade_of_get? {object : Object} (there : o.get? id = some object)
    (parts : ∀ part ∈ object.parts, (o.known? made part).isSome = true)
    (own : value = object.assemble (o.label · false) (some (o.label id false))
      fun part => (o.known? made part).getD .null) : IsMade o made id value where
  parts other there' := by
    rw [there] at there'
    cases there'
    exact parts
  own := by rw [own, assembled, there]

theorem isMade_null (absent : o.get? id = none) : IsMade o made id .null where
  parts object there := by
    rw [absent] at there
    cases there
  own := by rw [assembled, absent]

/-- What a step for each part gives is made of what is known of the parts. -/
theorem finds_composed {part : Nat → StateM Made (Option Value)}
    (each : ∀ id, FindsKnown o (part id) (o.known? · id)) (id : Nat) :
    Finds o (o.composed part id) fun made found =>
      ∀ value, found = some value → IsMade o made id value := by
  unfold composed
  dsimp only
  split
  next absent =>
    refine finds_pure fun made good value same => ?_
    cases same
    exact isMade_null absent
  next s there =>
    refine finds_pure fun made good value same => ?_
    cases same
    exact isMade_of_get? there nofun rfl
  next members there =>
    refine finds_pure fun made good value same => ?_
    cases same
    exact isMade_of_get? there nofun rfl
  next items there =>
    refine Finds.map (finds_mapM (fun grown => grown.grows o) each items) ?_
    intro made found all value same
    obtain ⟨values, both, rfl⟩ := Option.map_eq_some_iff.mp same
    obtain ⟨known, rfl⟩ := eq_map_of_known (all values both)
    exact isMade_of_get? there known rfl
  next entries there =>
    refine Finds.map (finds_mapM (fun grown entry => grown.grows o entry.2)
      (fun entry => each entry.2) entries) ?_
    intro made found all value same
    obtain ⟨values, both, rfl⟩ := Option.map_eq_some_iff.mp same
    obtain ⟨known, rfl⟩ := eq_map_of_known (all values both)
    refine isMade_of_get? there (List.forall_mem_map.mpr known) ?_
    rw [List.zip_map']
    rfl
  next pairs there =>
    refine Finds.map (finds_mapM knownPair?_mono (finds_pair each) pairs) ?_
    intro made found all value same
    obtain ⟨values, both, rfl⟩ := Option.map_eq_some_iff.mp same
    obtain ⟨known, rfl⟩ := eq_map_of_known (all values both)
    refine isMade_of_get? there ?_ (congrArg (Value.list _) (List.map_congr_left ?_))
    · intro part member
      obtain ⟨pair, listed, isPart⟩ := Object.mem_parts_pairs_iff.mp member
      obtain ⟨a, b, own, own'⟩ := exists_of_isSome_knownPair? (known pair listed)
      rcases isPart with rfl | rfl
      · exact Option.isSome_of_eq_some own
      · exact Option.isSome_of_eq_some own'
    · intro pair member
      obtain ⟨a, b, own, own'⟩ := exists_of_isSome_knownPair? (known pair member)
      dsimp only
      rw [knownPair?, own, own']
      rfl

/-! ### Marks -/

section Marks

variable {after : Made}

/-- The mark of a node that was met is still there after others have been made. -/
theorem unknown_of_marked (size : after.size = made.size)
    (kept : Extends (made.setIfInBounds id (some none)) after) :
    ((after[id]?).join).join = none := by
  by_cases inside : id < made.size
  · rw [kept id none (by rw [Array.getElem?_setIfInBounds_self_of_lt inside]; rfl)]
    rfl
  · rw [Array.getElem?_eq_none (by rw [size]; exact Nat.not_lt.mp inside)]
    rfl

/-- When the mark gives way to a value, nodes that were met before are left as they were. -/
theorem extends_set (unseen : (made[id]?).join = none) {given : Option Value}
    (kept : Extends (made.setIfInBounds id (some none)) after) :
    Extends made (after.setIfInBounds id (some given)) := by
  intro other known seen
  have apart : id ≠ other := by
    rintro rfl
    rw [unseen] at seen
    cases seen
  rw [Array.getElem?_setIfInBounds_ne apart]
  apply kept
  rwa [Array.getElem?_setIfInBounds_ne apart]

theorem known?_set (good : Good o after) {given : Option Value}
    (own : ∀ value, given = some value → IsMade o after id value) (same : given = some value) :
    o.known? (after.setIfInBounds id (some given)) id = some value := by
  subst same
  unfold known?
  split
  next absent => rw [(own value rfl).own, assembled, absent]
  next object there =>
    rw [Array.getElem?_setIfInBounds_self_of_lt (good.size ▸ lt_size_of_get? there)]
    rfl

end Marks

/-- Making the value of a node keeps that all values are made of such, and what it gives is known
afterwards. -/
theorem finds_plainValue (fuel id : Nat) :
    FindsKnown o (o.plainValue fuel id) (o.known? · id) := by
  induction fuel generalizing id with
  | zero => exact finds_pure fun made good value same => by cases same
  | succ fuel ih =>
    intro made good
    rw [plainValue_succ]
    cases seen : (made[id]?).join with
    | some known =>
      refine ⟨fun _ _ seen => seen, good, fun value same => ?_⟩
      exact good.isKnown (Option.join_eq_some_iff.mpr (seen.trans (congrArg some same)))
    | none =>
      -- The mark stays while the parts are made, so the value is set where none was known.
      have nothing : ∀ value, (none : Option Value) = some value → IsMade o made id value := nofun
      have marked := good.set (by rw [seen]; rfl) nothing
      obtain ⟨kept, good', own⟩ := finds_composed ih id _ marked
      have size := good'.size.trans good.size.symm
      exact ⟨extends_set seen kept, good'.set (unknown_of_marked size kept) own,
        fun value same => known?_set good' own same⟩

end Objects

end MarkupLint.Yaml
