import MarkupLint.Proofs.Labels
import MarkupLint.Proofs.Layers

/-!
What a variable holds is a value of its own. Main statement: no part of it has a label, so nothing
that is done to labelled containers reaches it.
-/
namespace MarkupLint

namespace Json

theorem exists_scalar_of_literal? {text after : List Char} {value : Value}
    (read : literal? text = some (value, after)) : ∃ s, value = .scalar s := by
  unfold literal? at read
  dsimp only at read
  obtain ⟨word, found, same⟩ := Option.map_eq_some_iff.mp read
  cases same
  have member := List.mem_of_find?_eq_some found
  simp only [List.mem_cons, List.not_mem_nil, or_false] at member
  rcases member with rfl | rfl | rfl | rfl | rfl | rfl <;> exact ⟨_, rfl⟩

theorem exists_scalar_of_number? {text after : List Char} {value : Value}
    (read : number? text = some (value, after)) : ∃ s, value = .scalar s := by
  unfold number? at read
  dsimp only at read
  obtain ⟨⟨digits, rest⟩, -, read⟩ := Option.bind_eq_some_iff.mp read
  dsimp only at read
  split at read
  next =>
    split at read
    next => cases read
    next => cases read; exact ⟨_, rfl⟩
  next => cases read; exact ⟨_, rfl⟩

theorem eq_some_of_orMalformed_eq_ok {α : Type} {x : Option α} {a : α}
    (done : orMalformed x = .ok a) : x = some a := by
  cases x with
  | none => cases done
  | some own => cases done; rfl

/-- What is read with some fuel has no labels: values, and items and fields that are added to others
without labels. -/
structure ReadsPlain (fuel : Nat) : Prop where
  value {room : Nat} {text after : List Char} {value : Value}
    (read : valueAt fuel room text = .ok (value, after)) : value.labels = []
  items {room : Nat} {text after : List Char} {done items : List Value}
    (read : itemsAt fuel room done text = .ok (items, after))
    (plain : ∀ item ∈ done, item.labels = []) : ∀ item ∈ items, item.labels = []
  fields {room : Nat} {text after : List Char} {done entries : Entries}
    (read : fieldsAt fuel room done text = .ok (entries, after))
    (plain : Value.labelsOfEntries done = []) : Value.labelsOfEntries entries = []

theorem labels_word {text after : List Char} {value : Value}
    (read : orMalformed ((literal? text).orElse fun _ => number? text) = .ok (value, after)) :
    value.labels = [] := by
  have found := eq_some_of_orMalformed_eq_ok read
  have scalar : ∃ s, value = .scalar s := by
    cases word : literal? text with
    | some own =>
      rw [word] at found
      cases found
      exact exists_scalar_of_literal? word
    | none =>
      rw [word] at found
      exact exists_scalar_of_number? found
  obtain ⟨s, rfl⟩ := scalar
  rfl

theorem labels_ofList {items : List Value} (plain : ∀ item ∈ items, item.labels = []) :
    (Value.ofList items).labels = [] := by
  refine List.eq_nil_iff_forall_not_mem.mpr fun l member => ?_
  obtain ⟨item, inside, mentions⟩ := Value.mem_labelsOfItems.mp member
  rw [plain item inside] at mentions
  exact List.not_mem_nil mentions

theorem labelsOfEntries_set {entries : Entries} (plain : Value.labelsOfEntries entries = [])
    (key : Scalar) {value : Value} (own : value.labels = []) :
    Value.labelsOfEntries (entries.set key value) = [] := by
  refine List.eq_nil_iff_forall_not_mem.mpr fun l member => ?_
  rcases Value.labels_set member with inside | inside
  · simp [plain] at inside
  · simp [own] at inside

section Readers

variable {fuel room : Nat} {text after : List Char}

/-- A value is a string, a word, or what the items or fields between its brackets make. -/
theorem ReadsPlain.valueAt_succ (inner : ReadsPlain fuel) {value : Value}
    (read : valueAt (fuel + 1) room text = .ok (value, after)) : value.labels = [] := by
  rw [valueAt.eq_def] at read
  dsimp only at read
  split at read
  next =>
    obtain ⟨⟨s, rest⟩, -, read⟩ := Config.exists_of_bind_eq_ok read
    cases read
    rfl
  next =>
    split at read
    next => cases read
    next =>
      split at read
      next => cases read; rfl
      next =>
        obtain ⟨⟨items, rest⟩, own, same⟩ := Config.exists_of_map_eq_ok read
        cases same
        exact labels_ofList (inner.items own fun item member => absurd member List.not_mem_nil)
  next =>
    split at read
    next => cases read
    next =>
      split at read
      next => cases read; rfl
      next =>
        obtain ⟨⟨entries, rest⟩, own, same⟩ := Config.exists_of_map_eq_ok read
        cases same
        exact inner.fields own rfl
  next => exact labels_word read

/-- One item more, and then the end of the list or the items after it. -/
theorem ReadsPlain.itemsAt_succ (inner : ReadsPlain fuel) {done items : List Value}
    (read : itemsAt (fuel + 1) room done text = .ok (items, after))
    (plain : ∀ item ∈ done, item.labels = []) : ∀ item ∈ items, item.labels = [] := by
  rw [itemsAt] at read
  obtain ⟨⟨item, rest⟩, own, read⟩ := Config.exists_of_bind_eq_ok read
  have more : ∀ other ∈ item :: done, other.labels = [] :=
    List.forall_mem_cons.mpr ⟨inner.value own, plain⟩
  dsimp only at read
  split at read
  next => exact inner.items read more
  next =>
    cases read
    exact fun other member => more other (List.mem_reverse.mp member)
  next => cases read

/-- One field more, and then the end of the mapping or the fields after it. -/
theorem ReadsPlain.fieldsAt_succ (inner : ReadsPlain fuel) {done entries : Entries}
    (read : fieldsAt (fuel + 1) room done text = .ok (entries, after))
    (plain : Value.labelsOfEntries done = []) : Value.labelsOfEntries entries = [] := by
  rw [fieldsAt.eq_def] at read
  dsimp only at read
  split at read
  next =>
    obtain ⟨⟨name, rest⟩, -, read⟩ := Config.exists_of_bind_eq_ok read
    dsimp only at read
    split at read
    next =>
      obtain ⟨⟨value, rest⟩, own, read⟩ := Config.exists_of_bind_eq_ok read
      have more := labelsOfEntries_set plain (.str name) (inner.value own)
      dsimp only at read
      split at read
      next => exact inner.fields read more
      next => cases read; exact more
      next => cases read
    next => cases read
  next => cases read

end Readers

/-- No value of JSON has a label: each reader calls the others with less fuel. -/
theorem readsPlain (fuel : Nat) : ReadsPlain fuel := by
  induction fuel with
  | zero => exact ⟨nofun, nofun, nofun⟩
  | succ fuel inner => exact ⟨inner.valueAt_succ, inner.itemsAt_succ, inner.fieldsAt_succ⟩

theorem labels_read {room : Nat} {text : String} {value : Value}
    (done : read room text = .ok value) : value.labels = [] := by
  unfold read at done
  obtain ⟨⟨own, rest⟩, found, done⟩ := Config.exists_of_bind_eq_ok done
  dsimp only at done
  split at done
  next =>
    cases done
    exact (readsPlain _).value found
  next => cases done

end Json

theorem Override.labels_coerce {text : String} {value : Value} (read : coerce text = .ok value) :
    value.labels = [] := by
  unfold coerce at read
  dsimp only at read
  split at read
  next => cases read; rfl
  next =>
    split at read
    next => cases read; rfl
    next =>
      split at read
      next => obtain ⟨n, -, rfl⟩ := Config.exists_of_map_eq_ok read; rfl
      next =>
        split at read
        next => obtain ⟨x, -, rfl⟩ := Config.exists_of_map_eq_ok read; rfl
        next =>
          split at read
          next =>
            unfold bracketed at read
            split at read
            next own => cases read; exact Json.labels_read own
            next => cases read; rfl
            next => cases read
          next => cases read; rfl

end MarkupLint
