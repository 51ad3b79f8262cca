import MarkupLint.Value.Path

/-!
Keys of mappings. Equality of keys is equality of what they are compared by, so a key may be
looked up under any of its forms (`Scalar.same_congr`). Main statements: setting a key changes what
is found under that key and under no other (`Entries.get?_set`), and the keys stay in the order in
which they were first set (`Entries.keys_set`).
-/
namespace MarkupLint

namespace Scalar

theorem same_comm (a b : Scalar) : a.same b = b.same a := by
  unfold same
  cases a.key? <;> cases b.key? <;> first | rfl | exact BEq.comm

theorem same_iff {a b : Scalar} :
    a.same b = true ↔ ∃ key, a.key? = some key ∧ b.key? = some key := by
  unfold same
  cases own : a.key? with
  | none => simp
  | some key =>
    cases other : b.key? with
    | none => simp
    | some key' =>
      dsimp only
      rw [beq_iff_eq]
      constructor
      · rintro rfl
        exact ⟨key, rfl, rfl⟩
      · rintro ⟨common, ⟨⟩, ⟨⟩⟩
        rfl

/-- Keys that are one are told apart from the same other keys. -/
theorem same_congr {a b : Scalar} (alike : a.same b = true) (c : Scalar) :
    c.same a = c.same b := by
  obtain ⟨key, own, other⟩ := same_iff.mp alike
  unfold same
  rw [own, other]

theorem same_self_of_same {a b : Scalar} (alike : a.same b = true) : b.same b = true := by
  obtain ⟨key, -, own⟩ := same_iff.mp alike
  exact same_iff.mpr ⟨key, own, own⟩

/-- Keys of which no two are one. -/
def AllDiffer (keys : List Scalar) : Prop :=
  keys.Pairwise (·.same · = false)

theorem allDiffer_nil : AllDiffer [] :=
  List.Pairwise.nil

theorem allDiffer_cons {key : Scalar} {rest : List Scalar} :
    AllDiffer (key :: rest) ↔ (∀ other ∈ rest, key.same other = false) ∧ AllDiffer rest :=
  List.pairwise_cons

theorem key?_eq_str {s : Scalar} {name : String} (own : s.key? = some (.str name)) :
    s = .str name := by
  cases s with
  | str text => cases own; rfl
  | float x => cases x <;> cases own
  | _ => cases own

theorem same_str_iff (s : Scalar) (name : String) :
    s.same (.str name) = true ↔ s = .str name := by
  constructor
  · intro alike
    obtain ⟨key, own, other⟩ := same_iff.mp alike
    cases other
    exact key?_eq_str own
  · rintro rfl
    exact BEq.rfl

theorem str_same_iff (s : Scalar) (name : String) :
    (Scalar.str name).same s = true ↔ s = .str name := by
  rw [same_comm, same_str_iff]

end Scalar

namespace Entries

theorem get?_nil (key : Scalar) : get? [] key = none :=
  rfl

theorem get?_cons (entry : Scalar × Value) (rest : Entries) (key : Scalar) :
    get? (entry :: rest) key = if entry.1.same key then some entry.2 else rest.get? key := by
  unfold get?
  rw [List.find?_cons]
  cases entry.1.same key <;> rfl

theorem get?_congr {a b : Scalar} (alike : a.same b = true) (entries : Entries) :
    entries.get? a = entries.get? b := by
  induction entries with
  | nil => rfl
  | cons entry rest ih => rw [get?_cons, get?_cons, Scalar.same_congr alike, ih]

theorem get?_map (entries : Entries) (key : Scalar) (f : Value → Value) :
    Entries.get? (entries.map fun entry => (entry.1, f entry.2)) key =
      (entries.get? key).map f := by
  induction entries with
  | nil => rfl
  | cons entry rest ih =>
    rw [List.map_cons, get?_cons, get?_cons, ih]
    split <;> rfl

/-- A change that may depend on the key, but not on its form. -/
theorem get?_mapWithKey (entries : Entries) (key : Scalar) {f : Scalar → Value → Value}
    (congr : ∀ {other} value, other.same key = true → f other value = f key value) :
    Entries.get? (entries.map fun (key, value) => (key, f key value)) key =
      (entries.get? key).map (f key) := by
  induction entries with
  | nil => rfl
  | cons entry rest ih =>
    rw [List.map_cons, get?_cons, get?_cons, ih]
    by_cases alike : entry.1.same key = true
    · rw [if_pos alike, if_pos alike]
      exact congrArg some (congr entry.2 alike)
    · rw [if_neg alike, if_neg alike]

theorem get?_eq_none_iff {entries : Entries} {key : Scalar} :
    entries.get? key = none ↔ ∀ entry ∈ entries, entry.1.same key = false := by
  rw [get?, Option.map_eq_none_iff, List.find?_eq_none]
  exact forall₂_congr fun entry _ => Bool.eq_false_iff.symm

/-- Where keys differ, each entry is found under its own. -/
theorem get?_of_mem {entries : Entries} {key : Scalar} {value : Value}
    (differ : Scalar.AllDiffer (entries.map (·.1))) (member : (key, value) ∈ entries)
    (self : key.same key = true) : entries.get? key = some value := by
  induction entries with
  | nil => cases member
  | cons entry rest ih =>
    rw [List.map_cons, Scalar.allDiffer_cons, List.forall_mem_map] at differ
    rw [get?_cons]
    rcases List.mem_cons.mp member with rfl | later
    · rw [if_pos self]
    · rw [differ.1 _ later, if_neg Bool.false_ne_true, ih differ.2 later]

/-- Setting a key changes what is found under this key, and nothing else. -/
theorem get?_set (entries : Entries) (key : Scalar) (value : Value) (other : Scalar) :
    (entries.set key value).get? other =
      if key.same other then some value else entries.get? other := by
  induction entries with
  | nil => rw [set, get?_cons]
  | cons entry rest ih =>
    rw [set]
    cases own : entry.1.same key with
    | true =>
      have alike : entry.1.same other = key.same other := by
        rw [Scalar.same_comm, Scalar.same_congr own, Scalar.same_comm]
      rw [if_pos rfl, get?_cons, get?_cons, alike]
      split <;> rfl
    | false =>
      rw [if_neg Bool.false_ne_true, get?_cons, get?_cons, ih]
      split
      next isOther =>
        have apart : key.same other = false := by
          rw [← Scalar.same_congr isOther, Scalar.same_comm, own]
        rw [apart, if_neg Bool.false_ne_true]
      next => rfl

theorem get?_set_str (entries : Entries) (name : String) (value : Value) (other : String) :
    (entries.set (.str name) value).get? (.str other) =
      if name = other then some value else entries.get? (.str other) := by
  have alike : (Scalar.str name).same (.str other) = true ↔ name = other := by
    rw [Scalar.same_str_iff, Scalar.str.injEq]
  simp only [get?_set, alike]

theorem get?_set_own (entries : Entries) (name : String) (value : Value) :
    (entries.set (.str name) value).get? (.str name) = some value := by
  rw [get?_set_str, if_pos rfl]

theorem has_cons (entry : Scalar × Value) (rest : Entries) (key : Scalar) :
    has (entry :: rest) key = (entry.1.same key || rest.has key) := by
  unfold has
  rw [get?_cons]
  cases entry.1.same key <;> rfl

/-- A key that is there keeps its place and its form, and one that is not comes last. -/
theorem keys_set (entries : Entries) (key : Scalar) (value : Value) :
    (entries.set key value).map (·.1) =
      entries.map (·.1) ++ if entries.has key then [] else [key] := by
  induction entries with
  | nil => rfl
  | cons entry rest ih =>
    rw [set, has_cons]
    cases entry.1.same key with
    | true =>
      rw [if_pos rfl, List.map_cons, List.map_cons, Bool.true_or, if_pos rfl, List.append_nil]
    | false =>
      rw [if_neg Bool.false_ne_true, List.map_cons, ih, List.map_cons, Bool.false_or,
        List.cons_append]

/-- Setting a key again forgets what it was set to before. -/
theorem set_set (entries : Entries) (key : Scalar) (old new : Value)
    (self : key.same key = true) : (entries.set key old).set key new = entries.set key new := by
  induction entries with
  | nil => rw [set, set, set, if_pos self]
  | cons entry rest ih =>
    rw [set, set]
    cases own : entry.1.same key with
    | true => rw [if_pos rfl, if_pos rfl, set, own, if_pos rfl]
    | false =>
      rw [if_neg Bool.false_ne_true, if_neg Bool.false_ne_true, set, own,
        if_neg Bool.false_ne_true, ih]

/-- Setting a key to what it holds changes nothing. -/
theorem set_eq_self {entries : Entries} {key : Scalar} {value : Value}
    (found : entries.get? key = some value) : entries.set key value = entries := by
  induction entries with
  | nil => cases found
  | cons entry rest ih =>
    rw [get?_cons] at found
    rw [set]
    split at found
    next own => rw [if_pos own, ← Option.some.inj found]
    next other => rw [if_neg other, ih found]

end Entries

namespace Value

theorem at?_nil (value : Value) : value.at? [] = some value := by
  cases value <;> rfl

theorem at?_cons (label : Option Label) (entries : Entries) (key : Scalar) (path : List Scalar) :
    (Value.map label entries).at? (key :: path) =
      (entries.get? key).bind fun child => child.at? path :=
  rfl

/-- Only a mapping has something below it. -/
theorem at?_cons_eq_none {value : Value} (plain : value.entries? = none) (key : Scalar)
    (path : List Scalar) : value.at? (key :: path) = none := by
  cases value with
  | map label entries => cases plain
  | _ => rfl

theorem exists_map_of_entries? {value : Value} {entries : Entries}
    (own : value.entries? = some entries) : ∃ label, value = .map label entries := by
  cases value with
  | map label own' => cases own; exact ⟨label, rfl⟩
  | _ => cases own

end Value

end MarkupLint
