import MarkupLint.Proofs.OverrideFrame

/-!
Two settings in either order. What is written at paths of which neither goes on from the other is
the same in both orders but for the order of keys (`Override.write_comm`): under every key that one
of them sets the other one finds what was there before, or goes on in the same mapping. In a root
whose containers each stand in one place nothing more than writing is done, so that settings are in
the same case (`Override.set_of_nodup`).
-/
namespace MarkupLint

namespace Value

/-- The same values under the same keys, which may stand in another order. -/
inductive Alike : Value → Value → Prop
  | refl (value : Value) : Alike value value
  | map {label : Option Label} {entries others : Entries}
      (keys : (entries.map (·.1)).Perm (others.map (·.1)))
      (each : ∀ key value other, entries.get? key = some value → others.get? key = some other →
        Alike value other) :
      Alike (.map label entries) (.map label others)

/-- What one key holds is changed for what is alike. -/
theorem alike_set {entries : Entries} {key : Scalar} {value other : Value}
    (alike : Alike value other) (label : Option Label) :
    Alike (.map label (entries.set key value)) (.map label (entries.set key other)) := by
  refine .map (by rw [Entries.keys_set, Entries.keys_set]) fun found one two there there' => ?_
  rw [Entries.get?_set] at there there'
  split at there
  next same =>
    rw [if_pos same] at there'
    rwa [← Option.some.inj there, ← Option.some.inj there']
  next other =>
    rw [if_neg other, there] at there'
    exact Option.some.inj there' ▸ .refl one

theorem has_set_of_ne (entries : Entries) {key other : Scalar} (value : Value)
    (distinct : key.same other = false) :
    (entries.set key value).has other = entries.has other := by
  rw [Entries.has, Entries.get?_set, distinct, if_neg Bool.false_ne_true, Entries.has]

/-- Setting two keys, it is found what was set last under neither. -/
theorem get?_set_set (entries : Entries) {key other : Scalar} (distinct : key.same other = false)
    (value new : Value) (found : Scalar) :
    ((entries.set key value).set other new).get? found =
      ((entries.set other new).set key value).get? found := by
  simp only [Entries.get?_set]
  by_cases isKey : key.same found = true
  · have apart : other.same found = false := by
      rw [← Scalar.same_congr isKey, Scalar.same_comm, distinct]
    rw [if_pos isKey, if_pos isKey, apart, if_neg Bool.false_ne_true]
  · rw [if_neg isKey, if_neg isKey]

/-- Two keys are set in either order. -/
theorem alike_set_set (entries : Entries) {key other : Scalar} (distinct : key.same other = false)
    (value new : Value) (label : Option Label) :
    Alike (.map label ((entries.set key value).set other new))
      (.map label ((entries.set other new).set key value)) := by
  have distinct' : other.same key = false := by rw [Scalar.same_comm, distinct]
  refine .map ?_ fun found one two there there' => ?_
  · rw [Entries.keys_set, Entries.keys_set, Entries.keys_set, Entries.keys_set,
      has_set_of_ne entries value distinct, has_set_of_ne entries new distinct', List.append_assoc,
      List.append_assoc]
    exact List.perm_append_comm.append_left _
  · rw [get?_set_set entries distinct, there'] at there
    exact Option.some.inj there ▸ .refl one

end Value

namespace Override

open MarkupLint.Text MarkupLint.Value

section Write

variable {entries first both : Entries} {path other : List String} {value new : Value}

/-- Writing sets the key that is meant, to what depends on nothing but what was held there. -/
theorem write_cons_congr {part : String} {rest : List String}
    (done : write entries (part :: rest) value = some first) :
    ∃ held, first = entries.set (.str (resolveKey entries part)) held ∧
      ∀ others : Entries, resolveKey others part = resolveKey entries part →
        others.field? (resolveKey others part) = entries.field? (resolveKey entries part) →
        write others (part :: rest) value =
          some (others.set (.str (resolveKey entries part)) held) := by
  cases rest with
  | nil =>
    cases done
    exact ⟨value, rfl, fun others same _ => by rw [write, same]⟩
  | cons next rest =>
    rw [write_cons_cons, Option.bind_eq_some_iff] at done
    obtain ⟨entered, found, done⟩ := done
    obtain ⟨child, below, rfl⟩ := Option.map_eq_some_iff.mp done
    refine ⟨_, rfl, fun others same held => ?_⟩
    rw [entered?, ← held, ← entered?] at found
    rw [write_cons_cons, found, Option.bind_some, below, same]
    rfl

/-- Writing goes on in the mapping that was written under the key that is meant. -/
theorem write_set_map {part next : String} {rest : List String} (final : lowered part = part)
    (entries child : Entries) (label : Option Label) (value : Value) :
    write (entries.set (.str (resolveKey entries part)) (.map label child)) (part :: next :: rest)
        value =
      (write child (next :: rest) value).map fun below =>
        entries.set (.str (resolveKey entries part)) (.map label below) := by
  have self := (Scalar.same_str_iff (.str (resolveKey entries part)) _).mpr rfl
  rw [write_cons_cons, resolveKey_set_self entries final, entered?, Entries.field?,
    Entries.get?_set_own]
  dsimp only [Option.bind_some]
  congr 1
  exact funext fun below => Entries.set_set entries _ _ _ self

/-- What is written at two paths of which neither goes on from the other can be written in the
other order, and the order of keys apart it is the same then. -/
theorem write_comm (lower : ∀ part ∈ path, lowered part = part)
    (lower' : ∀ part ∈ other, lowered part = part) (apart : Apart path other)
    (one : write entries path value = some first) (two : write first other new = some both)
    (label : Option Label) :
    ∃ second turned, write entries other new = some second ∧ write second path value = some turned ∧
      Alike (.map label both) (.map label turned) := by
  induction path generalizing entries other first both label with
  | nil => cases one
  | cons part rest ih =>
    obtain ⟨final, others⟩ := List.forall_mem_cons.mp lower
    cases other with
    | nil => cases two
    | cons key more =>
      obtain ⟨final', others'⟩ := List.forall_mem_cons.mp lower'
      by_cases same : key = part
      · subst same
        have apart := apart_cons_iff.mp apart
        cases rest with
        | nil => exact absurd List.nil_prefix apart.1
        | cons next rest =>
          cases more with
          | nil => exact absurd List.nil_prefix apart.2
          | cons next' more =>
            rw [write_cons_cons, Option.bind_eq_some_iff] at one
            obtain ⟨entered, found, one⟩ := one
            obtain ⟨child, below, rfl⟩ := Option.map_eq_some_iff.mp one
            rw [write_set_map final] at two
            obtain ⟨last, below', rfl⟩ := Option.map_eq_some_iff.mp two
            obtain ⟨second, turned, wrote, wrote', alike⟩ := ih others others' apart below below'
              entered.1
            let set (child : Entries) : Entries :=
              entries.set (.str (resolveKey entries key)) (.map entered.1 child)
            refine ⟨set second, set turned, ?_, ?_, alike_set alike label⟩
            · rw [write_cons_cons, found, Option.bind_some, wrote]
              rfl
            · rw [write_set_map final, wrote']
              rfl
      · obtain ⟨held, rfl, again⟩ := write_cons_congr one
        obtain ⟨held', rfl, again'⟩ := write_cons_congr two
        obtain ⟨isKey, isField⟩ := field?_set_other entries final final' (Ne.symm same) held
        obtain ⟨isKey', isField'⟩ := field?_set_other entries final' final same held'
        rw [isKey] at again' isField ⊢
        have distinct : (Scalar.str (resolveKey entries part)).same
            (.str (resolveKey entries key)) = false := by
          refine Bool.eq_false_iff.mpr fun alike => same ?_
          have equal := Scalar.str.inj ((Scalar.same_str_iff _ _).mp alike)
          rw [← lowered_resolveKey entries final', ← equal, lowered_resolveKey entries final]
        exact ⟨_, _, again' entries rfl isField.symm, again _ isKey' isField',
          alike_set_set entries distinct held held' label⟩

end Write

end Override

end MarkupLint
