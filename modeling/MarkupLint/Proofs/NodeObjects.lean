import MarkupLint.Proofs.Keys
import MarkupLint.Proofs.Layers

/-!
The objects of a document. They are put and filled one after another; a key that is met again in a
mapping takes the place of the one that is there. Main statement: in the finished objects no mapping
holds a key twice (`Yaml.Objects.sound_of_ofDocument`).
-/
namespace MarkupLint.Yaml.Objects

/-- Objects of a document in which the keys of each mapping differ. -/
structure Sound (document : Nat) (o : Objects) : Prop where
  document : o.document = document
  keys : ∀ id entries, o.get? id = some (.map entries) → Scalar.AllDiffer (entries.map (·.1))

variable {document : Nat} {o next : Objects} {id : Nat}

/-! ### Keys -/

theorem mem_keys_setPart {key other : Scalar} {part : Nat} {entries : List (Scalar × Nat)}
    (member : other ∈ (setPart key part entries).map (·.1)) :
    other ∈ entries.map (·.1) ∨ other = key := by
  induction entries with
  | nil => exact .inr (List.mem_singleton.mp member)
  | cons entry rest ih =>
    rw [setPart] at member
    split at member
    next => exact .inl member
    next =>
      rcases List.mem_cons.mp member with rfl | later
      · exact .inl (.head _)
      · exact (ih later).imp_left (.tail _)

theorem allDiffer_setPart (key : Scalar) (part : Nat) {entries : List (Scalar × Nat)}
    (differ : Scalar.AllDiffer (entries.map (·.1))) :
    Scalar.AllDiffer ((setPart key part entries).map (·.1)) := by
  induction entries with
  | nil => exact Scalar.allDiffer_cons.mpr ⟨nofun, Scalar.allDiffer_nil⟩
  | cons entry rest ih =>
    obtain ⟨first, others⟩ := Scalar.allDiffer_cons.mp differ
    rw [setPart]
    split
    next => exact differ
    next apart =>
      refine Scalar.allDiffer_cons.mpr ⟨fun other member => ?_, ih others⟩
      rcases mem_keys_setPart member with old | rfl
      · exact first other old
      · exact Bool.eq_false_iff.mpr apart

/-! ### Making objects -/

theorem get?_put_cases {object found : Object} {other : Nat}
    (there : (o.put id object).get? other = some found) :
    found = object ∨ o.get? other = some found := by
  rw [get?, put, Array.getElem?_setIfInBounds] at there
  split at there
  next =>
    split at there
    next => exact .inl (Option.some.inj there).symm
    next => cases there
  next => exact .inr there

namespace Sound

theorem put (sound : Sound document o) (id : Nat) {object : Object}
    (own : ∀ entries, object = .map entries → Scalar.AllDiffer (entries.map (·.1))) :
    Sound document (o.put id object) where
  document := sound.document
  keys other entries there := by
    rcases get?_put_cases there with same | old
    · exact own entries same.symm
    · exact sound.keys other entries old

theorem putEmpty (sound : Sound document o) (id : Nat) {object : Object}
    (own : ∀ entries, object = .map entries → Scalar.AllDiffer (entries.map (·.1))) :
    Sound document (o.putEmpty id object) where
  document := sound.document
  keys := (sound.put id own).keys

theorem make (sound : Sound document o) (done : o.make id = .ok next) : Sound document next := by
  unfold Objects.make at done
  split at done
  next => cases done; exact sound
  next =>
    split at done
    next => cases done; exact sound.putEmpty id nofun
    next =>
      cases done
      refine sound.putEmpty id fun entries same => ?_
      cases same
      exact Scalar.allDiffer_nil
    next => cases done; exact sound.putEmpty id nofun
    next => cases done; exact sound.putEmpty id nofun
    next => cases done
    next => cases done
    next => cases done
    next =>
      obtain ⟨s, -, rfl⟩ := Config.exists_of_map_eq_ok done
      exact sound.put id nofun

theorem makeKey {key : Scalar} (sound : Sound document o) (done : o.makeKey id = .ok (key, next)) :
    Sound document next := by
  unfold Objects.makeKey at done
  split at done
  next => cases done
  next made =>
    split at done
    next => cases done; exact sound.make made
    next => cases done

theorem makeAll {ids : List Nat} (sound : Sound document o) (done : o.makeAll ids = .ok next) :
    Sound document next := by
  induction ids generalizing o with
  | nil => cases done; exact sound
  | cons id rest ih =>
    unfold Objects.makeAll at done
    split at done
    next => cases done
    next made => exact ih (sound.make made) done

theorem makeEntries {entries final : List (Scalar × Nat)} {pairs : List (Nat × Nat)}
    (sound : Sound document o) (differ : Scalar.AllDiffer (entries.map (·.1)))
    (done : o.makeEntries entries pairs = .ok (final, next)) :
    Scalar.AllDiffer (final.map (·.1)) ∧ Sound document next := by
  induction pairs generalizing o entries with
  | nil => cases done; exact ⟨differ, sound⟩
  | cons pair rest ih =>
    unfold Objects.makeEntries at done
    split at done
    next => cases done
    next s made isKey =>
      split at done
      next => cases done
      next made' isPart =>
        exact ih ((sound.makeKey isKey).make isPart) (allDiffer_setPart s pair.2 differ) done

theorem entriesOf {entries : List (Scalar × Nat)} (sound : Sound document o)
    (done : o.entriesOf id = .ok (entries, next)) :
    Scalar.AllDiffer (entries.map (·.1)) ∧ Sound document next := by
  unfold Objects.entriesOf at done
  split at done
  next => cases done
  next =>
    split at done
    next => cases done
    next graph _ =>
      have same : Sound document { o with graph := graph } := ⟨sound.document, sound.keys⟩
      have none : Scalar.AllDiffer (([] : List (Scalar × Nat)).map (·.1)) := Scalar.allDiffer_nil
      exact same.makeEntries none done

theorem makePairs {ids : List Nat} {pairs : List (Nat × Nat × Nat)} (sound : Sound document o)
    (done : o.makePairs ids = .ok (pairs, next)) : Sound document next := by
  induction ids generalizing o pairs with
  | nil => cases done; exact sound
  | cons id rest ih =>
    unfold Objects.makePairs at done
    split at done
    next =>
      split at done
      next => cases done
      next made isMade =>
        have before := sound.makeAll isMade
        have same : Sound document { made with next := made.next + 1 } :=
          ⟨before.document, before.keys⟩
        obtain ⟨⟨others, final⟩, more, isPair⟩ := Config.exists_of_map_eq_ok done
        cases isPair
        exact ih same more
    next => cases done

theorem fill (sound : Sound document o) (done : o.fill id = .ok next) : Sound document next := by
  unfold Objects.fill at done
  split at done
  next =>
    obtain ⟨final, made, rfl⟩ := Config.exists_of_map_eq_ok done
    exact (sound.makeAll made).put id nofun
  next =>
    obtain ⟨⟨entries, final⟩, made, rfl⟩ := Config.exists_of_map_eq_ok done
    obtain ⟨differ, after⟩ := sound.entriesOf made
    refine after.put id fun own same => ?_
    cases same
    exact differ
  next =>
    obtain ⟨⟨entries, final⟩, made, rfl⟩ := Config.exists_of_map_eq_ok done
    exact (sound.entriesOf made).2.put id nofun
  next =>
    obtain ⟨⟨pairs, final⟩, made, rfl⟩ := Config.exists_of_map_eq_ok done
    exact (sound.makePairs made).put id nofun
  next => cases done

theorem fillFrom {fuel index : Nat} (sound : Sound document o)
    (done : fillFrom fuel index o = .ok next) : Sound document next := by
  fun_induction Objects.fillFrom fuel index o with
  | case1 => cases done; exact sound
  | case2 => cases done; exact sound
  | case3 => cases done
  | case4 fuel index o id met filled made ih => exact ih (sound.fill made) done

end Sound

/-- The objects of a document are numbered as the document is, and in their mappings keys differ. -/
theorem sound_of_ofDocument {graph : Graph} (done : ofDocument document graph = .ok o) :
    Sound document o := by
  have empty : Sound document (ofGraph document graph) := by
    refine ⟨rfl, fun id entries there => ?_⟩
    rw [get?, ofGraph, Array.getElem?_replicate] at there
    split at there <;> cases there
  unfold ofDocument at done
  split at done
  next => cases done
  next made isMade => exact (empty.make isMade).fillFrom done

end MarkupLint.Yaml.Objects
