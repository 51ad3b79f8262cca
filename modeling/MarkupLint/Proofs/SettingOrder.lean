import MarkupLint.Proofs.StoreWrite
import MarkupLint.Proofs.Unshared

/-!
Settings in either order, also where containers stand in several places. A place is told by the
mapping of the store that a path has come to last and the parts from there, so that two paths may
lead past one place, or to it, although neither goes on from the other. Main statement: settings of
which neither sets a place that the other comes past or sets can be made in either order, and leave
the same mappings (`Override.set_comm`). The roots in which a load makes settings show a store
(`Config.hasStore_overrideAll`).
-/
namespace MarkupLint

namespace Override

open MarkupLint.Text MarkupLint.Value

/-- Neither of two paths sets a place that the other one comes past or sets. -/
structure Separate (store : Store) (path other : List String) : Prop where
  own : ∀ place, slot? store (atRoot store) path = some place →
    place ∉ trail store (atRoot store) other
  other : ∀ place, slot? store (atRoot store) other = some place →
    place ∉ trail store (atRoot store) path

/-- The same mappings and lists, under the same labels, but for the order of keys. -/
def SameButOrder (root other : Entries) : Prop :=
  ∃ store store', ShowsRoot store root ∧ ShowsRoot store' other ∧
    ∀ owner, Alike (store owner) (store' owner)

variable {store : Store} {root first both : Entries} {path other : List String}
  {value new : Value}

/-- Places in one mapping that are set by paths of which neither comes past what the other sets
are apart. -/
theorem Separate.apart {owner : Option Label} {rel rel' : List String}
    (separate : Separate store path other)
    (own : slot? store (atRoot store) path = some (owner, rel))
    (own' : slot? store (atRoot store) other = some (owner, rel')) (nonempty : rel ≠ [])
    (nonempty' : rel' ≠ []) : Apart rel rel' := by
  have outside {before : List String} (nonempty : before ≠ []) :
      (atRoot store).owner = owner → ¬before <+: (atRoot store).passed :=
    fun _ begins => nonempty (List.prefix_nil.mp begins)
  constructor
  · exact fun begins => separate.own _ own
      (mem_trail_of_slot? own' begins (outside nonempty) nonempty)
  · exact fun begins => separate.other _ own'
      (mem_trail_of_slot? own begins (outside nonempty') nonempty')

theorem lowered_of_slot? {place : Place} (lower : ∀ part ∈ path, lowered part = part)
    (own : slot? store (atRoot store) path = some place) :
    ∀ part ∈ place.2, lowered part = part := fun part member =>
  lower part ((mem_of_slot? own member).resolve_left List.not_mem_nil)

theorem ne_nil_of_write {entries written : Entries}
    (done : write entries path value = some written) : path ≠ [] := by
  rintro rfl
  cases done

theorem exists_slot?_of_set (shown : ShowsRoot store root) (plain : value.labels = [])
    (done : Override.set root path value = .ok first) :
    ∃ place written, slot? store (atRoot store) path = some place ∧
      write (contents store place.1) place.2 value = some written ∧
      ShowsRoot (Function.update store place.1 (.ofEntries written)) first := by
  have cases := set_shows shown path plain
  split at cases
  next =>
    rw [cases] at done
    cases done
  next place own =>
    obtain ⟨written, next, wrote, isSet, after⟩ := cases
    rw [isSet] at done
    cases done
    exact ⟨place, written, own, wrote, after⟩

theorem exists_set_of_slot? {place : Place} (shown : ShowsRoot store root)
    (plain : value.labels = []) (own : slot? store (atRoot store) path = some place) :
    ∃ written next, write (contents store place.1) place.2 value = some written ∧
      Override.set root path value = .ok next ∧
      ShowsRoot (Function.update store place.1 (.ofEntries written)) next := by
  have cases := set_shows shown path plain
  rw [own] at cases
  exact cases

/-- What two settings leave in a store does not depend on their order but for the order of keys,
if they set places apart where they set them in one mapping. -/
theorem alike_update_update {place place' : Place} {written written' second turned : Entries}
    (lower : ∀ part ∈ place.2, lowered part = part)
    (lower' : ∀ part ∈ place'.2, lowered part = part)
    (apart : place.1 = place'.1 → Apart place.2 place'.2)
    (one : write (contents store place.1) place.2 value = some written)
    (two : write (contents (Function.update store place.1 (.ofEntries written)) place'.1) place'.2
      new = some written')
    (one' : write (contents store place'.1) place'.2 new = some second)
    (two' : write (contents (Function.update store place'.1 (.ofEntries second)) place.1) place.2
      value = some turned) (owner : Option Label) :
    Alike
      (Function.update (Function.update store place.1 (.ofEntries written)) place'.1
        (.ofEntries written') owner)
      (Function.update (Function.update store place'.1 (.ofEntries second)) place.1
        (.ofEntries turned) owner) := by
  obtain ⟨mapping, rel⟩ := place
  obtain ⟨mapping', rel'⟩ := place'
  dsimp only at *
  by_cases same : mapping = mapping'
  · subst same
    rw [contents, Function.update_self] at two two'
    obtain ⟨second', turned', isSecond, isTurned, alike⟩ :=
      write_comm lower lower' (apart rfl) one two none
    rw [one'] at isSecond
    cases isSecond
    change write second rel value = some turned at two'
    rw [two'] at isTurned
    cases isTurned
    rw [Function.update_idem, Function.update_idem]
    by_cases here : owner = mapping
    · subst here
      rw [Function.update_self, Function.update_self]
      exact alike
    · rw [Function.update_of_ne here, Function.update_of_ne here]
      exact .refl _
  · rw [contents, Function.update_of_ne (Ne.symm same), ← contents, one'] at two
    rw [contents, Function.update_of_ne same, ← contents, one] at two'
    cases two
    cases two'
    rw [Function.update_comm same]
    exact .refl _

/-- In a store, settings that are separate can be made in either order. -/
theorem set_comm_of_separate (shown : ShowsRoot store root)
    (lower : ∀ part ∈ path, lowered part = part) (lower' : ∀ part ∈ other, lowered part = part)
    (plain : value.labels = []) (plain' : new.labels = []) (separate : Separate store path other)
    (one : Override.set root path value = .ok first)
    (two : Override.set first other new = .ok both) :
    ∃ second turned, Override.set root other new = .ok second ∧
      Override.set second path value = .ok turned ∧ SameButOrder both turned := by
  obtain ⟨place, written, own, wrote, shownFirst⟩ := exists_slot?_of_set shown plain one
  obtain ⟨place', written', own', wrote', shownBoth⟩ := exists_slot?_of_set shownFirst plain' two
  -- Neither path is led elsewhere by the other setting.
  have placeLower := lowered_of_slot? lower own
  rw [slot?_update wrote placeLower lower' (separate.own _ own)] at own'
  have placeLower' := lowered_of_slot? lower' own'
  obtain ⟨writtenSecond, second, wroteSecond, isSecond, shownSecond⟩ :=
    exists_set_of_slot? shown plain' own'
  have ownSecond := own
  rw [← slot?_update wroteSecond placeLower' lower (separate.other _ own')] at ownSecond
  obtain ⟨writtenTurned, turned, wroteTurned, isTurned, shownTurned⟩ :=
    exists_set_of_slot? shownSecond plain ownSecond
  refine ⟨second, turned, isSecond, isTurned, _, _, shownBoth, shownTurned, ?_⟩
  refine alike_update_update placeLower placeLower' (fun same => ?_) wrote wrote' wroteSecond
    wroteTurned
  have inOne : slot? store (atRoot store) other = some (place.1, place'.2) := by
    rw [own', same]
  exact separate.apart own inOne (ne_nil_of_write wrote) (ne_nil_of_write wrote')

/-- Two settings that succeed in one order succeed in the other one too, and leave the same but for
the order of keys: where each container stands in one place, if neither path goes on from the other,
and else if neither sets a place that the other comes past or sets. -/
theorem set_comm (lower : ∀ part ∈ path, lowered part = part)
    (lower' : ∀ part ∈ other, lowered part = part) (plain : value.labels = [])
    (plain' : new.labels = []) (one : Override.set root path value = .ok first)
    (two : Override.set first other new = .ok both) :
    ((labelsOfEntries root).Nodup → Apart path other →
      ∃ second turned, Override.set root other new = .ok second ∧
        Override.set second path value = .ok turned ∧
        Alike (.ofEntries both) (.ofEntries turned)) ∧
    ∀ store, ShowsRoot store root → Separate store path other →
      ∃ second turned, Override.set root other new = .ok second ∧
        Override.set second path value = .ok turned ∧ SameButOrder both turned :=
  ⟨fun once apart => set_comm_of_nodup once lower lower' plain plain' apart one two,
    fun _ shown separate =>
      set_comm_of_separate shown lower lower' plain plain' separate one two⟩

/-- Settings below a key that holds nothing and has another spelling, and settings of two keys of a
mapping that stands in two places, one through each. -/
theorem set_comm_below_null_and_shared :
    let spellings : Entries := [(.str "A", .ofEntries [(.str "x", .int 1)]), (.str "a", .null)]
    let shared : Label := ⟨0, 1, false⟩
    let mapping : Value := .map (some shared) [(.str "x", .int 1)]
    let root : Entries := [(.str "one", mapping), (.str "two", mapping)]
    (∃ first both second turned,
      Override.set spellings ["a", "b"] (.int 5) = .ok first ∧
      Override.set first ["a", "c"] (.int 6) = .ok both ∧
      Override.set spellings ["a", "c"] (.int 6) = .ok second ∧
      Override.set second ["a", "b"] (.int 5) = .ok turned ∧
      Alike (.ofEntries both) (.ofEntries turned)) ∧
    ∃ first both second turned,
      Override.set root ["one", "x"] (.int 5) = .ok first ∧
      Override.set first ["two", "y"] (.int 6) = .ok both ∧
      Override.set root ["two", "y"] (.int 6) = .ok second ∧
      Override.set second ["one", "x"] (.int 5) = .ok turned ∧ SameButOrder both turned := by
  intro spellings shared mapping root
  constructor
  · obtain ⟨first, one, holds⟩ := Config.exists_of_any_toOption
      (p := fun first => (Override.set first ["a", "c"] (.int 6)).toOption.any fun _ => true)
      (by decide +kernel : (Override.set spellings ["a", "b"] (.int 5)).toOption.any _ = true)
    obtain ⟨both, two, -⟩ := Config.exists_of_any_toOption holds
    have apart : Apart ["a", "b"] ["a", "c"] := apart_cons_iff.mpr (apart_of_ne [] [] (by decide))
    obtain ⟨second, turned, done⟩ := (set_comm (by decide +kernel) (by decide +kernel) rfl rfl
      one two).1 List.nodup_nil apart
    exact ⟨first, both, second, turned, one, two, done⟩
  · let store : Store := fun owner => .ofEntries <|
      if owner = none then [(.str "one", .again shared true), (.str "two", .again shared true)]
      else [(.str "x", .int 1)]
    have shown : ShowsRoot store root := by
      refine ⟨rfl, ⟨?_, trivial, trivial⟩, ⟨?_, trivial, trivial⟩, trivial⟩ <;>
      · intro l labelled
        cases labelled
        rfl
    have separate : Separate store ["one", "x"] ["two", "y"] := by
      have ownX : slot? store (atRoot store) ["one", "x"] = some (some shared, ["x"]) := by
        decide +kernel
      have ownY : slot? store (atRoot store) ["two", "y"] = some (some shared, ["y"]) := by
        decide +kernel
      constructor
      · rintro place own
        obtain rfl := Option.some.inj (ownX.symm.trans own)
        decide +kernel
      · rintro place own
        obtain rfl := Option.some.inj (ownY.symm.trans own)
        decide +kernel
    obtain ⟨first, one, holds⟩ := Config.exists_of_any_toOption
      (p := fun first => (Override.set first ["two", "y"] (.int 6)).toOption.any fun _ => true)
      (by decide +kernel : (Override.set root ["one", "x"] (.int 5)).toOption.any _ = true)
    obtain ⟨both, two, -⟩ := Config.exists_of_any_toOption holds
    obtain ⟨second, turned, done⟩ := (set_comm (by decide +kernel) (by decide +kernel) rfl rfl
      one two).2 store shown separate
    exact ⟨first, both, second, turned, one, two, done⟩

end Override

namespace Config

open Override

/-- A mapping that a file puts in two places is one object: settings through each of the places set
the same key of it, so that the later one wins although neither path goes on from the other; and
where a mapping holds itself, a setting may stop the walk of another one. -/
theorem set_not_comm_of_shared :
    let file : String × FileContent :=
      ("a.yaml", { bytes := Utf8.encode "one: &c\n  x: 1\ntwo: *c\n" })
    let inside : Label := ⟨0, 1, true⟩
    let root : Entries := [(.str "a", .map (some inside) [(.str "b", .again inside true)])]
    (∃ merged first both second turned,
      (mergeFiles {} {} (numbered [file])).value = .ok merged ∧
      Apart ["one", "x"] ["two", "x"] ∧
      Override.set merged ["one", "x"] (.int 5) = .ok first ∧
      Override.set first ["two", "x"] (.int 6) = .ok both ∧
      Override.set merged ["two", "x"] (.int 6) = .ok second ∧
      Override.set second ["one", "x"] (.int 5) = .ok turned ∧
      (Value.ofEntries both).at? [.str "one", .str "x"] ≠
        (Value.ofEntries turned).at? [.str "one", .str "x"]) ∧
    Apart ["a", "b", "c"] ["a", "b", "b"] ∧
    (∃ first both, Override.set root ["a", "b", "c"] (.int 5) = .ok first ∧
      Override.set first ["a", "b", "b"] (.int 6) = .ok both) ∧
    ∃ second, Override.set root ["a", "b", "b"] (.int 6) = .ok second ∧
      ∀ turned, Override.set second ["a", "b", "c"] (.int 5) ≠ .ok turned := by
  intro file inside root
  refine ⟨?_, ?_, ?_, ?_⟩
  · let oneIsSix (entries : Entries) : Bool :=
      ((Value.ofEntries entries).at? [.str "one", .str "x"]).any (·.same (.int 6))
    let differ (merged : Entries) : Bool :=
      (Override.set merged ["one", "x"] (.int 5)).toOption.any fun first =>
        (Override.set first ["two", "x"] (.int 6)).toOption.any fun both =>
          (Override.set merged ["two", "x"] (.int 6)).toOption.any fun second =>
            (Override.set second ["one", "x"] (.int 5)).toOption.any fun turned =>
              oneIsSix both && !oneIsSix turned
    obtain ⟨merged, files, holds⟩ := exists_of_any_toOption
      (by decide +kernel : (mergeFiles {} {} (numbered [file])).value.toOption.any differ = true)
    obtain ⟨first, one, holds⟩ := exists_of_any_toOption holds
    obtain ⟨both, two, holds⟩ := exists_of_any_toOption holds
    obtain ⟨second, one', holds⟩ := exists_of_any_toOption holds
    obtain ⟨turned, two', holds⟩ := exists_of_any_toOption holds
    obtain ⟨six, other⟩ := (Bool.and_eq_true _ _).mp holds
    refine ⟨merged, first, both, second, turned, files, apart_of_ne _ _ (by decide), one, two, one',
      two', fun same => ?_⟩
    dsimp only [oneIsSix] at six other
    rw [← same, six] at other
    cases other
  · exact apart_cons_iff.mpr (apart_cons_iff.mpr (apart_of_ne [] [] (by decide)))
  · obtain ⟨first, one, holds⟩ := exists_of_any_toOption
      (p := fun first => (Override.set first ["a", "b", "b"] (.int 6)).toOption.any fun _ => true)
      (by decide +kernel : (Override.set root ["a", "b", "c"] (.int 5)).toOption.any _ = true)
    obtain ⟨both, two, -⟩ := exists_of_any_toOption holds
    exact ⟨first, both, one, two⟩
  · obtain ⟨second, one, stopped⟩ := exists_of_any_toOption
      (p := fun second => (Override.set second ["a", "b", "c"] (.int 5)).toOption.isNone)
      (by decide +kernel : (Override.set root ["a", "b", "b"] (.int 6)).toOption.any _ = true)
    refine ⟨second, one, fun turned two => ?_⟩
    rw [two] at stopped
    cases stopped

end Config

end MarkupLint
