import MarkupLint.Proofs.AcceptedConfig
import MarkupLint.Proofs.DocumentStore
import MarkupLint.Proofs.MetLayers
import MarkupLint.Proofs.PlainValue
import MarkupLint.Proofs.SettingOrder

/-!
Roots as a load makes them. The files of a project have different numbers, so the stores of their
documents are one store; the merged files show it, and settings of the environment leave roots that
show a store (`Config.hasStore_overrideAll`), as those do in which two settings can be made in
either order. Main statement: the configuration that a load gives is written out as far as settings
are read off it (`Config.isWrittenOut_of_load`), so that one that has passed the check can be used.
-/
namespace MarkupLint

namespace Value

variable {holds : Label → Value → Prop} {rank : Label → Nat} {value : Value}

/-! ### Leaves of what is written -/

theorem mem_leaves_set {entries : Entries} {key : Scalar} {value : Value} {k : Label}
    (member : k ∈ leavesOfEntries (entries.set key value)) :
    k ∈ leavesOfEntries entries ∨ k ∈ value.leaves := by
  induction entries with
  | nil => exact .inr (by simpa [Entries.set, leavesOfEntries] using member)
  | cons entry rest ih =>
    rw [Entries.set] at member
    split at member
    next =>
      rcases List.mem_append.mp member with own | later
      · exact .inr own
      · exact .inl (List.mem_append_right _ later)
    next =>
      rcases List.mem_append.mp member with own | later
      · exact .inl (List.mem_append_left _ own)
      · exact (ih later).imp_left (List.mem_append_right _)

theorem leaves_subset_of_get? {entries : Entries} {key : Scalar}
    (found : entries.get? key = some value) : value.leaves ⊆ leavesOfEntries entries := by
  obtain ⟨own, member, -⟩ := mem_of_get? found
  exact fun k mentioned => mem_leavesOfEntries.mpr ⟨_, member, mentioned⟩

/-! ### Values that are written out -/

/-- A value that can stand alone is written out to a depth without leaves down there. -/
theorem Shows.isWrittenOut_unfold (sorted : Sorted holds) (grounded : Grounded holds rank)
    (shown : Shows holds [] value) (depth : Nat) : (value.unfold depth).IsWrittenOut depth := by
  induction depth generalizing value with
  | zero => trivial
  | succ depth ih =>
    cases value with
    | again => exact nomatch shown.1
    | map label entries =>
      refine List.forall_mem_map.mpr fun entry member => ?_
      exact ih ((isPart_of_mem_entries shown member).part sorted grounded).1
    | _ => trivial

theorem isWrittenOut_of_leaves (bare : value.leaves = []) (depth : Nat) :
    value.IsWrittenOut depth := by
  induction depth generalizing value with
  | zero => trivial
  | succ depth ih =>
    cases value with
    | again => cases bare
    | map label entries =>
      refine fun entry member => ih (List.eq_nil_iff_forall_not_mem.mpr fun k mentioned => ?_)
      exact List.eq_nil_iff_forall_not_mem.mp bare k
        (mem_leavesOfEntries.mpr ⟨entry, member, mentioned⟩)
    | _ => trivial

end Value

namespace Override

open MarkupLint.Value

theorem mem_leaves_write {entries written : Entries} {path : List String} {value : Value}
    (done : write entries path value = some written) {k : Label}
    (member : k ∈ leavesOfEntries written) : k ∈ leavesOfEntries entries ∨ k ∈ value.leaves := by
  induction path generalizing entries written with
  | nil => cases done
  | cons part rest ih =>
    cases rest with
    | nil =>
      cases done
      exact mem_leaves_set member
    | cons next rest =>
      rw [write_cons_cons, Option.bind_eq_some_iff] at done
      obtain ⟨entered, found, done⟩ := done
      obtain ⟨child, below, rfl⟩ := Option.map_eq_some_iff.mp done
      refine (mem_leaves_set member).elim .inl fun inside =>
        (ih below inside).imp_left fun old => ?_
      rcases entered?_cases found with rfl | there
      · cases old
      · exact leaves_subset_of_get? there old

/-- The leaves in the entries of a mapping of a store are those of what the store has. -/
theorem leavesOfEntries_contents (store : Store) (owner : Option Label) :
    leavesOfEntries (contents store owner) ⊆ (store owner).leaves := by
  unfold contents
  cases store owner with
  | map label entries => exact List.Subset.refl _
  | _ => exact List.nil_subset _

/-- A root shows a store, in which containers that are not inside themselves have an order. -/
def HasStore (root : Entries) : Prop :=
  ∃ store rank, ShowsRoot store root ∧ Grounded (Holding store) rank

/-- A setting leaves such a root. -/
theorem HasStore.set {root next : Entries} {path : List String} {value : Value}
    (has : HasStore root) (plain : value.labels = [])
    (done : Override.set root path value = .ok next) : HasStore next := by
  obtain ⟨store, rank, shown, grounded⟩ := has
  obtain ⟨place, written, -, wrote, after⟩ := exists_slot?_of_set shown plain done
  refine ⟨_, rank, after, ?_⟩
  rintro l held rfl unlooped k member
  apply grounded l _ rfl unlooped
  by_cases here : some l = place.1
  · rw [here, Function.update_self] at member
    rcases mem_leaves_write wrote member with old | new
    · rw [here]
      exact leavesOfEntries_contents store place.1 old
    · exact absurd (leaves_subset_labels value new) (plain ▸ List.not_mem_nil)
  · rwa [Function.update_of_ne here] at member

end Override

namespace Config

open MarkupLint.Value MarkupLint.Override

/-! ### The stores of files -/

/-- The containers of several documents with those of a root. -/
def storeOf (documents : ∀ n, Yaml.DocumentStore n) (root : Entries) : Store
  | none => .ofEntries (outlineEntries root)
  | some l => (documents l.document).contents l

section Documents

variable (documents : ∀ n, Yaml.DocumentStore n)

theorem grounded_storeOf (root : Entries) :
    Grounded (Holding (storeOf documents root)) fun l => (documents l.document).rank l := by
  rintro l held rfl unlooped k member
  obtain ⟨same, unlooped', before⟩ := (documents l.document).grounded l rfl unlooped k member
  refine ⟨unlooped', ?_⟩
  dsimp only
  rwa [same]

theorem orderly_storeOf (root : Entries) : Orderly (Holding (storeOf documents root)) := by
  rintro l held rfl
  exact (documents l.document).keysDiffer l

/-- What shows the containers of one document shows them among those of others. -/
theorem shows_storeOf {n : Nat} {value : Value} (root : Entries)
    (shown : Shows (documents n).Holds [] value) :
    Shows (Holding (storeOf documents root)) [] value := by
  refine shown.mono ?_ (List.Subset.refl _)
  rintro l held ⟨rfl, own⟩
  exact own

end Documents

/-- Files have different numbers, so that there is a store for each of them. -/
theorem exists_documents (files : List (String × FileContent)) :
    ∃ documents : ∀ n, Yaml.DocumentStore n, ∀ file ∈ numbered files, ∀ value,
      Yaml.read file.1 (.ofBytes file.2.2.bytes) = .ok value →
        Shows (documents file.1).Holds [] value ∧ (outline value).keysDiffer = true := by
  have each : ∀ n, ∃ store : Yaml.DocumentStore n, ∀ file, files[n]? = some file → ∀ value,
      Yaml.read n (.ofBytes file.2.bytes) = .ok value →
        Shows store.Holds [] value ∧ (outline value).keysDiffer = true := by
    intro n
    cases listed : files[n]? with
    | none => exact ⟨.empty n, nofun⟩
    | some file =>
      cases read : Yaml.read n (.ofBytes file.2.bytes) with
      | error fault =>
        refine ⟨.empty n, fun other same value read' => ?_⟩
        cases same
        rw [read] at read'
        cases read'
      | ok value =>
        obtain ⟨store, shown⟩ := Yaml.exists_store_of_read read
        refine ⟨store, fun other same value' read' => ?_⟩
        cases same
        rw [read] at read'
        cases read'
        exact shown
  choose documents spec using each
  refine ⟨documents, fun file member => ?_⟩
  obtain ⟨⟨own, n⟩, there, rfl⟩ := List.mem_map.mp member
  exact spec n own (List.mem_zipIdx_iff_getElem?.mp there)

/-! ### Loading -/

theorem labels_bundled : labelsOfEntries bundled = [] := by decide +kernel

variable {folder : Path} {files : List (String × FileContent)} {merged root : Entries}

/-- The files of a project, merged, are a root that shows a store. -/
theorem hasStore_mergeFiles
    (done : (mergeFiles folder bundled (numbered files)).value = .ok merged) : HasStore merged := by
  obtain ⟨documents, spec⟩ := exists_documents files
  -- What the root holds does not matter to its parts.
  have shown : ShowsEntries (Holding (storeOf documents merged)) [] merged := by
    refine mergeFiles_invariant (showsEntries_of_labels_eq_nil bundled labels_bundled).1 ?_ done
    intro below file next met shown laid
    obtain ⟨layer, read, laid⟩ := exists_of_bind_eq_ok laid
    have sorted := sorted_holding (storeOf documents merged)
    have grounded := grounded_storeOf documents merged
    have orderly := orderly_storeOf documents merged
    rcases layerOf_cases read with rfl | ⟨label, entries, rfl, own⟩
    · have above : ShowsEntries (Holding (storeOf documents merged)) [] [] := trivial
      exact shows_lay sorted grounded orderly shown above.ofEntries rfl laid
    · obtain ⟨above, differ⟩ := spec file met.mem _ own
      exact shows_lay sorted grounded orderly shown (shows_storeOf documents merged above) differ
        laid
  exact ⟨_, _, ⟨rfl, shown⟩, grounded_storeOf documents merged⟩

/-- And so it is after settings of the environment. -/
theorem hasStore_overrideAll {settings : List (String × String)}
    (files : (mergeFiles folder bundled (numbered files)).value = .ok merged)
    (done : (overrideAll merged settings).value = .ok root) : HasStore root := by
  refine overrideAll_invariant (hasStore_mergeFiles files) ?_ done
  intro setting member below next has written
  rcases override_cases written with ⟨-, rfl⟩ | ⟨path, value, -, read, set⟩
  · exact has
  · exact has.set (Override.labels_coerce read) set

/-- The levels that are looked at by name hold no leaves. -/
theorem isWrittenOut_writtenOut (has : HasStore root) :
    (Value.ofEntries (writtenOut root)).IsWrittenOut levels := by
  obtain ⟨store, rank, shown, grounded⟩ := has
  unfold writtenOut unfoldTo
  split
  next => exact shown.parts.ofEntries.isWrittenOut_unfold (sorted_holding store) grounded levels
  next plain =>
    refine isWrittenOut_of_leaves (leaves_eq_nil_of_loops grounded shown.parts.ofEntries ?_) levels
    exact Bool.eq_false_iff.mpr plain

/-- A configuration that is loaded is written out as far as settings are read off it. -/
theorem isWrittenOut_of_load {source : ConfigSource} {check : Bool} {entries : Entries}
    (loaded : (load source check).value = .ok entries) :
    (Value.ofEntries entries).IsWrittenOut levels := by
  obtain ⟨merged, root, files, settings, rfl⟩ := exists_of_load_eq_ok loaded
  exact isWrittenOut_writtenOut (hasStore_overrideAll files settings)

/-- With a check, it has passed the check as well. -/
theorem validate_of_load {source : ConfigSource} {entries : Entries}
    (loaded : (load source true).value = .ok entries) :
    validate (.ofEntries entries) = .ok () := by
  rw [load_value] at loaded
  obtain ⟨made, -, checked⟩ := exists_of_bind_eq_ok loaded
  obtain ⟨⟨⟩, valid, rfl⟩ := exists_of_map_eq_ok checked
  exact valid

end Config

end MarkupLint
