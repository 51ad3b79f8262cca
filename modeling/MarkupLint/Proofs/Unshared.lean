import MarkupLint.Proofs.WriteOrder

/-!
Roots in which each container stands in one place and none is inside itself: no label is mentioned
twice. A path is not cut short there, and showing a mapping wherever it occurs changes nothing, so
that a setting does no more than write (`Override.set_of_nodup`) and settings along paths of which
neither goes on from the other can be made in either order (`Override.set_comm_of_nodup`).
-/
namespace MarkupLint

namespace Value

theorem exists_split_of_get? {entries : Entries} {key : Scalar} {value : Value}
    (found : entries.get? key = some value) :
    ∃ front own back, entries = front ++ (own, value) :: back := by
  obtain ⟨own, member, -⟩ := mem_of_get? found
  obtain ⟨front, back, rfl⟩ := List.append_of_mem member
  exact ⟨front, own, back, rfl⟩

theorem labels_sublist_of_get? {entries : Entries} {key : Scalar} {value : Value}
    (found : entries.get? key = some value) : value.labels.Sublist (labelsOfEntries entries) := by
  obtain ⟨front, own, back, rfl⟩ := exists_split_of_get? found
  rw [labelsOfEntries_append, labelsOfEntries]
  exact (List.sublist_append_left _ _).trans (List.sublist_append_right _ _)

/-- What a key comes to hold mentions no more than what it held. -/
theorem labels_set_sublist {entries : Entries} {key : Scalar} {value : Value}
    (fits : value.labels.Sublist ((entries.get? key).elim [] labels)) :
    (labelsOfEntries (entries.set key value)).Sublist (labelsOfEntries entries) := by
  induction entries with
  | nil =>
    have none : value.labels = [] := List.sublist_nil.mp fits
    change (value.labels ++ []).Sublist []
    rw [none]
    exact List.Sublist.refl _
  | cons entry rest ih =>
    rw [Entries.get?_cons] at fits
    rw [Entries.set]
    split at fits
    next own =>
      rw [if_pos own]
      exact fits.append_right _
    next other =>
      rw [if_neg other]
      exact (ih fits).append_left _

theorem labels_subset_of_at?_cons {outer : Option Label} {entries : Entries} {key : Scalar}
    {path : List Scalar} {part : Value}
    (found : (Value.map outer entries).at? (key :: path) = some part) :
    part.labels ⊆ labelsOfEntries entries := by
  obtain ⟨child, there, found⟩ := Option.bind_eq_some_iff.mp found
  exact fun l mentioned => labels_subset_of_get? there (labels_subset_of_at? found mentioned)

section Share

variable {entries own : Entries} {label : Label} {path : List Scalar}

/-- A mapping that stands in one place mentions neither itself nor what is around it, and giving
it its entries anew changes nothing. -/
theorem at?_of_nodup (once : (labelsOfEntries entries).Nodup)
    (found : (Value.map none entries).at? path = some (.map (some label) own)) :
    label ∉ labelsOfEntries own ∧ (∀ x ∈ enclosing entries path, x.1 ∉ labelsOfEntries own) ∧
      replaceEntries (refreshed label own) entries = entries := by
  induction path generalizing entries with
  | nil => cases found
  | cons key rest ih =>
    obtain ⟨child, there, found⟩ := Option.bind_eq_some_iff.mp found
    have onceChild := (labels_sublist_of_get? there).nodup once
    have inside : label ∈ child.labels := labels_subset_of_at? found (.head _)
    have same (fixed : replace (refreshed label own) child = child) :
        replaceEntries (refreshed label own) entries = entries := by
      obtain ⟨front, key', back, rfl⟩ := exists_split_of_get? there
      rw [labelsOfEntries_append, labelsOfEntries, List.nodup_append] at once
      obtain ⟨-, onceBack, before⟩ := once
      have behind := (List.nodup_append.mp onceBack).2.2
      have offFront : label ∉ labelsOfEntries front := fun mentioned =>
        before label mentioned label (List.mem_append_left _ inside) rfl
      have offBack : label ∉ labelsOfEntries back := fun mentioned =>
        behind label inside label mentioned rfl
      have kept := replaceEntries_of_not_mem (@label?_of_refreshed label own) front offFront
      have kept' := replaceEntries_of_not_mem (@label?_of_refreshed label own) back offBack
      rw [replaceEntries_eq_map] at kept kept' ⊢
      rw [List.map_append, List.map_cons, kept, kept', fixed]
    cases rest with
    | nil =>
      rw [at?_nil] at found
      cases found
      refine ⟨(List.nodup_cons.mp onceChild).1, nofun, same ?_⟩
      rw [replace, refreshed, if_pos rfl]
      rfl
    | cons next rest =>
      cases child with
      | map outer child =>
        rw [labels, List.nodup_append] at onceChild
        obtain ⟨-, onceInner, apart⟩ := onceChild
        obtain ⟨absent, off, kept⟩ := ih onceInner found
        have below := labels_subset_of_at?_cons found
        have apart' (l : Label) (labelled : l ∈ outer) (mentioned : l ∈ labelsOfEntries child) :
            False := apart l (Option.mem_toList.mpr labelled) l mentioned rfl
        rw [enclosing_of_get? there]
        refine ⟨absent, ?_, same ?_⟩
        · rw [List.forall_mem_append]
          refine ⟨off, fun x member mentioned => ?_⟩
          obtain ⟨l, labelled, rfl⟩ := List.mem_map.mp member
          exact apart' l (Option.mem_toList.mp labelled) (below (List.mem_append_right _ mentioned))
        · have distinct : outer ≠ some label := by
            rintro rfl
            exact apart' label rfl (below (.head _))
          rw [Override.replace_map_of_kept label?_of_refreshed distinct, kept]
      | _ => cases found

theorem share_of_nodup (once : (labelsOfEntries entries).Nodup) (path : List Scalar) :
    share entries path = entries := by
  unfold share
  split
  next label own found =>
    obtain ⟨absent, off, kept⟩ := at?_of_nodup once found
    rw [standalone_eq_self absent off, refreshEntries_eq_replaceEntries, kept]
  next => rfl

end Share

end Value

namespace Override

open MarkupLint.Text MarkupLint.Value

/-- Nothing leads back into a container where each stands in one place. -/
theorem shortcut?_of_nodup {known : List (Label × List String)} {passed path : List String}
    {value : Value} (once : value.labels.Nodup) (apart : ∀ x ∈ known, x.1 ∉ value.labels) :
    shortcut? known passed value path = none := by
  fun_induction shortcut? known passed value path with
  | case1 known passed label part rest =>
    rw [Option.map_eq_none_iff, List.lookup_eq_none_iff]
    intro x member
    rw [bne_iff_ne]
    rintro rfl
    exact apart x member (.head _)
  | case2 known passed label entries part rest ih =>
    rw [Option.bind_eq_none_iff]
    intro child there
    have inside := labels_subset_of_get? there
    rw [labels, List.nodup_append] at once
    refine ih child ((labels_sublist_of_get? there).nodup once.2.1) ?_
    rw [List.forall_mem_append]
    refine ⟨fun x member mentioned => ?_, fun x member mentioned => ?_⟩
    · obtain ⟨l, labelled, rfl⟩ := List.mem_map.mp member
      exact once.2.2 l labelled l (inside mentioned) rfl
    · exact apart x member (List.mem_append_right _ (inside mentioned))
  | case3 => rfl

theorem direct_of_nodup {root : Entries} (once : (labelsOfEntries root).Nodup) (fuel : Nat)
    (path : List String) : direct root fuel path = path := by
  cases fuel with
  | zero => rfl
  | succ fuel =>
    have whole : (Value.ofEntries root).labels.Nodup := once
    rw [direct, shortcut?_of_nodup whole fun x member => absurd member List.not_mem_nil]

/-- Writing a value without labels brings none in. -/
theorem labels_write_sublist {entries written : Entries} {path : List String} {value : Value}
    (plain : value.labels = []) (done : write entries path value = some written) :
    (labelsOfEntries written).Sublist (labelsOfEntries entries) := by
  induction path generalizing entries written with
  | nil => cases done
  | cons part rest ih =>
    cases rest with
    | nil =>
      cases done
      exact labels_set_sublist (plain ▸ List.nil_sublist _)
    | cons next rest =>
      rw [write_cons_cons, Option.bind_eq_some_iff] at done
      obtain ⟨entered, found, done⟩ := done
      obtain ⟨child, below, rfl⟩ := Option.map_eq_some_iff.mp done
      have inside := ih below
      apply labels_set_sublist
      rcases entered?_cases found with rfl | there
      · have none : labelsOfEntries child = [] := List.sublist_nil.mp inside
        rw [labels, none]
        exact List.nil_sublist _
      · rw [there]
        exact inside.append_left _

variable {root first both : Entries} {path other : List String} {value new : Value}

/-- Where each container stands in one place, a setting writes and does no more. -/
theorem set_of_nodup (once : (labelsOfEntries root).Nodup) (plain : value.labels = [])
    (path : List String) :
    Override.set root path value =
      match write root path value with
      | none => .error (.blockedOverride path)
      | some written => .ok written := by
  unfold Override.set
  dsimp only
  rw [direct_of_nodup once]
  cases wrote : write root path value with
  | none => rfl
  | some written =>
    have onceWritten := (labels_write_sublist plain wrote).nodup once
    exact congrArg Except.ok (foldl_share_eq_self fun place _ => share_of_nodup onceWritten place)

theorem set_eq_ok_iff_of_nodup (once : (labelsOfEntries root).Nodup) (plain : value.labels = []) :
    Override.set root path value = .ok first ↔ write root path value = some first := by
  rw [set_of_nodup once plain]
  cases write root path value <;> simp

/-- Where each container stands in one place, settings along paths of which neither goes on from
the other can be made in either order. -/
theorem set_comm_of_nodup (once : (labelsOfEntries root).Nodup)
    (lower : ∀ part ∈ path, lowered part = part) (lower' : ∀ part ∈ other, lowered part = part)
    (plain : value.labels = []) (plain' : new.labels = []) (apart : Apart path other)
    (one : Override.set root path value = .ok first)
    (two : Override.set first other new = .ok both) :
    ∃ second turned, Override.set root other new = .ok second ∧
      Override.set second path value = .ok turned ∧
      Alike (.ofEntries both) (.ofEntries turned) := by
  rw [set_eq_ok_iff_of_nodup once plain] at one
  have onceFirst := (labels_write_sublist plain one).nodup once
  rw [set_eq_ok_iff_of_nodup onceFirst plain'] at two
  obtain ⟨second, turned, wrote, wrote', alike⟩ := write_comm lower lower' apart one two none
  have onceSecond := (labels_write_sublist plain' wrote).nodup once
  exact ⟨second, turned, (set_eq_ok_iff_of_nodup once plain').mpr wrote,
    (set_eq_ok_iff_of_nodup onceSecond plain).mpr wrote', alike⟩

end Override

end MarkupLint
