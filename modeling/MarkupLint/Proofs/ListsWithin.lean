import MarkupLint.Proofs.OverridePath
import MarkupLint.Value.Merge

/-!
The lists that are reached through mappings (`Value.listsIn`), and what holds of all of them. Items
of a list may be written out, shown anew or made leaves without the list becoming another: texts
stay where they are, and so does all that has no label (`Value.Harmless`). Main statements: what is
left alone by such changes holds of every list after containers are replaced, written out or
shared and after a value is set, if it holds of every list before and of those of the value.
-/
namespace MarkupLint

namespace Value

mutual

/-- The lists that are reached through mappings, those inside other lists left out. -/
def listsIn : Value → List (List Value)
  | .list _ items => [items]
  | .map _ entries => listsInEntries entries
  | _ => []

def listsInEntries : List (Scalar × Value) → List (List Value)
  | [] => []
  | (_, value) :: rest => listsIn value ++ listsInEntries rest

end

/-- What holds of every list that is reached through mappings. -/
def EachList (p : List Value → Prop) (value : Value) : Prop :=
  ∀ items ∈ value.listsIn, p items

variable {p : List Value → Prop}

theorem eachList_map_iff {label : Option Label} {entries : Entries} :
    EachList p (.map label entries) ↔ ∀ entry ∈ entries, EachList p entry.2 := by
  rw [EachList, listsIn]
  induction entries with
  | nil => simp [listsInEntries]
  | cons entry rest ih =>
    rw [listsInEntries, List.forall_mem_append, ih, List.forall_mem_cons]
    rfl

theorem eachList_list_iff {label : Option Label} {items : List Value} :
    EachList p (.list label items) ↔ p items := by
  simp [EachList, listsIn]

theorem EachList.of_get? {entries : Entries} {label : Option Label} {key : Scalar} {value : Value}
    (each : EachList p (.map label entries)) (found : entries.get? key = some value) :
    EachList p value := by
  obtain ⟨own, member, -⟩ := mem_of_get? found
  exact eachList_map_iff.mp each _ member

theorem EachList.of_at? {value part : Value} {path : List Scalar} (each : EachList p value)
    (found : value.at? path = some part) : EachList p part := by
  induction path generalizing value with
  | nil => cases value <;> cases found <;> exact each
  | cons key rest ih =>
    cases value with
    | map label entries =>
      obtain ⟨child, own, found⟩ := Option.bind_eq_some_iff.mp found
      exact ih (each.of_get? own) found
    | _ => cases found

theorem EachList.set {entries : Entries} {label : Option Label} {key : Scalar} {value : Value}
    (each : EachList p (.map label entries)) (own : EachList p value) :
    EachList p (.map label (entries.set key value)) := by
  rw [eachList_map_iff] at each ⊢
  induction entries with
  | nil => simpa [Entries.set] using own
  | cons entry rest ih =>
    obtain ⟨first, others⟩ := List.forall_mem_cons.mp each
    rw [Entries.set]
    split
    next => exact List.forall_mem_cons.mpr ⟨own, others⟩
    next => exact List.forall_mem_cons.mpr ⟨first, ih others⟩

/-! ### Changes to items -/

/-- A change that makes no scalar, changes none, and leaves alone what has no label. -/
structure Harmless (f : Value → Value) : Prop where
  scalar : ∀ v s, f v = .scalar s ↔ v = .scalar s
  plain : ∀ v, v.labels = [] → f v = v

theorem Harmless.comp {f g : Value → Value} (outer : Harmless f) (inner : Harmless g) :
    Harmless fun v => f (g v) where
  scalar v s := (outer.scalar _ s).trans (inner.scalar v s)
  plain v none := by rw [inner.plain v none, outer.plain v none]

theorem harmless_id : Harmless id where
  scalar _ _ := Iff.rfl
  plain _ _ := rfl

theorem harmless_replace {swap : Value → Option Value} {label : Label}
    (only : ∀ u w, swap u = some w → u.label? = some label)
    (solid : ∀ u w, swap u = some w → ∀ s, w ≠ .scalar s) : Harmless (replace swap) where
  plain v none := replace_of_not_mem only v (none ▸ List.not_mem_nil)
  scalar v s := by
    cases v with
    | scalar own => rfl
    | list l items =>
      rw [replace]
      cases swapped : swap (.list l items) with
      | none => simp
      | some w => simpa using solid _ w swapped s
    | map l entries =>
      rw [replace]
      cases swapped : swap (.map l entries) with
      | none => simp
      | some w => simpa using solid _ w swapped s
    | again l mapping =>
      rw [replace]
      cases swapped : swap (.again l mapping) with
      | none => simp
      | some w => simpa using solid _ w swapped s
    | _ => simp [replace]

theorem harmless_unfold (depth : Nat) : Harmless (unfold depth) where
  plain v none := unfold_of_labels_eq_nil depth none
  scalar v s := by
    cases depth with
    | zero => rfl
    | succ depth => cases v <;> simp [unfold]

mutual

/-- A list of a value mentions no labels but those of the value. -/
theorem labels_subset_of_mem_listsIn : (value : Value) → {items : List Value} →
    items ∈ value.listsIn → labelsOfItems items ⊆ value.labels
  | .list label own, items, member => by
    rw [listsIn, List.mem_singleton] at member
    exact member ▸ List.subset_append_right _ _
  | .map label entries, items, member => fun _ mentioned =>
    List.mem_append_right _ (labels_subset_of_mem_listsInEntries entries member mentioned)
  | .scalar _, _, member => nomatch member
  | .pair _ _ _, _, member => nomatch member
  | .set _ _, _, member => nomatch member
  | .again _ _, _, member => nomatch member

theorem labels_subset_of_mem_listsInEntries : (entries : List (Scalar × Value)) →
    {items : List Value} → items ∈ listsInEntries entries →
      labelsOfItems items ⊆ labelsOfEntries entries
  | (key, value) :: rest, items, member => fun _ mentioned => by
    rw [labelsOfEntries, List.mem_append]
    rcases List.mem_append.mp member with own | later
    · exact .inl (labels_subset_of_mem_listsIn value own mentioned)
    · exact .inr (labels_subset_of_mem_listsInEntries rest later mentioned)

end

theorem Harmless.map_eq_self {f : Value → Value} (harmless : Harmless f) {items : List Value}
    (plain : labelsOfItems items = []) : items.map f = items := by
  have each : ∀ item ∈ items, f item = id item := by
    intro item member
    apply harmless.plain
    rw [List.eq_nil_iff_forall_not_mem] at plain ⊢
    exact fun l mentioned => plain l (mem_labelsOfItems.mpr ⟨item, member, mentioned⟩)
  exact (List.map_congr_left each).trans items.map_id

/-- What such changes leave alone. -/
def IsStable (p : List Value → Prop) : Prop :=
  ∀ f items, Harmless f → p items → p (items.map f)

variable {swap : Value → Option Value}

mutual

/-- Replacing containers keeps what holds of every list, if what is put in keeps it. -/
theorem EachList.replace (stable : IsStable p) (harmless : Harmless (replace swap))
    (fresh : ∀ u w, EachList p u → swap u = some w → EachList p w) :
    (value : Value) → EachList p value → EachList p (value.replace swap)
  | .scalar _, each => each
  | .list l items, each => by
    rw [Value.replace]
    cases swapped : swap (.list l items) with
    | none =>
      rw [Option.getD_none, replaceItems_eq_map, eachList_list_iff]
      exact stable _ items harmless (eachList_list_iff.mp each)
    | some w => exact fresh _ w each swapped
  | .pair _ _ _, _ => nofun
  | .set _ _, each => each
  | .map l entries, each => by
    rw [Value.replace]
    cases swapped : swap (.map l entries) with
    | none => exact EachList.replaceEntries stable harmless fresh l entries each
    | some w => exact fresh _ w each swapped
  | .again l mapping, each => by
    rw [Value.replace]
    cases swapped : swap (.again l mapping) with
    | none => exact each
    | some w => exact fresh _ w each swapped

theorem EachList.replaceEntries (stable : IsStable p) (harmless : Harmless (replace swap))
    (fresh : ∀ u w, EachList p u → swap u = some w → EachList p w) (label : Option Label) :
    (entries : List (Scalar × Value)) → EachList p (.map label entries) →
      EachList p (.map label (Value.replaceEntries swap entries))
  | [], each => each
  | (key, value) :: rest, each => by
    rw [eachList_map_iff, List.forall_mem_cons] at each
    have others := EachList.replaceEntries stable harmless fresh label rest
      (eachList_map_iff.mpr each.2)
    rw [Value.replaceEntries, eachList_map_iff, List.forall_mem_cons]
    exact ⟨EachList.replace stable harmless fresh value each.1, eachList_map_iff.mp others⟩

end

/-! ### Writing out -/

theorem list_ne_scalar (label : Option Label) (items : List Value) (s : Scalar) :
    Value.list label items ≠ .scalar s := nofun

theorem map_ne_scalar (label : Option Label) (entries : Entries) (s : Scalar) :
    Value.map label entries ≠ .scalar s := nofun

theorem harmless_filled {label : Label} {container : Value} (solid : ∀ s, container ≠ .scalar s) :
    Harmless (Value.replace (filled label container)) := by
  refine harmless_replace label?_of_filled fun u w swapped => ?_
  rcases filled_cases swapped with ⟨rfl, own⟩ | rfl
  · exact own
  · exact solid

theorem harmless_part {container : Value} (solid : ∀ s, container ≠ .scalar s)
    (label : Option Label) : Harmless (part container label) := by
  cases label with
  | none => exact harmless_id
  | some l =>
    unfold part
    dsimp only
    split
    next => exact (funext (fill_eq_replace l container)) ▸ harmless_filled solid
    next => exact harmless_id

theorem EachList.part (stable : IsStable p) {container value : Value}
    (solid : ∀ s, container ≠ .scalar s) (whole : EachList p container) (label : Option Label)
    (each : EachList p value) : EachList p (part container label value) := by
  unfold Value.part
  split
  next l =>
    split
    next =>
      rw [fill_eq_replace]
      refine EachList.replace stable (harmless_filled solid) (fun u w own swapped => ?_) value each
      rcases filled_cases swapped with ⟨rfl, -⟩ | rfl
      · exact own
      · exact whole
    next => exact each
  next => exact each

theorem EachList.unfold (stable : IsStable p) (depth : Nat) {value : Value}
    (each : EachList p value) : EachList p (value.unfold depth) := by
  induction depth generalizing value with
  | zero => exact each
  | succ depth ih =>
    cases value with
    | list label items =>
      rw [Value.unfold, eachList_list_iff]
      have harmless := (harmless_unfold depth).comp
        (harmless_part (list_ne_scalar label items) label)
      exact stable _ items harmless (eachList_list_iff.mp each)
    | map label entries =>
      rw [Value.unfold, eachList_map_iff, List.forall_mem_map]
      intro entry member
      exact ih (EachList.part stable (map_ne_scalar label entries) each label
        (eachList_map_iff.mp each entry member))
    | _ => exact each

theorem EachList.unfoldWith (stable : IsStable p) (levels : Nat) {value : Value}
    (each : EachList p value) (other : Option Value) :
    EachList p (unfoldWith levels value other) := by
  fun_induction Value.unfoldWith levels value other with
  | case1 levels l items m others =>
    exact eachList_list_iff.mpr
      (stable _ items (harmless_part (list_ne_scalar l items) l) (eachList_list_iff.mp each))
  | case2 levels l entries m others ih =>
    rw [eachList_map_iff, List.forall_mem_map]
    intro entry member
    exact ih entry.1 entry.2
      (EachList.part stable (map_ne_scalar l entries) each l
        (eachList_map_iff.mp each entry member))
  | case3 => exact each

theorem EachList.unfoldAlong (stable : IsStable p) {value : Value} (each : EachList p value)
    (other : Value) : EachList p (value.unfoldAlong other) :=
  each.unfoldWith stable _ (some other)

theorem EachList.unfoldTo (stable : IsStable p) {value : Value} (each : EachList p value)
    (depth : Nat) : EachList p (value.unfoldTo depth) := by
  unfold Value.unfoldTo
  split
  next => exact each.unfold stable depth
  next => exact each

/-! ### Showing a container anew -/

theorem EachList.of_mem_enclosing {entries : Entries} {label : Option Label}
    (each : EachList p (.map label entries)) (path : List Scalar) :
    ∀ x ∈ enclosing entries path, EachList p (.map (some x.1) x.2) := by
  fun_induction enclosing entries path generalizing label with
  | case1 entries key next rest own child found ih =>
    have inside : EachList p (.map own child) := each.of_get? found
    intro x member
    rcases List.mem_append.mp member with deeper | here
    · exact ih inside x deeper
    · obtain ⟨l, -, rfl⟩ := List.mem_map.mp here
      exact inside
  | case2 => exact nofun
  | case3 => exact nofun

theorem EachList.knotted (stable : IsStable p) {entries : Entries} {label own : Option Label}
    (each : EachList p (.map own entries)) (knot : Label) :
    EachList p (.map label (Value.replaceEntries (Value.knotted knot) entries)) :=
  EachList.replaceEntries stable
    (harmless_replace label?_of_knotted fun _ _ swapped => eq_of_knotted swapped ▸ nofun)
    (fun _ _ _ swapped => eq_of_knotted swapped ▸ nofun) _ entries each

theorem EachList.standalone (stable : IsStable p) {entries : Entries} {own : Option Label}
    {outer : List (Label × Entries)} (each : EachList p (.map own entries)) (label : Label)
    (around : ∀ x ∈ outer, EachList p (.map (some x.1) x.2)) :
    EachList p (.map (some label) (standalone label outer entries)) := by
  refine standalone_induction (fun entries => EachList p (.map (some label) entries))
    (each.knotted stable label) ?_
  intro x member inner each
  have whole : EachList p (.map (some x.1) (Value.replaceEntries (Value.knotted label) x.2)) :=
    (around x member).knotted stable label
  refine EachList.replaceEntries stable (harmless_filled (map_ne_scalar _ _))
    (fun u w own swapped => ?_) _ inner each
  rcases filled_cases swapped with ⟨rfl, -⟩ | rfl
  · exact own
  · exact whole

theorem EachList.share (stable : IsStable p) {entries : Entries} {label : Option Label}
    (each : EachList p (.map label entries)) (path : List Scalar) :
    EachList p (.map label (Value.share entries path)) := by
  unfold Value.share
  split
  next l own found =>
    have inside : EachList p (.map none entries) := each
    have shown := (inside.of_at? found).standalone stable l (each.of_mem_enclosing path)
    rw [refreshEntries_eq_replaceEntries]
    refine EachList.replaceEntries stable ?_ ?_ _ entries each
    · exact harmless_replace label?_of_refreshed fun u w swapped => eq_of_refreshed swapped ▸ nofun
    · exact fun u w _ swapped => eq_of_refreshed swapped ▸ shown
  next => exact each

theorem EachList.shareAll (stable : IsStable p) {entries : Entries} {label : Option Label}
    (each : EachList p (.map label entries)) (paths : List (List Scalar)) :
    EachList p (.map label (paths.foldl Value.share entries)) := by
  induction paths generalizing entries with
  | nil => exact each
  | cons path rest ih => exact ih (each.share stable path)

end Value

namespace Override

open MarkupLint.Value

theorem eachList_write {p : List Value → Prop} {entries written : Entries} {path : List String}
    {value : Value} {label : Option Label} (each : EachList p (.map label entries))
    (own : EachList p value) (done : write entries path value = some written) :
    EachList p (.map label written) := by
  induction path generalizing entries label written with
  | nil => cases done
  | cons part rest ih =>
    cases rest with
    | nil =>
      cases done
      exact each.set own
    | cons next rest =>
      rw [write_cons_cons, Option.bind_eq_some_iff] at done
      obtain ⟨entered, found, done⟩ := done
      obtain ⟨child, below, rfl⟩ := Option.map_eq_some_iff.mp done
      have inside : EachList p (.map entered.1 entered.2) := by
        rcases entered?_cases found with rfl | there
        · exact nofun
        · exact each.of_get? there
      exact each.set (ih inside below)

/-- Setting a value keeps what holds of every list there and in the value. -/
theorem eachList_set {p : List Value → Prop} (stable : IsStable p) {entries next : Entries}
    {path : List String} {value : Value} (each : EachList p (.ofEntries entries))
    (own : EachList p value) (done : Override.set entries path value = .ok next) :
    EachList p (.ofEntries next) := by
  unfold Override.set at done
  dsimp only at done
  split at done
  next => cases done
  next written wrote =>
    cases done
    exact (eachList_write each own wrote).shareAll stable _

end Override

end MarkupLint
