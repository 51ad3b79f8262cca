import MarkupLint.Config.Override
import MarkupLint.Value.Merge

/-!
The labels of the containers in a value, and what is done to all containers of one label at once:
they are filled in, shown as they are now, or made leaves. Each of the three puts something in
the place of some parts of a value (`Value.replace`), and so does writing the entries of a
container so that they may stand anywhere (`Value.standalone`). Main statements: a value that does
not mention the label stays as it is, and what comes in mentions no label but those that were
there or were put in.
-/
namespace MarkupLint

namespace Value

mutual

/-- The labels of the containers in a value, itself included, and of the leaves that stand for
one. -/
def labels : Value → List Label
  | .scalar _ => []
  | .list label items => label.toList ++ labelsOfItems items
  | .pair label first second => label :: (labels first ++ labels second)
  | .set label _ => [label]
  | .map label entries => label.toList ++ labelsOfEntries entries
  | .again label _ => [label]

def labelsOfItems : List Value → List Label
  | [] => []
  | item :: rest => labels item ++ labelsOfItems rest

def labelsOfEntries : List (Scalar × Value) → List Label
  | [] => []
  | (_, value) :: rest => labels value ++ labelsOfEntries rest

end

theorem mem_labelsOfEntries {l : Label} {entries : Entries} :
    l ∈ labelsOfEntries entries ↔ ∃ entry ∈ entries, l ∈ entry.2.labels := by
  induction entries with
  | nil => simp [labelsOfEntries]
  | cons entry rest ih => simp [labelsOfEntries, ih]

theorem mem_labelsOfItems {l : Label} {items : List Value} :
    l ∈ labelsOfItems items ↔ ∃ item ∈ items, l ∈ item.labels := by
  induction items with
  | nil => simp [labelsOfItems]
  | cons item rest ih => simp [labelsOfItems, ih]

theorem labelsOfEntries_append (front back : Entries) :
    labelsOfEntries (front ++ back) = labelsOfEntries front ++ labelsOfEntries back := by
  induction front with
  | nil => rfl
  | cons entry rest ih => simp [labelsOfEntries, ih]

/-- The label of a container, or of the one that a leaf stands for. -/
def label? : Value → Option Label
  | .scalar _ => none
  | .list label _ | .map label _ => label
  | .pair label _ _ | .set label _ | .again label _ => some label

mutual

/-- Put something else in the place of some lists, mappings and leaves. What is put there is not
looked into. -/
def replace (swap : Value → Option Value) : Value → Value
  | .scalar s => .scalar s
  | .list l items => (swap (.list l items)).getD (.list l (replaceItems swap items))
  | .pair l first second => .pair l (replace swap first) (replace swap second)
  | .set l members => .set l members
  | .map l entries => (swap (.map l entries)).getD (.map l (replaceEntries swap entries))
  | .again l mapping => (swap (.again l mapping)).getD (.again l mapping)

def replaceItems (swap : Value → Option Value) : List Value → List Value
  | [] => []
  | item :: rest => replace swap item :: replaceItems swap rest

def replaceEntries (swap : Value → Option Value) : List (Scalar × Value) → Entries
  | [] => []
  | (key, value) :: rest => (key, replace swap value) :: replaceEntries swap rest

end

section Replace

variable {swap : Value → Option Value} {label : Label}

mutual

/-- Where nothing has the label that is looked for, nothing changes. -/
theorem replace_of_not_mem (only : ∀ u w, swap u = some w → u.label? = some label) :
    (value : Value) → label ∉ value.labels → replace swap value = value
  | .scalar s, _ => rfl
  | .list l items, absent => by
    rw [labels, List.mem_append, not_or] at absent
    rw [replace, replaceItems_of_not_mem only items absent.2]
    cases swapped : swap (.list l items) with
    | none => rfl
    | some w => exact absurd (Option.mem_toList.mpr (only _ w swapped)) absent.1
  | .pair l first second, absent => by
    rw [labels, List.mem_cons, List.mem_append, not_or, not_or] at absent
    rw [replace, replace_of_not_mem only first absent.2.1,
      replace_of_not_mem only second absent.2.2]
  | .set l members, _ => rfl
  | .map l entries, absent => by
    rw [labels, List.mem_append, not_or] at absent
    rw [replace, replaceEntries_of_not_mem only entries absent.2]
    cases swapped : swap (.map l entries) with
    | none => rfl
    | some w => exact absurd (Option.mem_toList.mpr (only _ w swapped)) absent.1
  | .again l mapping, absent => by
    rw [labels, List.mem_singleton] at absent
    rw [replace]
    cases swapped : swap (.again l mapping) with
    | none => rfl
    | some w => exact absurd (Option.some.inj (only _ w swapped)).symm absent

theorem replaceItems_of_not_mem (only : ∀ u w, swap u = some w → u.label? = some label) :
    (items : List Value) → label ∉ labelsOfItems items → replaceItems swap items = items
  | [], _ => rfl
  | item :: rest, absent => by
    rw [labelsOfItems, List.mem_append, not_or] at absent
    rw [replaceItems, replace_of_not_mem only item absent.1,
      replaceItems_of_not_mem only rest absent.2]

theorem replaceEntries_of_not_mem (only : ∀ u w, swap u = some w → u.label? = some label) :
    (entries : List (Scalar × Value)) → label ∉ labelsOfEntries entries →
      replaceEntries swap entries = entries
  | [], _ => rfl
  | (key, value) :: rest, absent => by
    rw [labelsOfEntries, List.mem_append, not_or] at absent
    rw [replaceEntries, replace_of_not_mem only value absent.1,
      replaceEntries_of_not_mem only rest absent.2]

end

variable {p : Label → Prop}

mutual

/-- What holds of the labels that are there holds of all in the end, if what is put in keeps it. -/
theorem labels_replace
    (fresh : ∀ u w, (∀ l ∈ u.labels, p l) → swap u = some w → ∀ l ∈ w.labels, p l) :
    (value : Value) → (∀ l ∈ value.labels, p l) → ∀ l ∈ (replace swap value).labels, p l
  | .scalar s, _ => by simp [replace, labels]
  | .list l items, each => by
    obtain ⟨own, inside⟩ := List.forall_mem_append.mp each
    rw [replace]
    cases swapped : swap (.list l items) with
    | none =>
      rw [Option.getD_none, labels, List.forall_mem_append]
      exact ⟨own, labels_replaceItems fresh items inside⟩
    | some w => exact fresh _ w each swapped
  | .pair l first second, each => by
    rw [labels, List.forall_mem_cons, List.forall_mem_append] at each
    rw [replace, labels, List.forall_mem_cons, List.forall_mem_append]
    exact ⟨each.1, labels_replace fresh first each.2.1, labels_replace fresh second each.2.2⟩
  | .set l members, each => by rwa [replace]
  | .map l entries, each => by
    obtain ⟨own, inside⟩ := List.forall_mem_append.mp each
    rw [replace]
    cases swapped : swap (.map l entries) with
    | none =>
      rw [Option.getD_none, labels, List.forall_mem_append]
      exact ⟨own, labels_replaceEntries fresh entries inside⟩
    | some w => exact fresh _ w each swapped
  | .again l mapping, each => by
    rw [replace]
    cases swapped : swap (.again l mapping) with
    | none => exact each
    | some w => exact fresh _ w each swapped

theorem labels_replaceItems
    (fresh : ∀ u w, (∀ l ∈ u.labels, p l) → swap u = some w → ∀ l ∈ w.labels, p l) :
    (items : List Value) → (∀ l ∈ labelsOfItems items, p l) →
      ∀ l ∈ labelsOfItems (replaceItems swap items), p l
  | [], _ => by simp [replaceItems, labelsOfItems]
  | item :: rest, each => by
    rw [labelsOfItems, List.forall_mem_append] at each
    rw [replaceItems, labelsOfItems, List.forall_mem_append]
    exact ⟨labels_replace fresh item each.1, labels_replaceItems fresh rest each.2⟩

theorem labels_replaceEntries
    (fresh : ∀ u w, (∀ l ∈ u.labels, p l) → swap u = some w → ∀ l ∈ w.labels, p l) :
    (entries : List (Scalar × Value)) → (∀ l ∈ labelsOfEntries entries, p l) →
      ∀ l ∈ labelsOfEntries (replaceEntries swap entries), p l
  | [], _ => by simp [replaceEntries, labelsOfEntries]
  | (key, value) :: rest, each => by
    rw [labelsOfEntries, List.forall_mem_append] at each
    rw [replaceEntries, labelsOfEntries, List.forall_mem_append]
    exact ⟨labels_replace fresh value each.1, labels_replaceEntries fresh rest each.2⟩

end

theorem replaceItems_eq_map (swap : Value → Option Value) (items : List Value) :
    replaceItems swap items = items.map (replace swap) := by
  induction items with
  | nil => rfl
  | cons item rest ih => rw [replaceItems, ih]; rfl

theorem replaceEntries_eq_map (swap : Value → Option Value) (entries : Entries) :
    replaceEntries swap entries = entries.map fun entry => (entry.1, replace swap entry.2) := by
  induction entries with
  | nil => rfl
  | cons entry rest ih => rw [replaceEntries, ih]; rfl

end Replace

/-! ### The three replacements -/

/-- Leaves of the label become the container; containers of the label are not entered. -/
def filled (label : Label) (container : Value) : Value → Option Value
  | .list l items => if l = some label then some (.list l items) else none
  | .map l entries => if l = some label then some (.map l entries) else none
  | .again l _ => if l = label then some container else none
  | _ => none

/-- Mappings of the label are given these entries. -/
def refreshed (label : Label) (entries : Entries) : Value → Option Value
  | .map l _ => if l = some label then some (.map l entries) else none
  | _ => none

/-- Mappings of the label become leaves. -/
def knotted (label : Label) : Value → Option Value
  | .map l _ => if l = some label then some (.again label true) else none
  | _ => none

theorem filled_cases {label : Label} {container u w : Value}
    (swapped : filled label container u = some w) :
    w = u ∧ (∀ s, u ≠ .scalar s) ∨ w = container := by
  unfold filled at swapped
  split at swapped
  next =>
    rw [Option.ite_none_right_eq_some] at swapped
    obtain ⟨-, ⟨⟩⟩ := swapped
    exact .inl ⟨rfl, nofun⟩
  next =>
    rw [Option.ite_none_right_eq_some] at swapped
    obtain ⟨-, ⟨⟩⟩ := swapped
    exact .inl ⟨rfl, nofun⟩
  next =>
    rw [Option.ite_none_right_eq_some] at swapped
    obtain ⟨-, ⟨⟩⟩ := swapped
    exact .inr rfl
  next => cases swapped

theorem eq_of_refreshed {label : Label} {entries : Entries} {u w : Value}
    (swapped : refreshed label entries u = some w) : w = .map (some label) entries := by
  unfold refreshed at swapped
  split at swapped
  next =>
    rw [Option.ite_none_right_eq_some] at swapped
    obtain ⟨rfl, ⟨⟩⟩ := swapped
    rfl
  next => cases swapped

theorem eq_of_knotted {label : Label} {u w : Value} (swapped : knotted label u = some w) :
    w = .again label true := by
  unfold knotted at swapped
  split at swapped
  next =>
    rw [Option.ite_none_right_eq_some] at swapped
    obtain ⟨-, ⟨⟩⟩ := swapped
    rfl
  next => cases swapped

theorem label?_of_filled {label : Label} {container : Value} (u w : Value)
    (swapped : filled label container u = some w) : u.label? = some label := by
  unfold filled at swapped
  split at swapped <;> simp_all [label?]

theorem label?_of_refreshed {label : Label} {entries : Entries} (u w : Value)
    (swapped : refreshed label entries u = some w) : u.label? = some label := by
  unfold refreshed at swapped
  split at swapped <;> simp_all [label?]

theorem label?_of_knotted {label : Label} (u w : Value) (swapped : knotted label u = some w) :
    u.label? = some label := by
  unfold knotted at swapped
  split at swapped <;> simp_all [label?]

mutual

theorem fill_eq_replace (label : Label) (container : Value) :
    (value : Value) → fill label container value = replace (filled label container) value
  | .scalar s => rfl
  | .list l items => by
    rw [fill, replace, filled, fillItems_eq_replaceItems label container items]
    split <;> rfl
  | .pair l first second => by
    rw [fill, replace, fill_eq_replace label container first,
      fill_eq_replace label container second]
  | .set l members => rfl
  | .map l entries => by
    rw [fill, replace, filled, fillEntries_eq_replaceEntries label container entries]
    split <;> rfl
  | .again l mapping => by
    rw [fill, replace, filled]
    split <;> rfl

theorem fillItems_eq_replaceItems (label : Label) (container : Value) :
    (items : List Value) →
      fillItems label container items = replaceItems (filled label container) items
  | [] => rfl
  | item :: rest => by
    rw [fillItems, replaceItems, fill_eq_replace label container item,
      fillItems_eq_replaceItems label container rest]

theorem fillEntries_eq_replaceEntries (label : Label) (container : Value) :
    (entries : List (Scalar × Value)) →
      fillEntries label container entries = replaceEntries (filled label container) entries
  | [] => rfl
  | (key, value) :: rest => by
    rw [fillEntries, replaceEntries, fill_eq_replace label container value,
      fillEntries_eq_replaceEntries label container rest]

end

mutual

theorem refresh_eq_replace (label : Label) (own : Entries) :
    (value : Value) → refresh label own value = replace (refreshed label own) value
  | .scalar s => rfl
  | .list l items => by
    rw [refresh, replace, refreshItems_eq_replaceItems label own items]
    rfl
  | .pair l first second => by
    rw [refresh, replace, refresh_eq_replace label own first, refresh_eq_replace label own second]
  | .set l members => rfl
  | .map l entries => by
    rw [refresh, replace, refreshed, refreshEntries_eq_replaceEntries label own entries]
    split <;> rfl
  | .again l mapping => rfl

theorem refreshItems_eq_replaceItems (label : Label) (own : Entries) :
    (items : List Value) →
      refreshItems label own items = replaceItems (refreshed label own) items
  | [] => rfl
  | item :: rest => by
    rw [refreshItems, replaceItems, refresh_eq_replace label own item,
      refreshItems_eq_replaceItems label own rest]

theorem refreshEntries_eq_replaceEntries (label : Label) (own : Entries) :
    (entries : List (Scalar × Value)) →
      refreshEntries label own entries = replaceEntries (refreshed label own) entries
  | [] => rfl
  | (key, value) :: rest => by
    rw [refreshEntries, replaceEntries, refresh_eq_replace label own value,
      refreshEntries_eq_replaceEntries label own rest]

end

mutual

theorem knot_eq_replace (label : Label) :
    (value : Value) → knot label value = replace (knotted label) value
  | .scalar s => rfl
  | .list l items => by
    rw [knot, replace, knotItems_eq_replaceItems label items]
    rfl
  | .pair l first second => by
    rw [knot, replace, knot_eq_replace label first, knot_eq_replace label second]
  | .set l members => rfl
  | .map l entries => by
    rw [knot, replace, knotted, knotEntries_eq_replaceEntries label entries]
    split <;> rfl
  | .again l mapping => rfl

theorem knotItems_eq_replaceItems (label : Label) :
    (items : List Value) → knotItems label items = replaceItems (knotted label) items
  | [] => rfl
  | item :: rest => by
    rw [knotItems, replaceItems, knot_eq_replace label item, knotItems_eq_replaceItems label rest]

theorem knotEntries_eq_replaceEntries (label : Label) :
    (entries : List (Scalar × Value)) →
      knotEntries label entries = replaceEntries (knotted label) entries
  | [] => rfl
  | (key, value) :: rest => by
    rw [knotEntries, replaceEntries, knot_eq_replace label value,
      knotEntries_eq_replaceEntries label rest]

end

/-! ### Containers that may stand anywhere -/

section Standalone

variable {label : Label} {outer : List (Label × Entries)} {entries : Entries}

/-- What holds of the entries with leaves for the container itself, and is kept when leaves give
way to a container around it, holds in the end. -/
theorem standalone_induction (kept : Entries → Prop)
    (start : kept (replaceEntries (knotted label) entries))
    (step : ∀ x ∈ outer, ∀ inner, kept inner → kept (replaceEntries
      (filled x.1 (.map (some x.1) (replaceEntries (knotted label) x.2))) inner)) :
    kept (standalone label outer entries) := by
  have steps : ∀ x ∈ outer.filter (·.1 != label), ∀ inner, kept inner →
      kept (fillEntries x.1 (.map (some x.1) (knotEntries label x.2)) inner) := by
    intro x member inner holds
    rw [knotEntries_eq_replaceEntries, fillEntries_eq_replaceEntries]
    exact step x (List.mem_filter.mp member).1 inner holds
  rw [← knotEntries_eq_replaceEntries] at start
  unfold standalone
  generalize knotEntries label entries = inner at start
  generalize outer.filter (·.1 != label) = around at steps
  induction around generalizing inner with
  | nil => exact start
  | cons x rest ih =>
    obtain ⟨first, others⟩ := List.forall_mem_cons.mp steps
    exact ih _ (first inner start) others

/-- Entries that mention neither their container nor those around it may stand anywhere as they
are. -/
theorem standalone_eq_self (absent : label ∉ labelsOfEntries entries)
    (off : ∀ x ∈ outer, x.1 ∉ labelsOfEntries entries) :
    standalone label outer entries = entries := by
  refine standalone_induction (· = entries)
    (replaceEntries_of_not_mem label?_of_knotted entries absent) ?_
  rintro x member inner rfl
  exact replaceEntries_of_not_mem label?_of_filled inner (off x member)

variable {p : Label → Prop}

theorem labels_knotted (own : p label) (u w : Value) (_ : ∀ l ∈ u.labels, p l)
    (swapped : knotted label u = some w) : ∀ l ∈ w.labels, p l := by
  rw [eq_of_knotted swapped]
  exact fun l labelled => List.mem_singleton.mp labelled ▸ own

/-- Containers around the place whose own label is ruled out are not put in. -/
theorem labels_standalone (own : p label) (each : ∀ l ∈ labelsOfEntries entries, p l)
    (around : ∀ x ∈ outer, p x.1 → ∀ l ∈ labelsOfEntries x.2, p l) :
    ∀ l ∈ labelsOfEntries (standalone label outer entries), p l := by
  refine standalone_induction (∀ l ∈ labelsOfEntries ·, p l)
    (labels_replaceEntries (labels_knotted own) entries each) ?_
  intro x member inner each
  by_cases allowed : p x.1
  · have inside := labels_replaceEntries (labels_knotted own) x.2 (around x member allowed)
    refine labels_replaceEntries (fun u w each swapped => ?_) inner each
    rcases filled_cases swapped with ⟨rfl, -⟩ | rfl
    · exact each
    · exact List.forall_mem_cons.mpr ⟨allowed, inside⟩
  · have absent : x.1 ∉ labelsOfEntries inner := fun mentioned => allowed (each _ mentioned)
    rw [replaceEntries_of_not_mem label?_of_filled inner absent]
    exact each

end Standalone

/-! ### Writing out -/

/-- A part of a container that does not mention its label is a part as it is. -/
theorem part_of_not_mem {container value : Value} {label : Option Label}
    (absent : ∀ l ∈ label, l ∉ value.labels) : Value.part container label value = value := by
  cases label with
  | none => rfl
  | some l =>
    rw [Value.part, fill_eq_replace, replace_of_not_mem label?_of_filled value (absent l rfl)]
    split <;> rfl

/-- A value as it is, or with containers in which parts have all that they refer to in its place. -/
inductive WritesOut : Value → Value → Prop
  | refl (value : Value) : WritesOut value value
  | list {label : Option Label} {items : List Value} {f : Value → Value}
      (each : ∀ item ∈ items, WritesOut (part (.list label items) label item) (f item)) :
      WritesOut (.list label items) (.list label (items.map f))
  | map {label : Option Label} {entries : Entries} {f : Scalar → Value → Value}
      (each : ∀ entry ∈ entries,
        WritesOut (part (.map label entries) label entry.2) (f entry.1 entry.2)) :
      WritesOut (.map label entries)
        (.map label (entries.map fun (key, value) => (key, f key value)))

theorem writesOut_unfold (depth : Nat) (value : Value) : WritesOut value (value.unfold depth) := by
  induction depth generalizing value with
  | zero => exact .refl value
  | succ depth ih =>
    cases value with
    | list label items => exact .list fun item _ => ih _
    | map label entries =>
      exact .map (f := fun _ value => unfold depth (part (.map label entries) label value))
        fun entry _ => ih _
    | _ => exact .refl _

theorem writesOut_unfoldWith (levels : Nat) (value : Value) (other : Option Value) :
    WritesOut value (value.unfoldWith levels other) := by
  fun_induction unfoldWith levels value other with
  | case1 => exact .list fun item _ => .refl _
  | case2 levels label entries m others ih =>
    exact .map (f := fun key value => unfoldWith levels (part (.map label entries) label value)
      ((Entries.get? others key).map (part (.map m others) m))) fun entry _ => ih entry.1 entry.2
  | case3 => exact .refl _

/-- A value without labels is written out as it is. -/
theorem WritesOut.eq_of_labels_eq_nil {value written : Value} (out : WritesOut value written)
    (plain : value.labels = []) : written = value := by
  induction out with
  | refl => rfl
  | @list label items f each ih =>
    rw [labels, List.append_eq_nil_iff, Option.toList_eq_nil_iff] at plain
    obtain ⟨rfl, none⟩ := plain
    have same : ∀ item ∈ items, f item = id item := by
      intro item member
      apply ih item member
      rw [List.eq_nil_iff_forall_not_mem] at none ⊢
      exact fun l mentioned => none l (mem_labelsOfItems.mpr ⟨item, member, mentioned⟩)
    exact congrArg _ ((List.map_congr_left same).trans items.map_id)
  | @map label entries f each ih =>
    rw [labels, List.append_eq_nil_iff, Option.toList_eq_nil_iff] at plain
    obtain ⟨rfl, none⟩ := plain
    have same : ∀ entry ∈ entries, (entry.1, f entry.1 entry.2) = id entry := by
      intro entry member
      refine congrArg (Prod.mk entry.1) (ih entry member ?_)
      rw [List.eq_nil_iff_forall_not_mem] at none ⊢
      exact fun l mentioned => none l (mem_labelsOfEntries.mpr ⟨entry, member, mentioned⟩)
    exact congrArg _ ((List.map_congr_left same).trans entries.map_id)

theorem unfold_of_labels_eq_nil (depth : Nat) {value : Value} (plain : value.labels = []) :
    value.unfold depth = value :=
  (writesOut_unfold depth value).eq_of_labels_eq_nil plain

/-! ### Parts -/

theorem mem_of_get? {entries : Entries} {key : Scalar} {value : Value}
    (found : entries.get? key = some value) :
    ∃ own, (own, value) ∈ entries ∧ own.same key = true := by
  rw [Entries.get?, Option.map_eq_some_iff] at found
  obtain ⟨entry, there, rfl⟩ := found
  have same := List.find?_some there
  exact ⟨entry.1, List.mem_of_find?_eq_some there, same⟩

theorem labels_subset_of_get? {entries : Entries} {key : Scalar} {value : Value}
    (found : entries.get? key = some value) : value.labels ⊆ labelsOfEntries entries := by
  obtain ⟨own, member, -⟩ := mem_of_get? found
  exact fun l inside => mem_labelsOfEntries.mpr ⟨_, member, inside⟩

theorem labels_subset_of_at? {value part : Value} {path : List Scalar}
    (found : value.at? path = some part) : part.labels ⊆ value.labels := by
  induction path generalizing value with
  | nil =>
    cases value <;> cases found <;> exact List.Subset.refl _
  | cons key rest ih =>
    cases value with
    | map label entries =>
      rw [at?, Option.bind_eq_some_iff] at found
      obtain ⟨child, own, found⟩ := found
      exact fun l inside =>
        List.mem_append_right _ (labels_subset_of_get? own (ih found inside))
    | _ => cases found

theorem enclosing_of_get? {entries child : Entries} {key next : Scalar} {rest : List Scalar}
    {label : Option Label} (found : entries.get? key = some (.map label child)) :
    enclosing entries (key :: next :: rest) =
      enclosing child (next :: rest) ++ label.toList.map (·, child) := by
  rw [enclosing, found]

/-- The containers around a place below a key are parts of what the key holds. -/
theorem labels_subset_of_mem_enclosing {entries : Entries} {key : Scalar} {value : Value}
    {path : List Scalar} (found : entries.get? key = some value) :
    ∀ x ∈ enclosing entries (key :: path), (Value.map (some x.1) x.2).labels ⊆ value.labels := by
  induction path generalizing entries key value with
  | nil => exact nofun
  | cons next rest ih =>
    intro x member
    rw [enclosing, found] at member
    cases value with
    | map label child =>
      rcases List.mem_append.mp member with deeper | here
      · cases below : Entries.get? child next with
        | none => cases rest <;> simp [enclosing, below] at deeper
        | some inner =>
          exact fun l inside => List.mem_append_right _
            (labels_subset_of_get? below (ih below x deeper inside))
      · obtain ⟨l, labelled, rfl⟩ := List.mem_map.mp here
        rw [Option.mem_toList.mp labelled]
        exact List.Subset.refl _
    | _ => cases member

theorem labels_set {entries : Entries} {key : Scalar} {value : Value} {l : Label}
    (member : l ∈ labelsOfEntries (entries.set key value)) :
    l ∈ labelsOfEntries entries ∨ l ∈ value.labels := by
  induction entries with
  | nil => exact .inr (by simpa [Entries.set, labelsOfEntries] using member)
  | cons entry rest ih =>
    rw [Entries.set] at member
    split at member
    next =>
      rw [labelsOfEntries, List.mem_append] at member
      rcases member with own | later
      · exact .inr own
      · exact .inl (List.mem_append_right _ later)
    next =>
      rw [labelsOfEntries, List.mem_append] at member
      rcases member with own | later
      · exact .inl (List.mem_append_left _ own)
      · exact (ih later).imp_left (List.mem_append_right _)

end Value

end MarkupLint
