import MarkupLint.Proofs.OverrideFrame

/-!
Values that show a store of containers. A container with a label is one object, of which the store
holds the contents; inside them other such containers are told by leaves (`Value.outline`). A value
shows the store if each of its containers has the contents that the store holds under its label,
and each leaf stands for a container that it is inside (`Value.Shows`). Main statement: showing a
mapping wherever it occurs leaves a value that shows one content of it (`Value.ShowsEntries.share`).
-/
namespace MarkupLint

namespace Value

/-! ### Contents -/

/-- Containers with a label become leaves. -/
def outlined : Value → Option Value
  | .map (some l) _ => some (.again l true)
  | .list (some l) _ => some (.again l false)
  | _ => none

/-- A value with leaves for the containers in it that have a label. -/
def outline (value : Value) : Value :=
  replace outlined value

def outlineItems (items : List Value) : List Value :=
  replaceItems outlined items

def outlineEntries (entries : Entries) : Entries :=
  replaceEntries outlined entries

mutual

/-- Containers have the contents that `holds` allows under their labels, and a leaf stands for
one that it is inside; `around` are the labels of those that the value is inside. -/
def Shows (holds : Label → Value → Prop) (around : List Label) : Value → Prop
  | .scalar _ | .set _ _ => True
  | .pair _ first second => Shows holds around first ∧ Shows holds around second
  | .list label items =>
      (∀ l ∈ label, holds l (.ofList (outlineItems items))) ∧
        ShowsItems holds (label.toList ++ around) items
  | .map label entries =>
      (∀ l ∈ label, holds l (.ofEntries (outlineEntries entries))) ∧
        ShowsEntries holds (label.toList ++ around) entries
  | .again label mapping => label ∈ around ∧ ∃ held, holds label held ∧ held.isMap = mapping

def ShowsItems (holds : Label → Value → Prop) (around : List Label) : List Value → Prop
  | [] => True
  | item :: rest => Shows holds around item ∧ ShowsItems holds around rest

def ShowsEntries (holds : Label → Value → Prop) (around : List Label) :
    List (Scalar × Value) → Prop
  | [] => True
  | (_, value) :: rest => Shows holds around value ∧ ShowsEntries holds around rest

end

variable {holds holds' : Label → Value → Prop} {around inside : List Label}

theorem subset_inside (label : Option Label) (sub : around ⊆ inside) :
    label.toList ++ around ⊆ label.toList ++ inside :=
  List.append_subset.mpr
    ⟨List.subset_append_left _ _, List.subset_append_of_subset_right _ sub⟩

mutual

/-- More may be held, and there may be more containers around. -/
theorem Shows.mono (more : ∀ l held, holds l held → holds' l held) {around inside : List Label}
    (sub : around ⊆ inside) : (value : Value) → Shows holds around value → Shows holds' inside value
  | .scalar _, _ | .set _ _, _ => trivial
  | .pair _ first second, ⟨one, two⟩ =>
    ⟨Shows.mono more sub first one, Shows.mono more sub second two⟩
  | .list label items, ⟨own, each⟩ =>
    ⟨fun l labelled => more l _ (own l labelled),
      ShowsItems.mono more (subset_inside label sub) items each⟩
  | .map label entries, ⟨own, each⟩ =>
    ⟨fun l labelled => more l _ (own l labelled),
      ShowsEntries.mono more (subset_inside label sub) entries each⟩
  | .again l _, ⟨member, held, own, kind⟩ => ⟨sub member, held, more l held own, kind⟩

theorem ShowsItems.mono (more : ∀ l held, holds l held → holds' l held)
    {around inside : List Label} (sub : around ⊆ inside) :
    (items : List Value) → ShowsItems holds around items → ShowsItems holds' inside items
  | [], _ => trivial
  | item :: rest, ⟨first, others⟩ =>
    ⟨Shows.mono more sub item first, ShowsItems.mono more sub rest others⟩

theorem ShowsEntries.mono (more : ∀ l held, holds l held → holds' l held)
    {around inside : List Label} (sub : around ⊆ inside) :
    (entries : List (Scalar × Value)) → ShowsEntries holds around entries →
      ShowsEntries holds' inside entries
  | [], _ => trivial
  | (_, value) :: rest, ⟨first, others⟩ =>
    ⟨Shows.mono more sub value first, ShowsEntries.mono more sub rest others⟩

end

mutual

/-- A value without labels shows every store, and is its own outline. -/
theorem shows_of_labels_eq_nil {around : List Label} :
    (value : Value) → value.labels = [] → Shows holds around value ∧ outline value = value
  | .scalar _, _ => ⟨trivial, rfl⟩
  | .pair _ _ _, plain => nomatch plain
  | .set _ _, plain => nomatch plain
  | .again _ _, plain => nomatch plain
  | .list label items, plain => by
    rw [labels, List.append_eq_nil_iff, Option.toList_eq_nil_iff] at plain
    obtain ⟨rfl, none⟩ := plain
    obtain ⟨shown, same⟩ := showsItems_of_labels_eq_nil items none
    exact ⟨⟨nofun, shown⟩, congrArg (Value.list _) same⟩
  | .map label entries, plain => by
    rw [labels, List.append_eq_nil_iff, Option.toList_eq_nil_iff] at plain
    obtain ⟨rfl, none⟩ := plain
    obtain ⟨shown, same⟩ := showsEntries_of_labels_eq_nil entries none
    exact ⟨⟨nofun, shown⟩, congrArg (Value.map _) same⟩

theorem showsItems_of_labels_eq_nil {around : List Label} :
    (items : List Value) → labelsOfItems items = [] →
      ShowsItems holds around items ∧ outlineItems items = items
  | [], _ => ⟨trivial, rfl⟩
  | item :: rest, plain => by
    rw [labelsOfItems, List.append_eq_nil_iff] at plain
    obtain ⟨shown, same⟩ := shows_of_labels_eq_nil item plain.1
    obtain ⟨shown', same'⟩ := showsItems_of_labels_eq_nil rest plain.2
    refine ⟨⟨shown, shown'⟩, ?_⟩
    change outline _ :: outlineItems _ = _
    rw [same, same']

theorem showsEntries_of_labels_eq_nil {around : List Label} :
    (entries : List (Scalar × Value)) → labelsOfEntries entries = [] →
      ShowsEntries holds around entries ∧ outlineEntries entries = entries
  | [], _ => ⟨trivial, rfl⟩
  | (key, value) :: rest, plain => by
    rw [labelsOfEntries, List.append_eq_nil_iff] at plain
    obtain ⟨shown, same⟩ := shows_of_labels_eq_nil value plain.1
    obtain ⟨shown', same'⟩ := showsEntries_of_labels_eq_nil rest plain.2
    refine ⟨⟨shown, shown'⟩, ?_⟩
    change (key, outline _) :: outlineEntries _ = _
    rw [same, same']

end

/-! ### Parts -/

theorem ShowsEntries.ofEntries {entries : Entries} (shown : ShowsEntries holds around entries) :
    Shows holds around (.map none entries) :=
  ⟨fun l labelled => absurd labelled (Option.not_mem_none l), shown⟩

theorem showsEntries_iff {entries : Entries} :
    ShowsEntries holds around entries ↔ ∀ entry ∈ entries, Shows holds around entry.2 := by
  induction entries with
  | nil => simp [ShowsEntries]
  | cons entry rest ih => simp [ShowsEntries, ih]

theorem showsItems_iff {items : List Value} :
    ShowsItems holds around items ↔ ∀ item ∈ items, Shows holds around item := by
  induction items with
  | nil => simp [ShowsItems]
  | cons item rest ih => simp [ShowsItems, ih]

theorem outlineItems_eq_map (items : List Value) : outlineItems items = items.map outline :=
  replaceItems_eq_map outlined items

theorem outlineEntries_eq_map (entries : Entries) :
    outlineEntries entries = entries.map fun entry => (entry.1, outline entry.2) :=
  replaceEntries_eq_map outlined entries

theorem ShowsEntries.get? {entries : Entries} (shown : ShowsEntries holds around entries)
    {key : Scalar} {value : Value} (found : entries.get? key = some value) :
    Shows holds around value := by
  obtain ⟨own, member, -⟩ := mem_of_get? found
  exact showsEntries_iff.mp shown _ member

theorem ShowsEntries.set {entries : Entries} (shown : ShowsEntries holds around entries)
    (key : Scalar) {value : Value} (own : Shows holds around value) :
    ShowsEntries holds around (entries.set key value) := by
  induction entries with
  | nil => exact ⟨own, trivial⟩
  | cons entry rest ih =>
    rw [Entries.set]
    split
    next => exact ⟨own, shown.2⟩
    next => exact ⟨shown.1, ih shown.2⟩

theorem outlineEntries_set (entries : Entries) (key : Scalar) (value : Value) :
    outlineEntries (entries.set key value) =
      Entries.set (outlineEntries entries) key (outline value) := by
  induction entries with
  | nil => rfl
  | cons entry rest ih =>
    have split :
        outlineEntries (entry :: rest) = (entry.1, outline entry.2) :: outlineEntries rest := rfl
    rw [Entries.set, split, Entries.set]
    cases entry.1.same key with
    | true => rfl
    | false =>
      rw [if_neg Bool.false_ne_true, if_neg Bool.false_ne_true, ← ih]
      rfl

theorem outlineEntries_keys (entries : Entries) :
    (outlineEntries entries).map (·.1) = entries.map (·.1) := by
  rw [outlineEntries_eq_map, List.map_map]
  rfl

theorem get?_outlineEntries (entries : Entries) (key : Scalar) :
    (outlineEntries entries).get? key = (entries.get? key).map outline :=
  Override.get?_replaceEntries outlined entries key

/-! ### Replacements -/

/-- A replacement that keeps what is shown, where the containers around a place go over from some
to others. -/
structure Reshows (holds holds' : Label → Value → Prop) (swap : Value → Option Value)
    (turn : List Label → List Label → Prop) : Prop where
  into : ∀ {old new} (label : Option Label), turn old new →
    turn (label.toList ++ old) (label.toList ++ new)
  fresh : ∀ {old new u w}, turn old new → Shows holds old u → swap u = some w →
    Shows holds' new w ∧ outline w = outline u
  leaf : ∀ {old new l mapping}, turn old new → l ∈ old → swap (.again l mapping) = none → l ∈ new
  map : ∀ {l entries held}, swap (.map (some l) entries) = none → holds l held → holds' l held
  list : ∀ {l items held}, swap (.list (some l) items) = none → held.isMap = false →
    holds l held → holds' l held
  kind : ∀ {l held}, holds l held → ∃ other, holds' l other ∧ other.isMap = held.isMap

section Replace

variable {swap : Value → Option Value} {turn : List Label → List Label → Prop}

mutual

theorem Shows.replace (keeps : Reshows holds holds' swap turn) {old new : List Label}
    (move : turn old new) : (value : Value) → Shows holds old value →
      Shows holds' new (Value.replace swap value) ∧
        outline (Value.replace swap value) = outline value
  | .scalar _, _ | .set _ _, _ => ⟨trivial, rfl⟩
  | .pair l first second, ⟨one, two⟩ => by
    obtain ⟨shown, same⟩ := Shows.replace keeps move first one
    obtain ⟨shown', same'⟩ := Shows.replace keeps move second two
    refine ⟨⟨shown, shown'⟩, ?_⟩
    change Value.pair l (outline _) (outline _) = Value.pair l (outline _) (outline _)
    rw [same, same']
  | .list label items, shown => by
    rw [Value.replace]
    cases swapped : swap (.list label items) with
    | some w => exact keeps.fresh move shown swapped
    | none =>
      obtain ⟨each, same⟩ := ShowsItems.replace keeps (keeps.into label move) items shown.2
      rw [Option.getD_none, Shows, same]
      cases label with
      | none => exact ⟨⟨nofun, each⟩, congrArg (Value.list none) same⟩
      | some l =>
        refine ⟨⟨fun own labelled => ?_, each⟩, rfl⟩
        cases labelled
        exact keeps.list swapped rfl (shown.1 l rfl)
  | .map label entries, shown => by
    rw [Value.replace]
    cases swapped : swap (.map label entries) with
    | some w => exact keeps.fresh move shown swapped
    | none =>
      obtain ⟨each, same⟩ := ShowsEntries.replace keeps (keeps.into label move) entries shown.2
      rw [Option.getD_none, Shows, same]
      cases label with
      | none => exact ⟨⟨nofun, each⟩, congrArg (Value.map none) same⟩
      | some l =>
        refine ⟨⟨fun own labelled => ?_, each⟩, rfl⟩
        cases labelled
        exact keeps.map swapped (shown.1 l rfl)
  | .again l mapping, shown => by
    rw [Value.replace]
    cases swapped : swap (.again l mapping) with
    | some w => exact keeps.fresh move shown swapped
    | none =>
      obtain ⟨member, held, own, isMapping⟩ := shown
      obtain ⟨other, own', same⟩ := keeps.kind own
      exact ⟨⟨keeps.leaf move member swapped, other, own', same.trans isMapping⟩, rfl⟩

theorem ShowsItems.replace (keeps : Reshows holds holds' swap turn) {old new : List Label}
    (move : turn old new) : (items : List Value) → ShowsItems holds old items →
      ShowsItems holds' new (replaceItems swap items) ∧
        outlineItems (replaceItems swap items) = outlineItems items
  | [], _ => ⟨trivial, rfl⟩
  | item :: rest, ⟨first, others⟩ => by
    obtain ⟨shown, same⟩ := Shows.replace keeps move item first
    obtain ⟨shown', same'⟩ := ShowsItems.replace keeps move rest others
    refine ⟨⟨shown, shown'⟩, ?_⟩
    change outline _ :: outlineItems _ = outline _ :: outlineItems _
    rw [same, same']

theorem ShowsEntries.replace (keeps : Reshows holds holds' swap turn) {old new : List Label}
    (move : turn old new) : (entries : List (Scalar × Value)) → ShowsEntries holds old entries →
      ShowsEntries holds' new (replaceEntries swap entries) ∧
        outlineEntries (replaceEntries swap entries) = outlineEntries entries
  | [], _ => ⟨trivial, rfl⟩
  | (key, value) :: rest, ⟨first, others⟩ => by
    obtain ⟨shown, same⟩ := Shows.replace keeps move value first
    obtain ⟨shown', same'⟩ := ShowsEntries.replace keeps move rest others
    refine ⟨⟨shown, shown'⟩, ?_⟩
    change (key, outline _) :: outlineEntries _ = (key, outline _) :: outlineEntries _
    rw [same, same']

end

end Replace

/-! ### One content of a mapping -/

/-- Under one label this is held, and nothing else. -/
def Settled (holds : Label → Value → Prop) (label : Label) (content : Value) (l : Label)
    (held : Value) : Prop :=
  holds l held ∧ (l = label → held = content)

/-- All that may be held under a label are mappings, or all are lists. -/
def Sorted (holds : Label → Value → Prop) : Prop :=
  ∀ l one other, holds l one → holds l other → one.isMap = other.isMap

section Settled

variable {label : Label} {entries : Entries} {content : Value}

theorem Settled.sorted (sorted : Sorted holds) : Sorted (Settled holds label content) :=
  fun l one other own own' => sorted l one other own.1 own'.1

theorem settled_kind (sorted : Sorted holds) (own : holds label content) {l : Label} {held : Value}
    (there : holds l held) :
    ∃ other, Settled holds label content l other ∧ other.isMap = held.isMap := by
  by_cases same : l = label
  · subst same
    exact ⟨content, ⟨own, fun _ => rfl⟩, sorted _ _ _ own there⟩
  · exact ⟨held, ⟨there, fun equal => absurd equal same⟩, rfl⟩

theorem settled_list (sorted : Sorted holds) (own : holds label content)
    (mapping : content.isMap = true) {l : Label} {held : Value} (list : held.isMap = false)
    (there : holds l held) : Settled holds label content l held := by
  refine ⟨there, ?_⟩
  rintro rfl
  rw [sorted _ _ _ there own, mapping] at list
  cases list

theorem reshows_knotted (sorted : Sorted holds) (own : holds label content)
    (mapping : content.isMap = true) :
    Reshows holds (Settled holds label content) (knotted label)
      fun old new => old ⊆ new ∧ label ∈ new where
  into l move := ⟨subset_inside l move.1, List.mem_append_right _ move.2⟩
  fresh {old new u w} move shown swapped := by
    unfold knotted at swapped
    split at swapped
    next l entries =>
      rw [Option.ite_none_right_eq_some] at swapped
      obtain ⟨rfl, ⟨⟩⟩ := swapped
      exact ⟨⟨move.2, content, ⟨own, fun _ => rfl⟩, mapping⟩, rfl⟩
    next => cases swapped
  leaf move member _ := move.1 member
  map {l entries held} kept there := by
    refine ⟨there, ?_⟩
    rintro rfl
    rw [knotted, if_pos rfl] at kept
    cases kept
  list _ list there := settled_list sorted own mapping list there
  kind there := settled_kind sorted own there

theorem reshows_refreshed (sorted : Sorted holds) {anew : Entries}
    (own : holds label (.ofEntries (outlineEntries anew)))
    (shown : ShowsEntries (Settled holds label (.ofEntries (outlineEntries anew))) [label] anew) :
    Reshows holds (Settled holds label (.ofEntries (outlineEntries anew))) (refreshed label anew)
      (· ⊆ ·) where
  into l move := subset_inside l move
  fresh {old new u w} move _ swapped := by
    unfold refreshed at swapped
    split at swapped
    next l entries =>
      rw [Option.ite_none_right_eq_some] at swapped
      obtain ⟨rfl, ⟨⟩⟩ := swapped
      refine ⟨⟨fun l labelled => ?_, shown.mono (fun _ _ => id) ?_⟩, rfl⟩
      · cases labelled
        exact ⟨own, fun _ => rfl⟩
      · exact subset_inside (some label) (List.nil_subset _)
    next => cases swapped
  leaf move member _ := move member
  map {l entries held} kept there := by
    refine ⟨there, ?_⟩
    rintro rfl
    rw [refreshed, if_pos rfl] at kept
    cases kept
  list _ list there := settled_list sorted own rfl list there
  kind there := settled_kind sorted own there

/-- Leaves of a label give way to a container that has the label. -/
theorem reshows_filled (sorted : Sorted holds) {base : List Label} {container held : Value}
    (labelled : outline container = .again label held.isMap) (own : holds label held)
    (shown : Shows holds base container) :
    Reshows holds holds (filled label container)
      fun old new => old ⊆ label :: new ∧ base ⊆ new where
  into {old new} l move := by
    refine ⟨?_, List.subset_append_of_subset_right _ move.2⟩
    intro k member
    rcases List.mem_append.mp member with own | old
    · exact .tail _ (List.mem_append_left _ own)
    · rcases List.mem_cons.mp (move.1 old) with rfl | new
      · exact .head _
      · exact .tail _ (List.mem_append_right _ new)
  fresh {old new u w} move there swapped := by
    unfold filled at swapped
    split at swapped
    next l items =>
      rw [Option.ite_none_right_eq_some] at swapped
      obtain ⟨rfl, ⟨⟩⟩ := swapped
      refine ⟨⟨there.1, there.2.mono (fun _ _ => id) ?_⟩, rfl⟩
      exact List.cons_subset.mpr ⟨.head _, move.1⟩
    next l entries =>
      rw [Option.ite_none_right_eq_some] at swapped
      obtain ⟨rfl, ⟨⟩⟩ := swapped
      refine ⟨⟨there.1, there.2.mono (fun _ _ => id) ?_⟩, rfl⟩
      exact List.cons_subset.mpr ⟨.head _, move.1⟩
    next l mapping =>
      rw [Option.ite_none_right_eq_some] at swapped
      obtain ⟨rfl, ⟨⟩⟩ := swapped
      obtain ⟨-, other, holdsOther, rfl⟩ := there
      refine ⟨Shows.mono (fun _ _ => id) move.2 _ shown, ?_⟩
      rw [sorted _ _ _ holdsOther own, labelled]
      rfl
    next => cases swapped
  leaf {old new l mapping} move member kept := by
    refine (List.mem_cons.mp (move.1 member)).resolve_left ?_
    rintro rfl
    rw [filled, if_pos rfl] at kept
    cases kept
  map _ there := there
  list _ _ there := there
  kind there := ⟨_, there, rfl⟩

/-! ### Showing a mapping wherever it occurs -/

/-- Containers inside each other, the innermost first, with what is shown in each. -/
def Nested (holds : Label → Value → Prop) (around : List Label) : List (Label × Entries) → Prop
  | [] => True
  | (l, entries) :: outer =>
      Shows holds (outer.map Prod.fst ++ around) (.map (some l) entries) ∧
        Nested holds around outer

theorem Nested.append {inner outer : List (Label × Entries)}
    (one : Nested holds (outer.map Prod.fst ++ around) inner) (two : Nested holds around outer) :
    Nested holds around (inner ++ outer) := by
  induction inner with
  | nil => exact two
  | cons x rest ih =>
    obtain ⟨first, others⟩ := one
    refine ⟨?_, ih others⟩
    change Shows holds ((rest ++ outer).map Prod.fst ++ around) _
    rwa [List.map_append, List.append_assoc]

/-- What is shown at a place, and in the containers around it. -/
theorem ShowsEntries.at? (shown : ShowsEntries holds around entries) {path : List Scalar}
    {own : Entries} (found : (Value.map none entries).at? path = some (.map (some label) own)) :
    Nested holds around (enclosing entries path) ∧
      Shows holds ((enclosing entries path).map Prod.fst ++ around) (.map (some label) own) := by
  induction path generalizing entries around with
  | nil => cases found
  | cons key rest ih =>
    obtain ⟨child, there, found⟩ := Option.bind_eq_some_iff.mp found
    have below := shown.get? there
    cases rest with
    | nil =>
      rw [at?_nil] at found
      cases found
      exact ⟨trivial, below⟩
    | cons next rest =>
      cases child with
      | map outer child =>
        obtain ⟨nested, here⟩ := ih below.2 found
        have labels : (outer.toList.map (·, child)).map Prod.fst = outer.toList := by
          cases outer <;> rfl
        rw [enclosing_of_get? there, List.map_append, labels, List.append_assoc]
        refine ⟨Nested.append (labels.symm ▸ nested) ?_, here⟩
        cases outer with
        | none => trivial
        | some l => exact ⟨below, trivial⟩
      | _ => cases found

theorem ShowsEntries.knot (shown : ShowsEntries holds around entries) (sorted : Sorted holds)
    (own : holds label content) (mapping : content.isMap = true) (member : label ∈ around) :
    ShowsEntries (Settled holds label content) around (replaceEntries (knotted label) entries) ∧
      outlineEntries (replaceEntries (knotted label) entries) = outlineEntries entries :=
  ShowsEntries.replace (reshows_knotted sorted own mapping) ⟨List.Subset.refl _, member⟩ entries
    shown

/-- Leaves for the containers around a place give way to these one by one, and after each there is
one container less that a leaf may stand for. -/
theorem ShowsEntries.fillAll {outer : List (Label × Entries)} {inner : Entries}
    (shown : ShowsEntries (Settled holds label content) (label :: outer.map Prod.fst) inner)
    (nested : Nested holds [] outer) (sorted : Sorted holds) (own : holds label content)
    (mapping : content.isMap = true) :
    let all := (outer.filter (·.1 != label)).foldl (fun inner around =>
      fillEntries around.1 (.map (some around.1) (knotEntries label around.2)) inner) inner
    ShowsEntries (Settled holds label content) [label] all ∧
      outlineEntries all = outlineEntries inner := by
  induction outer generalizing inner with
  | nil => exact ⟨shown, rfl⟩
  | cons x outer ih =>
    obtain ⟨l, entries⟩ := x
    obtain ⟨there, others⟩ := nested
    rw [List.append_nil] at there
    by_cases same : l = label
    · subst same
      rw [List.filter_cons_of_neg (by simp)]
      refine ih (shown.mono (fun _ _ => id) ?_) others
      exact List.cons_subset.mpr ⟨.head _, List.Subset.refl _⟩
    · rw [List.filter_cons_of_pos (by simpa using same), List.foldl_cons,
        knotEntries_eq_replaceEntries, fillEntries_eq_replaceEntries]
      have swapped : l :: outer.map Prod.fst ⊆ l :: label :: outer.map Prod.fst :=
        List.cons_subset_cons l (List.subset_cons_self _ _)
      obtain ⟨knotted, outlined⟩ := (there.2.mono (fun _ _ => id) swapped).knot sorted own mapping
        (.tail _ (.head _))
      have container : Shows (Settled holds label content) (label :: outer.map Prod.fst)
          (.map (some l) (replaceEntries (Value.knotted label) entries)) := by
        refine ⟨fun k labelled => ?_, knotted⟩
        cases labelled
        rw [outlined]
        exact ⟨there.1 l rfl, fun equal => absurd equal same⟩
      have turned : label :: l :: outer.map Prod.fst ⊆ l :: label :: outer.map Prod.fst :=
        (List.Perm.swap l label _).subset
      obtain ⟨filled, outlined⟩ := ShowsEntries.replace
        (reshows_filled (Settled.sorted sorted) rfl (container.1 l rfl) container)
        ⟨turned, List.Subset.refl _⟩ inner shown
      obtain ⟨final, outlined'⟩ := ih filled others
      exact ⟨final, outlined'.trans outlined⟩

/-- The entries of a mapping as they may stand anywhere show one content of it. -/
theorem Shows.standalone {outer : List (Label × Entries)}
    (shown : Shows holds (outer.map Prod.fst) (.map (some label) entries))
    (nested : Nested holds [] outer) (sorted : Sorted holds) :
    let anew := Value.standalone label outer entries
    ShowsEntries (Settled holds label (.ofEntries (outlineEntries entries))) [label] anew ∧
      outlineEntries anew = outlineEntries entries := by
  have own := shown.1 label rfl
  obtain ⟨knotted, outlined⟩ := ShowsEntries.knot shown.2 sorted own rfl (.head _)
  obtain ⟨filled, outlined'⟩ := knotted.fillAll nested sorted own rfl
  unfold Value.standalone
  rw [knotEntries_eq_replaceEntries]
  exact ⟨filled, outlined'.trans outlined⟩

/-- Showing a mapping wherever it occurs leaves the content that was at the place. -/
theorem ShowsEntries.share (shown : ShowsEntries holds [] entries) (sorted : Sorted holds)
    {path : List Scalar} {own : Entries}
    (found : (Value.map none entries).at? path = some (.map (some label) own)) :
    ShowsEntries (Settled holds label (.ofEntries (outlineEntries own))) []
        (Value.share entries path) ∧
      outlineEntries (Value.share entries path) = outlineEntries entries := by
  obtain ⟨nested, there⟩ := shown.at? found
  rw [List.append_nil] at there
  obtain ⟨anew, outlined⟩ := there.standalone nested sorted
  have held := there.1 label rfl
  rw [Value.share, found]
  dsimp only
  rw [refreshEntries_eq_replaceEntries]
  rw [← outlined] at anew held ⊢
  exact ShowsEntries.replace (reshows_refreshed sorted held anew) (List.Subset.refl _) entries shown

end Settled

end Value

end MarkupLint
