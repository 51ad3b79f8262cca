import MarkupLint.Proofs.AppendedItems
import MarkupLint.Proofs.ListsWithin

/-!
A layer that is laid over a result of its own. What a list adds is there already, what replaces is
replaced by itself, and mappings that came in whole are laid over themselves. Only a list that a
replacing mark opens would change again: its mark is taken off the second time, if it met no list
the first time. Main statement: laying a layer a second time changes nothing
(`Value.mergeLayer_mergeLayer`). Which containers are one is no part of that: a mapping that came in
whole is a new one afterwards. Leaves that stand for a container around them count as values.
-/
namespace MarkupLint.Value

mutual

/-- A value without the labels of its lists and mappings: what is in it and in which order, but not
which containers are one. -/
def unshared : Value → Value
  | .scalar s => .scalar s
  | .list _ items => .list none (unsharedItems items)
  | .pair label first second => .pair label (unshared first) (unshared second)
  | .set label members => .set label members
  | .map _ entries => .map none (unsharedEntries entries)
  | .again label mapping => .again label mapping

def unsharedItems : List Value → List Value
  | [] => []
  | item :: rest => unshared item :: unsharedItems rest

def unsharedEntries : List (Scalar × Value) → Entries
  | [] => []
  | (key, value) :: rest => (key, unshared value) :: unsharedEntries rest

end

/-- A list that a replacing mark does not open. -/
def Unreplaced (items : List Value) : Prop :=
  items.head? ≠ some (.str replaceMark)

/-! ### Lists -/

/-- A list appends, replaces with its mark taken off, or replaces as it is. -/
theorem mergeItems_cases (items : List Value) :
    (∃ rest, items = .str appendMark :: rest ∧
        ∀ base, mergeItems base items = appendNew base rest) ∨
      (∃ rest, items = .str replaceMark :: rest) ∨ ∀ base, mergeItems base items = items := by
  cases items with
  | nil => exact .inr (.inr fun _ => rfl)
  | cons item rest =>
    cases item with
    | scalar s =>
      cases s with
      | str mark =>
        by_cases append : mark = appendMark
        · exact .inl ⟨rest, by rw [append], fun base => by rw [mergeItems, if_pos append]⟩
        · by_cases replace : mark = replaceMark
          · exact .inr (.inl ⟨rest, by rw [replace]⟩)
          · exact .inr (.inr fun base => by rw [mergeItems, if_neg append, if_neg replace])
      | _ => exact .inr (.inr fun _ => rfl)
    | _ => exact .inr (.inr fun _ => rfl)

theorem mergeItems_mergeItems {items : List Value} (unreplaced : Unreplaced items)
    (self : ∀ item ∈ items, item.same item = true) (base : List Value) :
    mergeItems (mergeItems base items) items = mergeItems base items := by
  rcases mergeItems_cases items with ⟨rest, rfl, appends⟩ | ⟨rest, rfl⟩ | replaces
  · rw [appends, appends, appendNew_appendNew (List.forall_mem_cons.mp self).2]
  · exact absurd rfl unreplaced
  · rw [replaces, replaces]

/-- A list that met none keeps its mark, and has all the items that it adds to itself. -/
theorem mergeItems_self {items : List Value} (unreplaced : Unreplaced items)
    (self : ∀ item ∈ items, item.same item = true) : mergeItems items items = items := by
  rcases mergeItems_cases items with ⟨rest, rfl, appends⟩ | ⟨rest, rfl⟩ | replaces
  · rw [appends]
    apply appendNew_eq_self
    intro item member
    exact isIn_of_mem (self item (.tail _ member)) (.tail _ member)
  · exact absurd rfl unreplaced
  · exact replaces items

/-! ### Mappings -/

theorem unsharedEntries_set {entries : Entries} {key : Scalar} {held value : Value}
    (found : entries.get? key = some held) (alike : value.unshared = held.unshared) :
    unsharedEntries (entries.set key value) = unsharedEntries entries := by
  induction entries with
  | nil => cases found
  | cons entry rest ih =>
    obtain ⟨own, old⟩ := entry
    rw [Entries.get?_cons] at found
    rw [Entries.set]
    split at found
    next same =>
      cases found
      rw [if_pos same, unsharedEntries, unsharedEntries, alike]
    next other =>
      rw [if_neg other, unsharedEntries, unsharedEntries, ih found]

/-- A mapping changes nothing if under none of its keys it does. -/
theorem unsharedEntries_mergeEntries {incoming base : Entries}
    (differ : entryKeysDiffer incoming = true)
    (settled : ∀ entry ∈ incoming, ∃ held, base.get? entry.1 = some held ∧
      (mergeOver (some held) entry.2).unshared = held.unshared) :
    unsharedEntries (mergeEntries base incoming) = unsharedEntries base := by
  induction incoming generalizing base with
  | nil => rw [mergeEntries]
  | cons entry rest ih =>
    obtain ⟨key, value⟩ := entry
    obtain ⟨once, -, others⟩ := entryKeysDiffer_cons.mp differ
    obtain ⟨⟨held, found, alike⟩, behind⟩ := List.forall_mem_cons.mp settled
    rw [mergeEntries, found, ih others, unsharedEntries_set found alike]
    -- the keys behind are others, so what they hold is what they held
    intro entry member
    obtain ⟨own, there, same⟩ := behind entry member
    refine ⟨own, ?_, same⟩
    rw [Entries.get?_set, if_neg, there]
    intro equal
    rw [Entries.get?, Option.map_eq_none_iff, List.find?_eq_none] at once
    exact once entry member (Scalar.same_comm key entry.1 ▸ equal)

/-- What the keys of a mapping hold once it has been laid over another one, with the same laid over
each of them once more. -/
theorem unsharedEntries_mergeEntries_mergeEntries {incoming : Entries}
    (comparable : entriesComparable incoming = true)
    (settled : ∀ entry ∈ incoming, ∀ current,
      (mergeOver (some (mergeOver current entry.2)) entry.2).unshared =
        (mergeOver current entry.2).unshared) (base : Entries) :
    unsharedEntries (mergeEntries (mergeEntries base incoming) incoming) =
      unsharedEntries (mergeEntries base incoming) := by
  have differ := entryKeysDiffer_of_comparable incoming comparable
  apply unsharedEntries_mergeEntries differ
  intro entry member
  refine ⟨_, ?_, settled entry member (base.get? entry.1)⟩
  rw [get?_mergeEntries differ, get?_of_mem comparable member]

/-- A mapping that came in whole is laid over itself. -/
theorem unsharedEntries_mergeEntries_self {incoming : Entries}
    (comparable : entriesComparable incoming = true)
    (settled : ∀ entry ∈ incoming, ∀ current,
      (mergeOver (some (mergeOver current entry.2)) entry.2).unshared =
        (mergeOver current entry.2).unshared) :
    unsharedEntries (mergeEntries incoming incoming) = unsharedEntries incoming := by
  apply unsharedEntries_mergeEntries (entryKeysDiffer_of_comparable incoming comparable)
  intro entry member
  refine ⟨entry.2, get?_of_mem comparable member, ?_⟩
  have alone : mergeOver none entry.2 = entry.2 := mergeOver_eq_self nofun nofun
  have same := settled entry member none
  rwa [alone] at same

mutual

/-- What comes of an incoming value takes it again and stays the same. -/
theorem unshared_mergeOver_mergeOver : (value : Value) → value.isComparable = true →
    EachList Unreplaced value → ∀ current,
      (mergeOver (some (mergeOver current value)) value).unshared =
        (mergeOver current value).unshared
  | .scalar s, _, _, current => rfl
  | .pair l first second, _, _, current => rfl
  | .set l members, _, _, current => rfl
  | .again l mapping, _, _, current => rfl
  | .list l items, comparable, unreplaced, current => by
    have own := eachList_list_iff.mp unreplaced
    have self : ∀ item ∈ items, item.same item = true := fun item member =>
      same_self item (itemsComparable_iff.mp comparable item member)
    by_cases met : ∃ m below, current = some (.list m below)
    · obtain ⟨m, below, rfl⟩ := met
      rw [mergeOver, mergeOver, mergeItems_mergeItems own self]
    · have whole : mergeOver current (.list l items) = .list l items :=
        mergeOver_eq_self (fun _ _ _ _ _ => nofun)
          fun m below _ _ there => absurd ⟨m, below, there⟩ met
      rw [whole, mergeOver, mergeItems_self own self, unshared, unshared]
  | .map l entries, comparable, unreplaced, current => by
    have settled := unshared_mergeOver_mergeOver_entries entries comparable unreplaced
    by_cases met : ∃ m below, current = some (.map m below)
    · obtain ⟨m, below, rfl⟩ := met
      rw [mergeOver, mergeOver, unshared, unshared,
        unsharedEntries_mergeEntries_mergeEntries comparable settled]
    · have whole : mergeOver current (.map l entries) = .map l entries :=
        mergeOver_map_of_ne l entries fun m below there => met ⟨m, below, there⟩
      rw [whole, mergeOver, unshared, unshared,
        unsharedEntries_mergeEntries_self comparable settled]

theorem unshared_mergeOver_mergeOver_entries : (entries : List (Scalar × Value)) →
    entriesComparable entries = true → (∀ items ∈ listsInEntries entries, Unreplaced items) →
    ∀ entry ∈ entries, ∀ current,
      (mergeOver (some (mergeOver current entry.2)) entry.2).unshared =
        (mergeOver current entry.2).unshared
  | [], _, _ => nofun
  | (key, value) :: rest, comparable, unreplaced => by
    obtain ⟨-, -, own, others⟩ := entriesComparable_cons.mp comparable
    rw [listsInEntries, List.forall_mem_append] at unreplaced
    exact List.forall_mem_cons.mpr ⟨unshared_mergeOver_mergeOver value own unreplaced.1,
      unshared_mergeOver_mergeOver_entries rest others unreplaced.2⟩

end

/-- A layer that can be compared, and in which no replacing mark opens a list, can be laid over any
mapping, and then once more, and the second time nothing changes: neither what is found in the
result nor the order of its keys. -/
theorem mergeLayer_mergeLayer {layer : Entries} {label : Option Label}
    (comparable : (Value.map label layer).isComparable = true)
    (unreplaced : ∀ items ∈ (Value.map label layer).listsIn,
      items.head? ≠ some (.str replaceMark)) (base : Entries) :
    ∃ once twice, mergeLayer base (.map label layer) = .ok once ∧
      mergeLayer once (.map label layer) = .ok twice ∧
        (Value.map none twice).unshared = (Value.map none once).unshared := by
  refine ⟨_, _, mergeLayer_map base label layer, mergeLayer_map _ label layer, ?_⟩
  have settled := unshared_mergeOver_mergeOver_entries layer comparable unreplaced
  rw [unshared, unshared, unsharedEntries_mergeEntries_mergeEntries comparable settled]

/-- Lists that are added to and lists that met none, in a section that is on both sides and in one
that comes in whole, with items that are one in several forms. -/
theorem mergeLayer_mergeLayer_added :
    let base : Entries :=
      [(.str "a", .ofFields [("x", .ofStrings ["p", "q"])]), (.int 1, .null)]
    let layer : Entries :=
      [(.str "a", .ofFields [("x", .ofStrings ["+", "q", "r"]), ("y", .ofStrings ["+", "+"])]),
        (.bool true, .ofFields [("z", .ofList [.str "+", .int 1, .bool true, .ofList [.null]])])]
    (Value.map none layer).isComparable = true ∧
      (∀ items ∈ (Value.map none layer).listsIn, items.head? ≠ some (.str replaceMark)) ∧
      ∃ once twice, mergeLayer base (.map none layer) = .ok once ∧
        mergeLayer once (.map none layer) = .ok twice ∧
          (Value.map none twice).unshared = (Value.map none once).unshared := by
  intro base layer
  have comparable : (Value.map none layer).isComparable = true := by decide +kernel
  have unreplaced : ∀ items ∈ (Value.map none layer).listsIn,
      items.head? ≠ some (.str replaceMark) := by
    simp [layer, listsIn, listsInEntries, ofFields, ofStrings, ofList, replaceMark]
  exact ⟨comparable, unreplaced, mergeLayer_mergeLayer comparable unreplaced base⟩

end MarkupLint.Value
