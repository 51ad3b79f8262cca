import Mathlib.Data.List.Basic
import MarkupLint.Proofs.LaidOver

/-!
Items that are appended to a list. An item is left out if one that equals it is there; a value
equals itself unless a number in it does not (`Value.same_self`). Main statements: appending keeps
what was there, every item equals one of the result, and appending items again adds nothing
(`Value.appendNew_appendNew`).
-/
namespace MarkupLint.Value

mutual

/-- Whether values are told apart by comparing them: no scalar in a value, keys and members
included, is a number that differs from itself, and no mapping in it holds a key twice. -/
def isComparable : Value → Bool
  | .scalar s => s.same s
  | .list _ items => itemsComparable items
  | .pair _ first second => isComparable first && isComparable second
  | .set _ members => members.all fun s => s.same s
  | .map _ entries => entriesComparable entries
  | .again _ _ => true

def itemsComparable : List Value → Bool
  | [] => true
  | item :: rest => isComparable item && itemsComparable rest

def entriesComparable : List (Scalar × Value) → Bool
  | [] => true
  | (key, value) :: rest =>
      key.same key && !Entries.has rest key && isComparable value && entriesComparable rest

end

theorem itemsComparable_iff {items : List Value} :
    itemsComparable items = true ↔ ∀ item ∈ items, item.isComparable = true := by
  induction items with
  | nil => simp [itemsComparable]
  | cons item rest ih => rw [itemsComparable, Bool.and_eq_true, ih, List.forall_mem_cons]

theorem entriesComparable_cons {key : Scalar} {value : Value} {rest : Entries} :
    entriesComparable ((key, value) :: rest) = true ↔
      key.same key = true ∧ rest.get? key = none ∧ value.isComparable = true ∧
        entriesComparable rest = true := by
  rw [entriesComparable, Bool.and_eq_true, Bool.and_eq_true, Bool.and_eq_true, Bool.not_eq_true',
    Entries.has, Option.isSome_eq_false_iff, Option.isNone_iff_eq_none, and_assoc, and_assoc]

/-- A key is held once, so that looking it up gives what stands beside it. -/
theorem get?_of_mem {entries : Entries} (comparable : entriesComparable entries = true)
    {key : Scalar} {value : Value} (member : (key, value) ∈ entries) :
    entries.get? key = some value := by
  induction entries with
  | nil => cases member
  | cons entry rest ih =>
    obtain ⟨own, held⟩ := entry
    obtain ⟨self, once, -, others⟩ := entriesComparable_cons.mp comparable
    rw [Entries.get?_cons]
    rcases List.mem_cons.mp member with same | behind
    · cases same
      rw [if_pos self]
    · rw [if_neg, ih others behind]
      intro alike
      have found := ih others behind
      rw [← Entries.get?_congr alike, once] at found
      cases found

theorem isComparable_of_get? {entries : Entries} {key : Scalar} {value : Value}
    (comparable : entriesComparable entries = true) (found : entries.get? key = some value) :
    value.isComparable = true := by
  induction entries with
  | nil => cases found
  | cons entry rest ih =>
    obtain ⟨-, -, own, others⟩ := entriesComparable_cons.mp comparable
    rw [Entries.get?_cons] at found
    split at found
    next => exact Option.some.inj found ▸ own
    next => exact ih others found

mutual

/-- A value that can be compared equals itself. -/
theorem same_self : (value : Value) → value.isComparable = true → value.same value = true
  | .scalar s, comparable => by
    rw [same]
    exact comparable
  | .list _ items, comparable => by
    rw [same]
    exact sameItems_self items comparable
  | .pair _ first second, comparable => by
    rw [isComparable, Bool.and_eq_true] at comparable
    rw [same, same_self first comparable.1, same_self second comparable.2, Bool.and_self]
  | .set _ members, comparable => by
    rw [same, sameMembers, BEq.rfl, Bool.true_and, List.all_eq_true]
    intro x member
    exact List.any_eq_true.mpr ⟨x, member, List.all_eq_true.mp comparable x member⟩
  | .map _ entries, comparable => by
    rw [same, BEq.rfl, Bool.true_and]
    exact sameEntries_self entries entries comparable fun key value => get?_of_mem comparable
  | .again _ _, _ => by rw [same, BEq.rfl]

theorem sameItems_self : (items : List Value) → itemsComparable items = true →
    sameItems items items = true
  | [], _ => by rw [sameItems]
  | item :: rest, comparable => by
    rw [itemsComparable, Bool.and_eq_true] at comparable
    rw [sameItems, same_self item comparable.1, sameItems_self rest comparable.2, Bool.and_self]

theorem sameEntries_self : (part : List (Scalar × Value)) → (whole : Entries) →
    entriesComparable part = true →
    (∀ key value, (key, value) ∈ part → whole.get? key = some value) →
    sameEntries part whole = true
  | [], _, _, _ => by rw [sameEntries]
  | (key, value) :: rest, whole, comparable, held => by
    obtain ⟨-, -, own, others⟩ := entriesComparable_cons.mp comparable
    rw [sameEntries, held key value (.head _)]
    dsimp only
    rw [same_self value own, Bool.true_and]
    exact sameEntries_self rest whole others fun k v member => held k v (.tail _ member)

end

mutual

theorem keysDiffer_of_isComparable : (value : Value) → value.isComparable = true →
    value.keysDiffer = true
  | .map _ entries, comparable => by
    rw [keysDiffer]
    exact entryKeysDiffer_of_comparable entries comparable
  | .scalar _, _ | .list _ _, _ | .pair _ _ _, _ | .set _ _, _ | .again _ _, _ => rfl

theorem entryKeysDiffer_of_comparable : (entries : List (Scalar × Value)) →
    entriesComparable entries = true → entryKeysDiffer entries = true
  | [], _ => by rw [entryKeysDiffer]
  | (key, value) :: rest, comparable => by
    obtain ⟨-, once, own, others⟩ := entriesComparable_cons.mp comparable
    exact entryKeysDiffer_cons.mpr
      ⟨once, keysDiffer_of_isComparable value own, entryKeysDiffer_of_comparable rest others⟩

end

/-! ### Appending -/

theorem mergeItems_append (base items : List Value) :
    mergeItems base (.str appendMark :: items) = appendNew base items := by
  rw [mergeItems, if_pos rfl]

theorem appendNew_cons (base : List Value) (item : Value) (rest : List Value) :
    appendNew base (item :: rest) =
      appendNew (if item.isIn base then base else base ++ [item]) rest :=
  rfl

theorem subset_appendNew (base items : List Value) : base ⊆ appendNew base items := by
  unfold appendNew
  induction items generalizing base with
  | nil => exact List.Subset.refl _
  | cons item rest ih =>
    rw [List.foldl_cons]
    refine List.Subset.trans ?_ (ih _)
    split
    next => exact List.Subset.refl _
    next => exact List.subset_append_left _ _

theorem isIn_mono {item : Value} {base wider : List Value} (known : item.isIn base = true)
    (sub : base ⊆ wider) : item.isIn wider = true := by
  obtain ⟨own, member, alike⟩ := List.any_eq_true.mp known
  exact List.any_eq_true.mpr ⟨own, sub member, alike⟩

theorem isIn_of_mem {item : Value} {items : List Value} (self : item.same item = true)
    (member : item ∈ items) : item.isIn items = true :=
  List.any_eq_true.mpr ⟨item, member, self⟩

/-- Each item that is appended equals one of the result. -/
theorem isIn_appendNew {item : Value} {items : List Value} (self : item.same item = true)
    (member : item ∈ items) (base : List Value) : item.isIn (appendNew base items) = true := by
  induction items generalizing base with
  | nil => cases member
  | cons first rest ih =>
    rw [appendNew_cons]
    rcases List.mem_cons.mp member with rfl | behind
    · refine isIn_mono ?_ (subset_appendNew _ rest)
      split
      next known => exact known
      next => exact isIn_of_mem self (List.mem_append_right base (.head _))
    · exact ih behind _

theorem appendNew_eq_self {base items : List Value}
    (known : ∀ item ∈ items, item.isIn base = true) : appendNew base items = base := by
  induction items with
  | nil => rfl
  | cons item rest ih =>
    obtain ⟨own, others⟩ := List.forall_mem_cons.mp known
    rw [appendNew_cons, if_pos own, ih others]

theorem appendNew_appendNew {items : List Value} (self : ∀ item ∈ items, item.same item = true)
    (base : List Value) : appendNew (appendNew base items) items = appendNew base items :=
  appendNew_eq_self fun item member => isIn_appendNew (self item member) member base

end MarkupLint.Value
