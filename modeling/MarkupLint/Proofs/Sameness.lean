import Mathlib.Data.List.Perm.Subperm
import MarkupLint.Proofs.AppendedItems
import MarkupLint.Proofs.Labels

/-!
Equality of values: of lists item by item, of sets member by member and of mappings key by key, both
in any order. Main statements: two values that equal a third one equal each other
(`Value.same_trans`), and equality goes both ways for values that are told apart by comparing them
and whose sets hold nothing twice (`Value.same_comm`), since mappings or sets of one size have the
same keys or members as soon as those of one are among those of the other.
-/
namespace MarkupLint

theorem Scalar.same_trans {a b c : Scalar} (left : a.same b = true) (right : b.same c = true) :
    a.same c = true := by
  rw [Scalar.same_comm, Scalar.same_congr left, Scalar.same_comm, right]

namespace Value

theorem sameMembers_iff {xs ys : List Scalar} :
    sameMembers xs ys = true ↔
      xs.length = ys.length ∧ ∀ x ∈ xs, ∃ y ∈ ys, x.same y = true := by
  rw [sameMembers, Bool.and_eq_true, beq_iff_eq, List.all_eq_true]
  simp only [List.any_eq_true]

theorem sameEntries_iff {part : List (Scalar × Value)} {whole : Entries} :
    sameEntries part whole = true ↔
      ∀ entry ∈ part, ∃ other, whole.get? entry.1 = some other ∧ entry.2.same other = true := by
  induction part with
  | nil => simp [sameEntries]
  | cons entry rest ih =>
    rw [sameEntries, Bool.and_eq_true, ih, List.forall_mem_cons]
    refine and_congr_left fun _ => ?_
    cases whole.get? entry.1 <;> simp

/-! ### A third value -/

mutual

theorem same_trans : (a b c : Value) → a.same b = true → b.same c = true → a.same c = true
  | .scalar a, .scalar b, .scalar c, left, right => by
    rw [same] at left right ⊢
    exact Scalar.same_trans left right
  | .list _ xs, .list _ ys, .list _ zs, left, right => by
    rw [same] at left right ⊢
    exact sameItems_trans xs ys zs left right
  | .pair _ a b, .pair _ c d, .pair _ e f, left, right => by
    rw [same, Bool.and_eq_true] at left right ⊢
    exact ⟨same_trans a c e left.1 right.1, same_trans b d f left.2 right.2⟩
  | .set _ xs, .set _ ys, .set _ zs, left, right => by
    rw [same, sameMembers_iff] at left right ⊢
    refine ⟨left.1.trans right.1, fun x member => ?_⟩
    obtain ⟨y, among, alike⟩ := left.2 x member
    obtain ⟨z, behind, further⟩ := right.2 y among
    exact ⟨z, behind, Scalar.same_trans alike further⟩
  | .map _ es, .map _ fs, .map _ gs, left, right => by
    rw [same, Bool.and_eq_true, beq_iff_eq] at left right ⊢
    exact ⟨left.1.trans right.1, sameEntries_trans es fs gs left.2 right.2⟩
  | .again l _, .again m _, .again n _, left, right => by
    rw [same, beq_iff_eq] at left right ⊢
    exact left.trans right

theorem sameItems_trans : (xs ys zs : List Value) → sameItems xs ys = true →
    sameItems ys zs = true → sameItems xs zs = true
  | [], [], [], _, _ => by rw [sameItems]
  | x :: xs, y :: ys, z :: zs, left, right => by
    rw [sameItems, Bool.and_eq_true] at left right ⊢
    exact ⟨same_trans x y z left.1 right.1, sameItems_trans xs ys zs left.2 right.2⟩

theorem sameEntries_trans : (part : List (Scalar × Value)) → (middle whole : Entries) →
    sameEntries part middle = true → sameEntries middle whole = true →
      sameEntries part whole = true
  | [], _, _, _, _ => by rw [sameEntries]
  | (key, value) :: rest, middle, whole, left, right => by
    obtain ⟨⟨other, found, alike⟩, others⟩ := List.forall_mem_cons.mp (sameEntries_iff.mp left)
    obtain ⟨own, member, isKey⟩ := mem_of_get? found
    obtain ⟨third, held, further⟩ := sameEntries_iff.mp right _ member
    rw [sameEntries, ← Entries.get?_congr isKey, held, Bool.and_eq_true]
    exact ⟨same_trans value other third alike further,
      sameEntries_trans rest middle whole (sameEntries_iff.mpr others) right⟩

end

/-! ### The other way round -/

mutual

/-- Whether no set in a value holds a member twice. -/
def membersDiffer : Value → Bool
  | .list _ items => itemMembersDiffer items
  | .pair _ first second => membersDiffer first && membersDiffer second
  | .set _ members => (members.map Scalar.key?).Nodup
  | .map _ entries => entryMembersDiffer entries
  | .scalar _ | .again _ _ => true

def itemMembersDiffer : List Value → Bool
  | [] => true
  | item :: rest => membersDiffer item && itemMembersDiffer rest

def entryMembersDiffer : List (Scalar × Value) → Bool
  | [] => true
  | (_, value) :: rest => membersDiffer value && entryMembersDiffer rest

end

/-- Of two lists of one length, if the first holds nothing twice and each of its members is one of
the second, then each member of the second is one of the first. -/
theorem exists_same_of_length_eq {xs ys : List Scalar} (distinct : (xs.map Scalar.key?).Nodup)
    (length : xs.length = ys.length) (among : ∀ x ∈ xs, ∃ y ∈ ys, x.same y = true) :
    ∀ y ∈ ys, ∃ x ∈ xs, y.same x = true := by
  have within : xs.map Scalar.key? ⊆ ys.map Scalar.key? := by
    intro key member
    obtain ⟨x, inside, rfl⟩ := List.mem_map.mp member
    obtain ⟨y, there, alike⟩ := among x inside
    obtain ⟨key, own, other⟩ := Scalar.same_iff.mp alike
    rw [own, ← other]
    exact List.mem_map_of_mem there
  have perm : (xs.map Scalar.key?).Perm (ys.map Scalar.key?) :=
    (List.subperm_of_subset distinct within).perm_of_length_le (by simp [length])
  intro y member
  obtain ⟨x, inside, alike⟩ := List.mem_map.mp (perm.symm.subset (List.mem_map_of_mem member))
  obtain ⟨_, _, comparable⟩ := among x inside
  obtain ⟨key, own, -⟩ := Scalar.same_iff.mp comparable
  exact ⟨x, inside, Scalar.same_iff.mpr ⟨key, alike ▸ own, own⟩⟩

theorem nodup_keys_of_comparable {entries : Entries}
    (comparable : entriesComparable entries = true) :
    ((entries.map (·.1)).map Scalar.key?).Nodup := by
  induction entries with
  | nil => exact List.nodup_nil
  | cons entry rest ih =>
    obtain ⟨key, value⟩ := entry
    obtain ⟨self, once, -, others⟩ := entriesComparable_cons.mp comparable
    rw [List.map_cons, List.map_cons, List.nodup_cons]
    refine ⟨fun member => ?_, ih others⟩
    obtain ⟨other, inside, alike⟩ := List.mem_map.mp member
    obtain ⟨entry, there, rfl⟩ := List.mem_map.mp inside
    obtain ⟨own, isKey, -⟩ := Scalar.same_iff.mp self
    rw [Entries.get?, Option.map_eq_none_iff, List.find?_eq_none] at once
    exact once entry there (Scalar.same_iff.mpr ⟨own, alike.trans isKey, isKey⟩)

mutual

theorem same_symm : (a b : Value) → a.same b = true → a.isComparable = true →
    a.membersDiffer = true → b.isComparable = true → b.same a = true
  | .scalar a, .scalar b, alike => by
    intro _ _ _
    rw [same] at alike ⊢
    rwa [Scalar.same_comm]
  | .list _ xs, .list _ ys, alike => by
    intro own differ other
    rw [same] at alike ⊢
    exact sameItems_symm xs ys alike own differ other
  | .pair _ a b, .pair _ c d, alike => by
    intro own differ other
    rw [isComparable, Bool.and_eq_true] at own other
    rw [membersDiffer, Bool.and_eq_true] at differ
    rw [same, Bool.and_eq_true] at alike ⊢
    exact ⟨same_symm a c alike.1 own.1 differ.1 other.1,
      same_symm b d alike.2 own.2 differ.2 other.2⟩
  | .set _ xs, .set _ ys, alike => by
    intro _ differ _
    rw [membersDiffer, decide_eq_true_eq] at differ
    rw [same, sameMembers_iff] at alike ⊢
    exact ⟨alike.1.symm, exists_same_of_length_eq differ alike.1 alike.2⟩
  | .map _ es, .map _ fs, alike => by
    intro own differ other
    rw [isComparable] at own other
    rw [same, Bool.and_eq_true, beq_iff_eq] at alike ⊢
    have back := sameEntries_symm es fs alike.2 own differ other
    -- the second mapping has as many keys as the first, so each of them is one of the first
    have length : (es.map (·.1)).length = (fs.map (·.1)).length := by simp [alike.1]
    have matched := exists_same_of_length_eq (nodup_keys_of_comparable own) length
      fun key member => by
        obtain ⟨entry, inside, rfl⟩ := List.mem_map.mp member
        obtain ⟨held, found, -⟩ := back entry inside
        obtain ⟨own, there, isKey⟩ := mem_of_get? found
        exact ⟨own, List.mem_map_of_mem there, by rwa [Scalar.same_comm]⟩
    refine ⟨alike.1.symm, sameEntries_iff.mpr fun entry member => ?_⟩
    obtain ⟨key, inside, isKey⟩ := matched entry.1 (List.mem_map_of_mem member)
    obtain ⟨⟨_, value⟩, there, rfl⟩ := List.mem_map.mp inside
    obtain ⟨held, found, further⟩ := back _ there
    rw [← Entries.get?_congr isKey, get?_of_mem other member] at found
    refine ⟨value, ?_, Option.some.inj found ▸ further⟩
    rw [Entries.get?_congr isKey, get?_of_mem own there]
  | .again l _, .again m _, alike => by
    intro _ _ _
    rw [same, beq_iff_eq] at alike ⊢
    exact alike.symm

theorem sameItems_symm : (xs ys : List Value) → sameItems xs ys = true →
    itemsComparable xs = true → itemMembersDiffer xs = true → itemsComparable ys = true →
      sameItems ys xs = true
  | [], [], _ => by
    intro _ _ _
    rw [sameItems]
  | x :: xs, y :: ys, alike => by
    intro own differ other
    rw [itemsComparable, Bool.and_eq_true] at own other
    rw [itemMembersDiffer, Bool.and_eq_true] at differ
    rw [sameItems, Bool.and_eq_true] at alike ⊢
    exact ⟨same_symm x y alike.1 own.1 differ.1 other.1,
      sameItems_symm xs ys alike.2 own.2 differ.2 other.2⟩

theorem sameEntries_symm : (part : List (Scalar × Value)) → (whole : Entries) →
    sameEntries part whole = true → entriesComparable part = true →
      entryMembersDiffer part = true → entriesComparable whole = true →
        ∀ entry ∈ part, ∃ other, whole.get? entry.1 = some other ∧ other.same entry.2 = true
  | [], _, _ => by
    intro _ _ _ entry member
    cases member
  | (key, value) :: rest, whole, alike => by
    intro own differ wholly
    obtain ⟨⟨other, found, same⟩, others⟩ := List.forall_mem_cons.mp (sameEntries_iff.mp alike)
    obtain ⟨-, -, comparable, behind⟩ := entriesComparable_cons.mp own
    rw [entryMembersDiffer, Bool.and_eq_true] at differ
    exact List.forall_mem_cons.mpr
      ⟨⟨other, found,
          same_symm value other same comparable differ.1 (isComparable_of_get? wholly found)⟩,
        sameEntries_symm rest whole (sameEntries_iff.mpr others) behind differ.2 wholly⟩

end

theorem same_comm {a b : Value} (own : a.isComparable = true) (ownDiffer : a.membersDiffer = true)
    (other : b.isComparable = true) (otherDiffer : b.membersDiffer = true) : a.same b = b.same a :=
  Bool.eq_iff_iff.mpr
    ⟨fun alike => same_symm a b alike own ownDiffer other,
      fun alike => same_symm b a alike other otherDiffer own⟩

end Value

end MarkupLint
