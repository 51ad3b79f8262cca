import MarkupLint.Proofs.Markers

/-!
The pieces of a text between marks, and texts put together from pieces. Main statement: splitting
gives those pieces and no others of which the text is made, when the mark stands in no piece and is
met behind each of them for the first time (`Text.split_eq_iff`).
-/
namespace MarkupLint.Text

variable {mark piece rest text : List Char} {pieces : List (List Char)}

/-! ### Splitting -/

theorem splitFrom_eq_drop (mark : List Char) (covered : Nat) (text : List Char) :
    splitFrom mark covered text = split mark (text.drop covered) := by
  induction text generalizing covered with
  | nil => cases covered <;> rfl
  | cons c rest ih =>
    cases covered with
    | zero => rfl
    | succ covered => exact ih covered

theorem split_append (nonempty : mark ≠ []) (rest : List Char) :
    split mark (mark ++ rest) = [] :: split mark rest := by
  cases mark with
  | nil => exact absurd rfl nonempty
  | cons c tail =>
    have begins : (c :: tail).isPrefixOf (c :: (tail ++ rest)) = true :=
      List.isPrefixOf_iff_prefix.mpr (List.prefix_append (c :: tail) rest)
    rw [List.cons_append, split, splitFrom, if_pos begins, splitFrom_eq_drop]
    exact congrArg ([] :: split (c :: tail) ·) (List.drop_left)

theorem split_of_apart {c : Char} (apart : ¬mark <+: c :: rest) :
    split mark (c :: rest) = consHead c (split mark rest) := by
  rw [← List.isPrefixOf_iff_prefix] at apart
  rw [split, splitFrom, if_neg apart]
  rfl

theorem split_ne_nil (nonempty : mark ≠ []) (text : List Char) : split mark text ≠ [] := by
  induction text using mark_induction nonempty with
  | nil => exact List.cons_ne_nil _ _
  | here rest ih => rw [split_append nonempty]; exact List.cons_ne_nil _ _
  | other c rest apart ih =>
    rw [split_of_apart apart]
    cases split mark rest <;> exact List.cons_ne_nil _ _

/-- The pieces put together again are the text. -/
theorem intercalate_split (nonempty : mark ≠ []) (text : List Char) :
    mark.intercalate (split mark text) = text := by
  induction text using mark_induction nonempty with
  | nil => rfl
  | here rest ih =>
    rw [split_append nonempty, List.intercalate_cons_of_ne_nil (split_ne_nil nonempty rest), ih,
      List.nil_append]
  | other c rest apart ih =>
    rw [split_of_apart apart]
    cases pieces : split mark rest with
    | nil => exact absurd pieces (split_ne_nil nonempty rest)
    | cons first others =>
      rw [pieces] at ih
      rw [consHead, ← ih]
      cases others <;> simp

/-! ### Cut pieces -/

/-- With the mark behind it, a piece has the mark at its end and nowhere before. -/
def IsBefore (mark piece : List Char) : Prop :=
  ¬mark <:+: (piece ++ mark).dropLast

/-- Pieces at which a text that is put together from them is cut. -/
def AreCut (mark : List Char) : List (List Char) → Prop
  | [] => False
  | [last] => ¬mark <:+: last
  | piece :: next :: pieces => IsBefore mark piece ∧ AreCut mark (next :: pieces)

theorem areCut_cons {others : List (List Char)} (nonempty : others ≠ []) :
    AreCut mark (piece :: others) ↔ IsBefore mark piece ∧ AreCut mark others := by
  cases others with
  | nil => exact absurd rfl nonempty
  | cons next pieces => exact Iff.rfl

theorem IsBefore.absent (nonempty : mark ≠ []) (before : IsBefore mark piece) :
    ¬mark <:+: piece := by
  intro inside
  rw [IsBefore, List.dropLast_append_of_ne_nil nonempty] at before
  exact before (inside.trans (List.prefix_append piece mark.dropLast).isInfix)

/-- No piece has the mark in it, and each but the last is ended by it. -/
theorem areCut_iff (nonempty : mark ≠ []) :
    AreCut mark pieces ↔ pieces ≠ [] ∧ (∀ piece ∈ pieces, ¬mark <:+: piece) ∧
      ∀ piece ∈ pieces.dropLast, IsBefore mark piece := by
  induction pieces with
  | nil => simp [AreCut]
  | cons piece others ih =>
    cases others with
    | nil => simp [AreCut]
    | cons next others =>
      rw [areCut_cons (List.cons_ne_nil next others), ih,
        List.dropLast_cons_of_ne_nil (List.cons_ne_nil next others)]
      constructor
      · rintro ⟨before, -, absent, seams⟩
        exact ⟨List.cons_ne_nil _ _, List.forall_mem_cons.mpr ⟨before.absent nonempty, absent⟩,
          List.forall_mem_cons.mpr ⟨before, seams⟩⟩
      · rintro ⟨-, absent, seams⟩
        obtain ⟨before, seams⟩ := List.forall_mem_cons.mp seams
        exact ⟨before, List.cons_ne_nil _ _, (List.forall_mem_cons.mp absent).2, seams⟩

theorem isBefore_cons_iff (nonempty : mark ≠ []) {c : Char} :
    IsBefore mark (c :: piece) ↔
      ¬mark <+: c :: (piece ++ mark).dropLast ∧ IsBefore mark piece := by
  have more : piece ++ mark ≠ [] := List.append_ne_nil_of_right_ne_nil piece nonempty
  rw [IsBefore, IsBefore, List.cons_append, List.dropLast_cons_of_ne_nil more, List.infix_cons_iff,
    not_or]

theorem isBefore_nil (nonempty : mark ≠ []) : IsBefore mark [] := by
  intro inside
  have shorter := inside.length_le
  have longer := List.length_pos_iff.mpr nonempty
  rw [List.nil_append, List.length_dropLast] at shorter
  omega

/-- A mark that begins a piece with the mark behind it begins it before its last character. -/
theorem prefix_dropLast_iff {c : Char} (rest : List Char) :
    mark <+: c :: (piece ++ mark ++ rest) ↔ mark <+: (c :: (piece ++ mark)).dropLast := by
  have front : (c :: (piece ++ mark)).dropLast <+: c :: (piece ++ mark ++ rest) :=
    (List.dropLast_prefix _).trans (List.prefix_append (c :: (piece ++ mark)) rest)
  refine ⟨fun begins => List.prefix_of_prefix_length_le begins front ?_, fun begins =>
    begins.trans front⟩
  rw [List.length_dropLast, List.length_cons, List.length_append]
  omega

/-- A piece is cut off where the mark is met for the first time. -/
theorem split_of_isBefore (nonempty : mark ≠ []) (before : IsBefore mark piece)
    (rest : List Char) : split mark (piece ++ mark ++ rest) = piece :: split mark rest := by
  induction piece with
  | nil => exact split_append nonempty rest
  | cons c piece ih =>
    obtain ⟨apart, before⟩ := (isBefore_cons_iff nonempty).mp before
    have more : piece ++ mark ≠ [] := List.append_ne_nil_of_right_ne_nil piece nonempty
    rw [← List.dropLast_cons_of_ne_nil more, ← prefix_dropLast_iff rest] at apart
    rw [List.cons_append, List.cons_append, split_of_apart apart, ih before]
    rfl

theorem split_of_absent (absent : ¬mark <:+: text) : split mark text = [text] := by
  induction text with
  | nil => rfl
  | cons c rest ih =>
    rw [List.infix_cons_iff, not_or] at absent
    rw [split_of_apart absent.1, ih absent.2]
    rfl

theorem split_intercalate (nonempty : mark ≠ []) (cut : AreCut mark pieces) :
    split mark (mark.intercalate pieces) = pieces := by
  induction pieces with
  | nil => exact cut.elim
  | cons piece others ih =>
    cases others with
    | nil =>
      rw [List.intercalate_singleton]
      exact split_of_absent cut
    | cons next others =>
      rw [List.intercalate_cons_cons, split_of_isBefore nonempty cut.1, ih cut.2]

theorem areCut_split (nonempty : mark ≠ []) (text : List Char) : AreCut mark (split mark text) := by
  induction text using mark_induction nonempty with
  | nil => exact mt List.infix_nil.mp nonempty
  | here rest ih =>
    rw [split_append nonempty, areCut_cons (split_ne_nil nonempty rest)]
    exact ⟨isBefore_nil nonempty, ih⟩
  | other c rest apart ih =>
    have whole := intercalate_split nonempty rest
    rw [split_of_apart apart]
    cases pieces : split mark rest with
    | nil => exact absurd pieces (split_ne_nil nonempty rest)
    | cons first others =>
      rw [pieces] at ih whole
      cases others with
      | nil =>
        rw [List.intercalate_singleton] at whole
        subst whole
        exact fun inside => (List.infix_cons_iff.mp inside).elim apart ih
      | cons next others =>
        rw [List.intercalate_cons_cons] at whole
        refine ⟨(isBefore_cons_iff nonempty).mpr ⟨?_, ih.1⟩, ih.2⟩
        have more : first ++ mark ≠ [] := List.append_ne_nil_of_right_ne_nil first nonempty
        rw [← List.dropLast_cons_of_ne_nil more, ← prefix_dropLast_iff, whole]
        exact apart

/-- The pieces of a text are those that it is made of and cut at. -/
theorem split_eq_iff (nonempty : mark ≠ []) :
    split mark text = pieces ↔ AreCut mark pieces ∧ mark.intercalate pieces = text := by
  constructor
  · rintro rfl
    exact ⟨areCut_split nonempty text, intercalate_split nonempty text⟩
  · rintro ⟨cut, rfl⟩
    exact split_intercalate nonempty cut

/-! ### Marks of one character, and of two that are the same -/

theorem isBefore_singleton_iff {c : Char} : IsBefore [c] piece ↔ ¬[c] <:+: piece := by
  rw [IsBefore, List.dropLast_concat]

theorem split_of_not_mem {c : Char} (absent : c ∉ text) : split [c] text = [text] :=
  split_of_absent fun inside => absent (List.singleton_sublist.mp inside.sublist)

/-- Pieces are cut at a character that stands in none of them. -/
theorem areCut_singleton_iff {c : Char} :
    AreCut [c] pieces ↔ pieces ≠ [] ∧ ∀ piece ∈ pieces, c ∉ piece := by
  rw [areCut_iff (List.cons_ne_nil c [])]
  simp only [isBefore_singleton_iff, List.singleton_infix_iff]
  exact and_congr_right fun _ =>
    and_iff_left_of_imp fun absent piece member => absent piece (List.mem_of_mem_dropLast member)

theorem isBefore_pair_iff {c : Char} :
    IsBefore [c, c] piece ↔ ¬[c, c] <:+: piece ∧ piece.getLast? ≠ some c := by
  have shorter : (piece ++ [c, c]).dropLast = piece ++ [c] := by
    rw [List.dropLast_append_of_ne_nil (List.cons_ne_nil _ _)]
    rfl
  have ends : [c, c] <:+ piece ++ [c] ↔ piece.getLast? = some c := by
    rw [List.suffix_concat_iff, List.getLast?_eq_some_iff]
    constructor
    · rintro (none | ⟨front, same, back, rfl⟩)
      · cases none
      · change [c] ++ [c] = front ++ [c] at same
        obtain rfl := List.append_cancel_right same
        exact ⟨back, rfl⟩
    · rintro ⟨front, rfl⟩
      exact .inr ⟨[c], rfl, List.suffix_append front [c]⟩
  rw [IsBefore, shorter, List.infix_concat_iff, not_or, ends, and_comm]

/-- Pieces are cut at a doubled character if it stands in none of them, and if none but the last
ends with that character. -/
theorem areCut_pair_iff {c : Char} :
    AreCut [c, c] pieces ↔ pieces ≠ [] ∧ (∀ piece ∈ pieces, ¬[c, c] <:+: piece) ∧
      ∀ piece ∈ pieces.dropLast, piece.getLast? ≠ some c := by
  rw [areCut_iff (List.cons_ne_nil c [c])]
  refine and_congr_right fun _ => and_congr_right fun absent => forall₂_congr fun piece member => ?_
  rw [isBefore_pair_iff]
  exact and_iff_right (absent piece (List.mem_of_mem_dropLast member))

/-! ### Texts -/

theorem map_toList_splitText (mark text : String) :
    (splitText mark text).map String.toList = split mark.toList text.toList := by
  rw [splitText, List.map_map]
  exact (List.map_congr_left fun piece _ => String.toList_ofList).trans (List.map_id _)

theorem splitText_ne_nil {mark : String} (nonempty : mark ≠ "") (text : String) :
    splitText mark text ≠ [] := by
  have nonempty : mark.toList ≠ [] := by simpa using nonempty
  rw [splitText, Ne, List.map_eq_nil_iff]
  exact split_ne_nil nonempty text.toList

theorem splitText_eq_iff {mark text : String} {parts : List String} (nonempty : mark ≠ "") :
    splitText mark text = parts ↔
      AreCut mark.toList (parts.map String.toList) ∧ mark.intercalate parts = text := by
  have pieces : splitText mark text = parts ↔
      split mark.toList text.toList = parts.map String.toList := by
    rw [← map_toList_splitText]
    exact ((List.map_injective_iff.mpr fun _ _ => String.toList_inj.mp).eq_iff).symm
  have nonempty : mark.toList ≠ [] := by simpa using nonempty
  rw [pieces, split_eq_iff nonempty, ← String.toList_intercalate, String.toList_inj]

end MarkupLint.Text
