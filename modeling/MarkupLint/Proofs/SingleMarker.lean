import MarkupLint.Proofs.Erasure

/-!
The single marker in a comment, with the markers that are there by default. Region markers are taken
away before the single marker is looked for, so that what stood before and behind one of them comes
together. Main statement: a comment excludes the next node exactly if the single marker stands in
it, interrupted by region markers or not, and is not the beginning of one; where no region marker
stands behind a beginning of another marker, exactly if it stands in it and neither ` start` nor
` end` follows (`Directives.isSingle_default_iff`).
-/
namespace MarkupLint.Directives

open Text

variable {d : Directives} {comment : String} {text : List Char}

/-- The single marker is looked for before the region markers are taken away, too; where it stands
in both of these, nothing depends on that. -/
theorem isSingle_eq_occurs (inStart : d.single.toList <:+: d.regionStart.toList)
    (inEnd : d.single.toList <:+: d.regionEnd.toList) (comment : String) :
    d.isSingle comment = occurs d.single.toList
      (erase d.regionEnd.toList (erase d.regionStart.toList comment.toList)) := by
  rw [isSingle, Bool.and_eq_right_iff_imp, contains_eq_true_iff, occurs_eq_true_iff]
  intro left
  by_contra absent
  rw [erase_eq_self fun there => absent (inStart.trans there),
    erase_eq_self fun there => absent (inEnd.trans there)] at left
  exact absent left

/-- The default markers behind the sign that opens each of them. -/
def singleTail : List Char := "text-lint ignore".toList

def startTail : List Char := "text-lint ignore start".toList

def endTail : List Char := "text-lint ignore end".toList

theorem startTail_eq_append : startTail = singleTail ++ " start".toList := by decide

theorem endTail_eq_append : endTail = singleTail ++ " end".toList := by decide

/-- A region marker, as it is taken away: an end marker may have start markers inside, since these
go first. -/
def IsRegionMarker : List Char → Prop :=
  OneOrOther '@' startTail endTail

/-- The single marker, behind its sign interrupted by region markers or not, where no region marker
begins. -/
def HoldsSingle (text : List Char) : Prop :=
  ∃ front stretch back, text = front ++ '@' :: (stretch ++ back) ∧
    Interrupted IsRegionMarker singleTail stretch ∧
      ∀ piece, IsRegionMarker piece → ¬piece <+: '@' :: (stretch ++ back)

/-- The single marker, not directly followed by what makes it a region marker. -/
def HoldsFreeSingle (text : List Char) : Prop :=
  ∃ front back, text = front ++ "@text-lint ignore".toList ++ back ∧
    ¬" start".toList <+: back ∧ ¬" end".toList <+: back

/-- No start marker stands directly behind the beginning of an end marker, and no end marker
directly behind that of a single marker. -/
structure IsUnbroken (text : List Char) : Prop where
  start : ∀ part c rest, '@' :: endTail = part ++ c :: rest → part ≠ [] →
    ¬part ++ '@' :: startTail <:+: text
  stop : ∀ part c rest, '@' :: singleTail = part ++ c :: rest → part ≠ [] →
    ¬part ++ '@' :: endTail <:+: text

theorem holdsFreeSingle_iff : HoldsFreeSingle text ↔
    ∃ front back, text = front ++ '@' :: (singleTail ++ back) ∧
      ¬startTail <+: singleTail ++ back ∧ ¬endTail <+: singleTail ++ back := by
  have start (back : List Char) : startTail <+: singleTail ++ back ↔ " start".toList <+: back := by
    rw [startTail_eq_append, List.prefix_append_right_inj]
  have stop (back : List Char) : endTail <+: singleTail ++ back ↔ " end".toList <+: back := by
    rw [endTail_eq_append, List.prefix_append_right_inj]
  have whole : "@text-lint ignore".toList = '@' :: singleTail := by decide
  simp only [HoldsFreeSingle, start, stop, whole, List.append_assoc, List.cons_append]

theorem isSingle_default_iff_holdsSingle :
    ({} : Directives).isSingle comment = true ↔ HoldsSingle comment.toList := by
  have once : '@' ∉ startTail := by decide
  have plain : '@' ∉ endTail := by decide
  have opened : Opened '@' IsRegionMarker :=
    opened_oneOrOther once plain (by decide) (by decide)
  have erased := erased_erase_erase once plain comment.toList
  have alone : '@' ∉ singleTail := by decide
  rw [isSingle_eq_occurs (by decide) (by decide), occurs_eq_true_iff]
  exact erased.infix_iff opened alone

/-! ### Markers that do not stand inside each other -/

section Unbroken

variable (unbroken : IsUnbroken text) {stretch front back : List Char}

include unbroken

theorem IsUnbroken.endTail_eq (run : Interrupted (· = '@' :: startTail) endTail stretch)
    (inside : '@' :: stretch <:+: text) : stretch = endTail := by
  rcases run.eq_or_exists with same | ⟨part, c, rest, piece, same, rfl, begins⟩
  · exact same
  · have there : '@' :: part ++ '@' :: startTail <+: '@' :: stretch :=
      List.cons_prefix_cons.mpr ⟨rfl, begins⟩
    exact absurd (there.isInfix.trans inside)
      (unbroken.start ('@' :: part) c rest (congrArg _ same) (List.cons_ne_nil _ _))

theorem IsUnbroken.singleTail_eq (run : Interrupted IsRegionMarker singleTail stretch)
    (inside : '@' :: stretch <:+: text) : stretch = singleTail := by
  rcases run.eq_or_exists with same | ⟨part, c, rest, piece, same, here, begins⟩
  · exact same
  · have there : ('@' :: part) ++ piece <:+: text :=
      (List.cons_prefix_cons.mpr ⟨rfl, begins⟩).isInfix.trans inside
    rcases here with rfl | ⟨inner, rfl, run⟩
    · have longer : endTail = part ++ c :: (rest ++ " end".toList) := by
        rw [endTail_eq_append, same, List.append_assoc, List.cons_append]
      exact absurd there
        (unbroken.start ('@' :: part) c _ (congrArg _ longer) (List.cons_ne_nil _ _))
    · have whole : '@' :: inner <:+: text := (List.suffix_append _ _).isInfix.trans there
      rw [unbroken.endTail_eq run whole] at there
      exact absurd there
        (unbroken.stop ('@' :: part) c rest (congrArg _ same) (List.cons_ne_nil _ _))

theorem IsUnbroken.holdsSingle_iff : HoldsSingle text ↔ HoldsFreeSingle text := by
  rw [holdsFreeSingle_iff]
  constructor
  · rintro ⟨front, stretch, back, same, run, apart⟩
    have inside : '@' :: stretch <:+: text := ⟨front, back, by simp [same]⟩
    obtain rfl := unbroken.singleTail_eq run inside
    refine ⟨front, back, same, fun begins => ?_, fun begins => ?_⟩
    · exact apart _ (.inl rfl) (List.cons_prefix_cons.mpr ⟨rfl, begins⟩)
    · exact apart _ (.inr ⟨endTail, rfl, .refl _⟩) (List.cons_prefix_cons.mpr ⟨rfl, begins⟩)
  · rintro ⟨front, back, same, noStart, noEnd⟩
    refine ⟨front, singleTail, back, same, .refl _, ?_⟩
    rintro piece (rfl | ⟨stretch, rfl, run⟩) begins
    · exact noStart (List.cons_prefix_cons.mp begins).2
    · have inside : '@' :: stretch <:+: text :=
        begins.isInfix.trans (same ▸ (List.suffix_append front _).isInfix)
      obtain rfl := unbroken.endTail_eq run inside
      exact noEnd (List.cons_prefix_cons.mp begins).2

end Unbroken

/-- A comment excludes the next node exactly if the single marker stands in it, interrupted by
region markers or not, where no region marker begins. Where no region marker breaks another marker,
that is where neither ` start` nor ` end` follows the single marker. -/
theorem isSingle_default_iff (comment : String) :
    (({} : Directives).isSingle comment = true ↔ HoldsSingle comment.toList) ∧
      (IsUnbroken comment.toList →
        (({} : Directives).isSingle comment = true ↔ HoldsFreeSingle comment.toList)) := by
  refine ⟨isSingle_default_iff_holdsSingle, fun unbroken => ?_⟩
  rw [isSingle_default_iff_holdsSingle, unbroken.holdsSingle_iff]

/-- Of three places where the single marker stands the last one is free. -/
theorem isSingle_default_iff_behind_others :
    let comment := "@text-lint ignore start, @text-lint ignore ended, @text-lint ignored"
    IsUnbroken comment.toList ∧ HoldsFreeSingle comment.toList ∧
      ({} : Directives).isSingle comment = true := by
  intro comment
  have starts : ∀ part ∈ ('@' :: endTail).inits, part ≠ [] → part ≠ '@' :: endTail →
      occurs (part ++ '@' :: startTail) comment.toList = false := by decide +kernel
  have stops : ∀ part ∈ ('@' :: singleTail).inits, part ≠ [] → part ≠ '@' :: singleTail →
      occurs (part ++ '@' :: endTail) comment.toList = false := by decide +kernel
  have shorter {part rest whole : List Char} {c : Char} (same : whole = part ++ c :: rest) :
      part ∈ whole.inits ∧ part ≠ whole := by
    refine ⟨(List.mem_inits _ _).mpr ⟨c :: rest, same.symm⟩, ?_⟩
    rintro rfl
    cases List.self_eq_append_right.mp same
  have unbroken : IsUnbroken comment.toList := by
    constructor
    · intro part c rest same nonempty
      rw [← occurs_eq_true_iff, starts part (shorter same).1 nonempty (shorter same).2]
      exact Bool.false_ne_true
    · intro part c rest same nonempty
      rw [← occurs_eq_true_iff, stops part (shorter same).1 nonempty (shorter same).2]
      exact Bool.false_ne_true
  have free : HoldsFreeSingle comment.toList :=
    ⟨"@text-lint ignore start, @text-lint ignore ended, ".toList, ['d'], by decide, by decide,
      by decide⟩
  exact ⟨unbroken, free, ((isSingle_default_iff comment).2 unbroken).mpr free⟩

/-- A start marker inside a single marker: this is not there, but it is when the start marker has
been taken away. A start marker inside an end marker: the single marker is there, at the beginning
of the broken end marker, but not when both have been taken away. -/
theorem isSingle_default_of_broken :
    let joined := "@text-lint@text-lint ignore start ignore"
    let parted := "@text-lint ignore@text-lint ignore start end"
    (({} : Directives).isSingle joined = true ∧ ¬HoldsFreeSingle joined.toList) ∧
      ({} : Directives).isSingle parted = false ∧ HoldsFreeSingle parted.toList := by
  intro joined parted
  have followed : ∀ tail ∈ joined.toList.tails, ('@' :: singleTail).isPrefixOf tail = true →
      ('@' :: startTail).isPrefixOf tail = true := by decide +kernel
  refine ⟨⟨by decide +kernel, fun free => ?_⟩, by decide +kernel,
    ⟨[], "@text-lint ignore start end".toList, by decide, by decide, by decide⟩⟩
  obtain ⟨front, back, same, noStart, -⟩ := holdsFreeSingle_iff.mp free
  have begins := followed ('@' :: (singleTail ++ back))
    ((List.mem_tails _ _).mpr ⟨front, same.symm⟩)
    (List.isPrefixOf_iff_prefix.mpr (List.prefix_append ('@' :: singleTail) back))
  rw [List.isPrefixOf_iff_prefix, List.cons_prefix_cons] at begins
  exact noStart begins.2

end MarkupLint.Directives
