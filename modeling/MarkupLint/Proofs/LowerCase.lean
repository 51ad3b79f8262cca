import MarkupLint.Text.Case

/-!
Lower case is final: a text in lower case stays as it is when it is put in lower case once more.
What the runs of capitals become lies outside all of them, which the table of runs shows run by
run (`Shift.misses`). Main statement: `lowered (lowered text) = lowered text`.
-/
namespace MarkupLint.Text

/-- Whether the images of a run lie outside another one: behind it, before it, or in the gaps of
one that takes every other letter. -/
def Shift.misses (s t : Shift) : Bool :=
  t.last.blt s.target || (s.target + (s.last - s.first)).blt t.first ||
    ((s.step.beq 2 || s.first.beq s.last) && t.step.beq 2 && ((s.target + t.first) % 2).beq 1)

theorem Shift.image?_eq_some_iff (s : Shift) (n m : Nat) :
    s.image? n = some m ↔
      (s.first ≤ n ∧ n ≤ s.last ∧ (n - s.first) % s.step = 0) ∧ s.target + (n - s.first) = m := by
  simp only [Shift.image?, Stride.has, Option.ite_none_right_eq_some, Option.some.injEq,
    Bool.and_eq_true, decide_eq_true_eq, beq_iff_eq, and_assoc]

theorem Shift.image?_eq_none {s : Shift} {n : Nat} (outside : n < s.first ∨ s.last < n) :
    s.image? n = none := by
  rw [Option.eq_none_iff_forall_ne_some]
  intro m found
  obtain ⟨⟨low, high, -⟩, -⟩ := (s.image?_eq_some_iff n m).mp found
  omega

theorem Shift.image?_eq_none_of_misses {s t : Shift} {n m : Nat} (found : s.image? n = some m)
    (misses : s.misses t = true) : t.image? m = none := by
  obtain ⟨⟨low, high, even⟩, rfl⟩ := (s.image?_eq_some_iff n m).mp found
  rw [Option.eq_none_iff_forall_ne_some]
  intro k again
  obtain ⟨⟨low', high', even'⟩, -⟩ := (t.image?_eq_some_iff _ k).mp again
  simp only [Shift.misses, Bool.or_eq_true, Bool.and_eq_true, Nat.blt_eq, Nat.beq_eq] at misses
  rcases misses with (behind | before) | ⟨⟨step | single, step'⟩, parity⟩
  · omega
  · omega
  · rw [step] at even
    rw [step'] at even'
    omega
  · rw [step'] at even'
    omega

/-- All that is changed on its own: capitals of ASCII, the dotted capital I and the runs beyond. -/
def capitals : List Shift :=
  ⟨65, 90, 1, 97⟩ :: ⟨0x130, 0x130, 1, 105⟩ :: lowerRuns

/-- A character that is no capital. -/
def IsSettled (c : Char) : Prop :=
  ∀ t ∈ capitals, t.image? c.toNat = none

theorem misses_capitals : (lowerRuns.all fun s => capitals.all s.misses) = true := by
  decide +kernel

/-- The runs lie beyond ASCII, and what they become are characters. -/
theorem bounds_lowerRuns : ∀ s ∈ lowerRuns, 128 ≤ s.first ∧
    (s.target + (s.last - s.first) < 0xD800 ∨
      0xDFFF < s.target ∧ s.target + (s.last - s.first) < 0x110000) := by
  decide +kernel

theorem toNat_ofNat_of_image? {s : Shift} (member : s ∈ lowerRuns) {n m : Nat}
    (found : s.image? n = some m) : (Char.ofNat m).toNat = m := by
  obtain ⟨⟨low, high, -⟩, rfl⟩ := (s.image?_eq_some_iff n m).mp found
  obtain ⟨-, bounds⟩ := bounds_lowerRuns s member
  have valid : (s.target + (n - s.first)).isValidChar := by
    unfold Nat.isValidChar
    omega
  rw [Char.ofNat, dif_pos valid]
  rfl

/-- A letter beyond ASCII is no capital once it is put in lower case. -/
theorem isSettled_lowerChar {c : Char} (beyond : 128 ≤ c.toNat) (undotted : c.toNat ≠ 0x130) :
    IsSettled (lowerChar c) := by
  rw [lowerChar, if_neg (by omega), if_neg undotted]
  cases found : lowerRuns.findSome? (·.image? c.toNat) with
  | none =>
    rw [List.findSome?_eq_none_iff] at found
    intro t member
    simp only [capitals, List.mem_cons] at member
    rw [Option.map_none, Option.getD_none]
    rcases member with rfl | rfl | member
    · exact Shift.image?_eq_none (.inr (by dsimp only; omega))
    · exact Shift.image?_eq_none (by dsimp only; omega)
    · exact found t member
  | some m =>
    obtain ⟨s, member, image⟩ := List.exists_of_findSome?_eq_some found
    intro t capital
    rw [Option.map_some, Option.getD_some, toNat_ofNat_of_image? member image]
    have misses := List.all_eq_true.mp (List.all_eq_true.mp misses_capitals s member) t capital
    exact Shift.image?_eq_none_of_misses image misses

theorem isSettled_of_all {c : Char}
    (all : (capitals.all fun t => (t.image? c.toNat).isNone) = true) : IsSettled c := by
  intro t member
  exact Option.isNone_iff_eq_none.mp (List.all_eq_true.mp all t member)

/-- In ASCII there are no capitals but the twenty-six. -/
theorem isSettled_of_ascii {c : Char} (ascii : c.toNat < 128)
    (plain : ¬(65 ≤ c.toNat ∧ c.toNat ≤ 90)) : IsSettled c := by
  intro t member
  apply Shift.image?_eq_none
  simp only [capitals, List.mem_cons] at member
  rcases member with rfl | rfl | member
  · dsimp only
    omega
  · dsimp only
    omega
  · have beyond := (bounds_lowerRuns t member).1
    omega

theorem toLower_ofNat : ∀ n < 128,
    (Char.ofNat n).toLower.toNat = if 65 ≤ n ∧ n ≤ 90 then n + 32 else n := by
  decide +kernel

theorem toNat_toLower {c : Char} (ascii : c.toNat < 128) :
    c.toLower.toNat = if 65 ≤ c.toNat ∧ c.toNat ≤ 90 then c.toNat + 32 else c.toNat := by
  rw [← toLower_ofNat c.toNat ascii, Char.ofNat_toNat]

theorem isSettled_lowerFrom (before text : List Char) :
    ∀ c ∈ lowerFrom before text, IsSettled c := by
  induction text generalizing before with
  | nil => exact fun c member => absurd member List.not_mem_nil
  | cons c rest ih =>
    rw [lowerFrom]
    intro d member
    rcases List.mem_append.mp member with own | later
    · split at own
      next ascii =>
        have code := toNat_toLower ascii
        rw [List.mem_singleton.mp own]
        apply isSettled_of_ascii <;> split at code <;> omega
      next beyond =>
        split at own
        next =>
          rcases List.mem_cons.mp own with rfl | own
          · exact isSettled_of_all (by decide +kernel)
          · rw [List.mem_singleton.mp own]
            exact isSettled_of_all (by decide +kernel)
        next undotted =>
          split at own
          next =>
            have both (final : Bool) : IsSettled (Char.ofNat (if final then 0x3C2 else 0x3C3)) := by
              cases final <;> exact isSettled_of_all (by decide +kernel)
            exact List.mem_singleton.mp own ▸ both _
          next =>
            exact List.mem_singleton.mp own ▸ isSettled_lowerChar (by omega) undotted
    · exact ih _ d later

theorem findSome?_of_isSettled {c : Char} (settled : IsSettled c) :
    lowerRuns.findSome? (·.image? c.toNat) = none :=
  List.findSome?_eq_none_iff.mpr fun t member => settled t (.tail _ (.tail _ member))

theorem lowerChar_of_isSettled {c : Char} (settled : IsSettled c) (beyond : ¬c.toNat < 128)
    (undotted : c.toNat ≠ 0x130) : lowerChar c = c := by
  rw [lowerChar, if_neg beyond, if_neg undotted, findSome?_of_isSettled settled]
  rfl

theorem lowerFrom_of_isSettled (before : List Char) {text : List Char}
    (settled : ∀ c ∈ text, IsSettled c) : lowerFrom before text = text := by
  induction text generalizing before with
  | nil => rfl
  | cons c rest ih =>
    obtain ⟨own, others⟩ := List.forall_mem_cons.mp settled
    rw [lowerFrom, ih _ others]
    split
    next ascii =>
      have plain : ¬(65 ≤ c.toNat ∧ c.toNat ≤ 90) := by
        rintro ⟨low, high⟩
        have none := own _ (.head _)
        have found := (Shift.image?_eq_some_iff ⟨65, 90, 1, 97⟩ c.toNat _).mpr
          ⟨⟨low, high, Nat.mod_one _⟩, rfl⟩
        rw [none] at found
        cases found
      have same : c.toLower = c := Char.toNat_inj.mp ((toNat_toLower ascii).trans (if_neg plain))
      rw [same, List.singleton_append]
    next beyond =>
      have undotted : c.toNat ≠ 0x130 := by
        intro dotted
        have none := own _ (.tail _ (.head _))
        rw [dotted] at none
        cases none
      have noSigma : c.toNat ≠ 0x3A3 := by
        intro sigma
        have none := findSome?_of_isSettled own
        rw [sigma] at none
        exact absurd none (by decide +kernel)
      rw [if_neg undotted, if_neg noSigma, lowerChar_of_isSettled own beyond undotted,
        List.singleton_append]

theorem lowered_lowered (text : String) : lowered (lowered text) = lowered text := by
  rw [lowered, lowered, String.toList_ofList, lower, lower,
    lowerFrom_of_isSettled [] (isSettled_lowerFrom [] text.toList)]

end MarkupLint.Text
