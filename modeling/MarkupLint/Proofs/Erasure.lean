import MarkupLint.Proofs.Markers

/-!
What is left of a text when marks are taken out of it. A word that is found in what is left need not
stand in the text as it is: marks may stand inside it (`Text.Interrupted`), and when they are gone
its letters come together. Main statements: for marks that one letter opens, a word that begins with
this letter is left exactly if it stands in the text, interrupted by marks or not, where no mark
begins (`Text.Erased.infix_iff`); and taking out one mark and then another one is taking out the
first mark and the second one with any number of first ones inside (`Text.erased_erase_erase`).
-/
namespace MarkupLint.Text

variable {marks : List Char → Prop} {c opening : Char}
  {piece word stretch rest text out : List Char}

/-! ### Texts without their marks -/

/-- The letters of a word one after another, with marks before some of them. -/
inductive Interrupted (marks : List Char → Prop) : List Char → List Char → Prop
  | nil : Interrupted marks [] []
  | letter {c : Char} {word stretch : List Char} (more : Interrupted marks word stretch) :
      Interrupted marks (c :: word) (c :: stretch)
  | mark {c : Char} {piece word stretch : List Char} (here : marks piece)
      (more : Interrupted marks (c :: word) stretch) :
      Interrupted marks (c :: word) (piece ++ stretch)

/-- A text and what is left of it when marks are taken out from left to right. -/
inductive Erased (marks : List Char → Prop) : List Char → List Char → Prop
  | nil : Erased marks [] []
  | mark {piece rest out : List Char} (here : marks piece) (more : Erased marks rest out) :
      Erased marks (piece ++ rest) out
  | letter {c : Char} {rest out : List Char} (apart : ∀ piece, marks piece → ¬piece <+: c :: rest)
      (more : Erased marks rest out) : Erased marks (c :: rest) (c :: out)

theorem Erased.cons_cases (erased : Erased marks (c :: text) out) :
    (∃ piece rest, marks piece ∧ c :: text = piece ++ rest ∧ Erased marks rest out) ∨
      (∀ piece, marks piece → ¬piece <+: c :: text) ∧
        ∃ left, out = c :: left ∧ Erased marks text left := by
  generalize whole : c :: text = all at erased
  cases erased with
  | nil => cases whole
  | mark here more => exact .inl ⟨_, _, here, rfl, more⟩
  | letter apart more =>
    cases whole
    exact .inr ⟨apart, _, rfl, more⟩

/-- What is left begins with a word where the text begins with it, interrupted or not. -/
theorem Erased.exists_of_append (erased : Erased marks text (word ++ out)) :
    ∃ stretch rest, text = stretch ++ rest ∧ Interrupted marks word stretch ∧
      Erased marks rest out := by
  generalize whole : word ++ out = left at erased
  induction erased generalizing word with
  | nil =>
    obtain ⟨rfl, rfl⟩ := List.append_eq_nil_iff.mp whole
    exact ⟨[], [], rfl, .nil, .nil⟩
  | @mark piece rest left here more ih =>
    obtain ⟨stretch, tail, rfl, run, after⟩ := ih whole
    cases word with
    | nil =>
      subst whole
      exact ⟨[], _, rfl, .nil, .mark here more⟩
    | cons c word =>
      exact ⟨piece ++ stretch, tail, (List.append_assoc _ _ _).symm, .mark here run, after⟩
  | @letter c rest left apart more ih =>
    cases word with
    | nil =>
      subst whole
      exact ⟨[], _, rfl, .nil, .letter apart more⟩
    | cons d word =>
      rw [List.cons_append, List.cons.injEq] at whole
      obtain ⟨rfl, whole⟩ := whole
      obtain ⟨stretch, tail, rfl, run, after⟩ := ih whole
      exact ⟨_, tail, rfl, .letter run, after⟩

/-- A word that is left stands in the text, interrupted or not, where no mark begins. -/
theorem Erased.exists_of_infix (erased : Erased marks text out) (left : c :: word <:+: out) :
    ∃ front stretch back, text = front ++ c :: (stretch ++ back) ∧
      Interrupted marks word stretch ∧
        ∀ piece, marks piece → ¬piece <+: c :: (stretch ++ back) := by
  induction erased with
  | nil => cases List.infix_nil.mp left
  | @mark piece rest out here more ih =>
    obtain ⟨front, stretch, back, rfl, run, apart⟩ := ih left
    exact ⟨piece ++ front, stretch, back, (List.append_assoc _ _ _).symm, run, apart⟩
  | @letter d rest out apart more ih =>
    rcases List.infix_cons_iff.mp left with begins | inside
    · obtain ⟨rfl, tail, rfl⟩ := List.cons_prefix_cons.mp begins
      obtain ⟨stretch, back, rfl, run, -⟩ := more.exists_of_append
      exact ⟨[], stretch, back, rfl, run, apart⟩
    · obtain ⟨front, stretch, back, rfl, run, apart⟩ := ih inside
      exact ⟨d :: front, stretch, back, rfl, run, apart⟩

theorem Interrupted.refl (word : List Char) : Interrupted marks word word := by
  induction word with
  | nil => exact .nil
  | cons c word ih => exact .letter ih

/-- A word with a mark inside it begins with a part of the word and the mark behind it. -/
theorem Interrupted.eq_or_exists (run : Interrupted marks word stretch) :
    stretch = word ∨ ∃ part c rest piece, word = part ++ c :: rest ∧ marks piece ∧
      part ++ piece <+: stretch := by
  induction run with
  | nil => exact .inl rfl
  | @letter c word stretch more ih =>
    rcases ih with rfl | ⟨part, d, rest, piece, rfl, here, begins⟩
    · exact .inl rfl
    · exact .inr ⟨c :: part, d, rest, piece, rfl, here, List.cons_prefix_cons.mpr ⟨rfl, begins⟩⟩
  | @mark c piece word stretch here more ih =>
    exact .inr ⟨[], c, word, piece, rfl, here, List.prefix_append piece stretch⟩

/-! ### Marks that one letter opens -/

/-- Marks begin with one letter. None begins another one, and inside a mark this letter is the
beginning of a mark that lies inside too. -/
structure Opened (opening : Char) (marks : List Char → Prop) : Prop where
  opens : ∀ {piece}, marks piece → ∃ tail, piece = opening :: tail
  whole : ∀ {piece other}, marks piece → marks other → piece <+: other → piece = other
  solid : ∀ {front back}, marks (front ++ opening :: back) → front ≠ [] →
    ∃ piece, marks piece ∧ piece <+: opening :: back

/-- A text in which a mark and more stand is divided behind the mark, or before the opening letter
of a mark. -/
theorem Opened.exists_of_append (opened : Opened opening marks) (here : marks piece)
    {front back : List Char} (same : piece ++ rest = front ++ opening :: back) :
    (∃ after, front = piece ++ after ∧ rest = after ++ opening :: back) ∨
      ∃ other, marks other ∧ other <+: opening :: back := by
  rcases List.append_eq_append_iff.mp same with ⟨after, rfl, rfl⟩ | ⟨inner, rfl, behind⟩
  · exact .inl ⟨after, rfl, rfl⟩
  · cases inner with
    | nil =>
      rw [List.append_nil]
      exact .inl ⟨[], (List.append_nil _).symm, behind.symm⟩
    | cons d inner =>
      rw [List.cons_append, List.cons.injEq] at behind
      obtain ⟨rfl, rfl⟩ := behind
      cases front with
      | nil => exact .inr ⟨_, here, List.prefix_append _ rest⟩
      | cons e front =>
        obtain ⟨other, inside, begins⟩ := opened.solid here (List.cons_ne_nil _ _)
        exact .inr ⟨other, inside, begins.trans (List.prefix_append _ rest)⟩

section Opened

variable (opened : Opened opening marks)

include opened

/-- Where a word without the opening letter stands, interrupted or not, the word is left. -/
theorem Interrupted.exists_of_erased (run : Interrupted marks word stretch)
    (plain : opening ∉ word) (erased : Erased marks (stretch ++ rest) out) :
    ∃ left, out = word ++ left ∧ Erased marks rest left := by
  induction run generalizing out with
  | nil => exact ⟨out, rfl, erased⟩
  | letter more ih =>
    obtain ⟨first, plain⟩ := not_or.mp (mt List.mem_cons.mpr plain)
    rcases erased.cons_cases with ⟨piece, rest, here, same, -⟩ | ⟨-, out, rfl, more⟩
    · obtain ⟨tail, rfl⟩ := opened.opens here
      exact absurd (List.cons.inj same).1.symm first
    · obtain ⟨left, rfl, after⟩ := ih plain more
      exact ⟨left, rfl, after⟩
  | @mark c piece word stretch here more ih =>
    obtain ⟨tail, rfl⟩ := opened.opens here
    rw [List.append_assoc, List.cons_append] at erased
    rcases erased.cons_cases with ⟨other, after, there, same, erased⟩ | ⟨apart, -⟩
    · have equal : opening :: tail = other := by
        have begins : opening :: tail <+: other ++ after := ⟨stretch ++ rest, same⟩
        rcases List.prefix_or_prefix_of_prefix begins (List.prefix_append other after) with
          shorter | longer
        · exact opened.whole here there shorter
        · exact (opened.whole there here longer).symm
      subst equal
      rw [List.cons_append, List.cons.injEq] at same
      rw [List.append_cancel_left same.2] at ih
      exact ih plain erased
    · exact absurd (List.prefix_append (opening :: tail) _) (apart _ here)

/-- A word without the opening letter is interrupted in one way at most. -/
theorem Interrupted.unique {stretch' : List Char} (run : Interrupted marks word stretch)
    (run' : Interrupted marks word stretch') (plain : opening ∉ word) (begins : stretch <+: text)
    (begins' : stretch' <+: text) : stretch = stretch' := by
  induction run generalizing stretch' text with
  | nil =>
    cases run'
    rfl
  | @letter c word stretch more ih =>
    obtain ⟨tail, rfl⟩ := begins
    cases run' with
    | letter more' =>
      rw [List.cons_append, List.cons_prefix_cons] at begins'
      rw [ih more' (mt (List.mem_cons_of_mem c) plain) (List.prefix_append _ _) begins'.2]
    | mark here' more' =>
      obtain ⟨inner, rfl⟩ := opened.opens here'
      obtain ⟨rfl, -⟩ := List.cons_prefix_cons.mp begins'
      exact absurd List.mem_cons_self plain
  | @mark c piece word stretch here more ih =>
    obtain ⟨tail, rfl⟩ := begins
    cases run' with
    | letter more' =>
      obtain ⟨inner, rfl⟩ := opened.opens here
      obtain ⟨rfl, -⟩ := List.cons_prefix_cons.mp begins'
      exact absurd List.mem_cons_self plain
    | @mark _ piece' _ _ here' more' =>
      have equal : piece = piece' := by
        rw [List.append_assoc] at begins'
        rcases List.prefix_or_prefix_of_prefix (List.prefix_append piece _)
          ((List.prefix_append piece' _).trans begins') with shorter | longer
        · exact opened.whole here here' shorter
        · exact (opened.whole here' here longer).symm
      subst equal
      rw [List.append_assoc, List.prefix_append_right_inj] at begins'
      rw [ih more' plain (List.prefix_append _ _) begins']

/-- What a word without the opening letter and a text that it is interrupted in share. -/
theorem Interrupted.prefix_or_prefix {part : List Char} (run : Interrupted marks word stretch)
    (plain : opening ∉ part) (begins : part <+: stretch ++ rest) :
    part <+: word ∨ word <+: part := by
  induction run generalizing part with
  | nil => exact .inr List.nil_prefix
  | letter more ih =>
    cases part with
    | nil => exact .inl List.nil_prefix
    | cons d part =>
      rw [List.cons_append, List.cons_prefix_cons] at begins
      obtain ⟨rfl, begins⟩ := begins
      rw [List.cons_prefix_cons, List.cons_prefix_cons]
      exact (ih (mt (List.mem_cons_of_mem d) plain) begins).imp (⟨rfl, ·⟩) (⟨rfl, ·⟩)
  | mark here more ih =>
    cases part with
    | nil => exact .inl List.nil_prefix
    | cons d part =>
      obtain ⟨tail, rfl⟩ := opened.opens here
      obtain ⟨rfl, -⟩ := List.cons_prefix_cons.mp begins
      exact absurd List.mem_cons_self plain

/-- In an interrupted word the opening letter begins a mark. -/
theorem Interrupted.exists_mark {front back : List Char} (run : Interrupted marks word stretch)
    (plain : opening ∉ word) (same : stretch = front ++ opening :: back) :
    ∃ piece, marks piece ∧ piece <+: opening :: back := by
  induction run generalizing front with
  | nil => cases List.append_eq_nil_iff.mp same.symm |>.2
  | @letter c word stretch more ih =>
    cases front with
    | nil =>
      obtain ⟨rfl, -⟩ := List.cons.inj same
      exact absurd List.mem_cons_self plain
    | cons d front =>
      exact ih (mt (List.mem_cons_of_mem c) plain) (List.cons.inj same).2
  | mark here more ih =>
    rcases opened.exists_of_append here same with ⟨after, -, same⟩ | found
    · exact ih plain same
    · exact found

/-- A word that begins with the opening letter is left exactly if it stands in the text,
interrupted by marks or not, where no mark begins. -/
theorem Erased.infix_iff (erased : Erased marks text out) (plain : opening ∉ word) :
    opening :: word <:+: out ↔
      ∃ front stretch back, text = front ++ opening :: (stretch ++ back) ∧
        Interrupted marks word stretch ∧
          ∀ piece, marks piece → ¬piece <+: opening :: (stretch ++ back) := by
  refine ⟨erased.exists_of_infix, ?_⟩
  rintro ⟨front, stretch, back, same, run, apart⟩
  induction erased generalizing front with
  | nil => cases (List.append_eq_nil_iff.mp same.symm).2
  | mark here more ih =>
    rcases opened.exists_of_append here same with ⟨after, -, same⟩ | ⟨piece, other, begins⟩
    · exact ih after same
    · exact absurd begins (apart piece other)
  | @letter c rest out _ more ih =>
    cases front with
    | nil =>
      obtain ⟨rfl, rfl⟩ := List.cons.inj same
      obtain ⟨left, rfl, -⟩ := run.exists_of_erased opened plain more
      exact (List.prefix_append (c :: word) left).isInfix
    | cons d front =>
      exact List.infix_cons_iff.mpr (.inr (ih front (List.cons.inj same).2))

end Opened

/-! ### One mark, and then another one -/

theorem opened_eq {tail : List Char} (once : opening ∉ tail) :
    Opened opening (· = opening :: tail) where
  opens here := ⟨tail, here⟩
  whole here there _ := here.trans there.symm
  solid {front back} here nonempty := by
    cases front with
    | nil => exact absurd rfl nonempty
    | cons d front =>
      obtain ⟨-, rfl⟩ := List.cons.inj here
      exact absurd (List.mem_append_right front List.mem_cons_self) once

theorem erased_erase (c : Char) (tail text : List Char) :
    Erased (· = c :: tail) text (erase (c :: tail) text) := by
  induction text using mark_induction (List.cons_ne_nil c tail) with
  | nil => exact .nil
  | here rest ih =>
    rw [erase_append]
    exact @Erased.mark (· = c :: tail) _ _ _ rfl ih
  | other d rest apart ih =>
    rw [erase_of_apart apart]
    refine .letter ?_ ih
    rintro piece rfl
    exact apart

/-- One mark, or another one with any number of first ones inside. Both begin with one letter. -/
def OneOrOther (opening : Char) (one other piece : List Char) : Prop :=
  piece = opening :: one ∨
    ∃ stretch, piece = opening :: stretch ∧ Interrupted (· = opening :: one) other stretch

/-- Taking out one mark and then another is taking out the first one and the other one with first
ones inside. -/
theorem Erased.comp {one other middle : List Char}
    (single : opening ∉ one) (plain : opening ∉ other)
    (before : Erased (· = opening :: one) text middle)
    (after : Erased (· = opening :: other) middle out) :
    Erased (OneOrOther opening one other) text out := by
  induction size : text.length using Nat.strong_induction_on generalizing text middle out with
  | h n ih =>
    subst size
    cases before with
    | nil =>
      generalize empty : ([] : List Char) = middle at after
      cases after with
      | nil => exact .nil
      | mark here more =>
        subst here
        cases empty
      | letter apart more => cases empty
    | mark here more =>
      subst here
      refine .mark (.inl rfl) (ih _ ?_ more after rfl)
      rw [List.length_append, List.length_cons]
      omega
    | @letter c rest left apart more =>
      rcases after.cons_cases with ⟨piece, tail, rfl, same, last⟩ | ⟨apart', out, rfl, last⟩
      · rw [List.cons_append, List.cons.injEq] at same
        obtain ⟨rfl, rfl⟩ := same
        obtain ⟨stretch, tail', rfl, run, more⟩ := more.exists_of_append
        rw [← List.cons_append]
        refine .mark (.inr ⟨stretch, rfl, run⟩) (ih _ ?_ more last rfl)
        rw [List.length_cons, List.length_append]
        omega
      · refine .letter ?_ (ih _ (Nat.lt_succ_self _) more last rfl)
        rintro piece (rfl | ⟨stretch, rfl, run⟩) begins
        · exact apart _ rfl begins
        · obtain ⟨rfl, tail, rfl⟩ := List.cons_prefix_cons.mp begins
          obtain ⟨left, rfl, -⟩ := run.exists_of_erased (opened_eq single) plain more
          exact apart' _ rfl (List.prefix_append (opening :: other) left)

theorem erased_erase_erase {one other : List Char} (single : opening ∉ one)
    (plain : opening ∉ other) (text : List Char) :
    Erased (OneOrOther opening one other) text
      (erase (opening :: other) (erase (opening :: one) text)) :=
  Erased.comp single plain (erased_erase opening one text) (erased_erase opening other _)

theorem opened_oneOrOther {one other : List Char} (single : opening ∉ one) (plain : opening ∉ other)
    (apart : ¬one <+: other) (apart' : ¬other <+: one) :
    Opened opening (OneOrOther opening one other) where
  opens := by
    rintro piece (rfl | ⟨stretch, rfl, -⟩) <;> exact ⟨_, rfl⟩
  whole := by
    have differ {stretch tail : List Char} (run : Interrupted (· = opening :: one) other stretch)
        (begins : one <+: stretch ++ tail) : False :=
      (run.prefix_or_prefix (opened_eq single) single begins).elim apart apart'
    rintro piece piece' (rfl | ⟨stretch, rfl, run⟩) (rfl | ⟨stretch', rfl, run'⟩) begins
    · rfl
    · rw [List.cons_prefix_cons, ← List.append_nil stretch'] at begins
      exact (differ run' begins.2).elim
    · obtain ⟨-, tail, rfl⟩ := List.cons_prefix_cons.mp begins
      exact (differ run (List.prefix_refl _)).elim
    · rw [run.unique (opened_eq single) run' plain (List.cons_prefix_cons.mp begins).2
        (List.prefix_refl stretch')]
  solid {front back} here nonempty := by
    rcases here with here | ⟨stretch, here, run⟩
    · obtain ⟨piece, rfl, begins⟩ := (opened_eq single).solid here nonempty
      exact ⟨_, .inl rfl, begins⟩
    · cases front with
      | nil => exact absurd rfl nonempty
      | cons d front =>
        obtain ⟨piece, rfl, begins⟩ :=
          run.exists_mark (opened_eq single) plain (List.cons.inj here).2.symm
        exact ⟨_, .inl rfl, begins⟩

end MarkupLint.Text
