import Mathlib.Data.List.DropRight
import Mathlib.Data.List.SplitBy
import MarkupLint.Proofs.Entities

/-!
Runs of white space. A text is taken apart into the characters that are not blank and the longest
runs of those that are (`Normalize.runs_induction`). Main statements: collapsing white space makes
one space of every such run of two or more (`Normalize.substitute_blankRun`), whether or not
wrapped lines have been joined before (`Normalize.substitute_blankRun_wrappedLine`); what comes out
has no two blanks side by side and no entity that was not there.
-/
namespace MarkupLint.Normalize

open Text

/-- A text in its longest runs of white space and the single characters between them. -/
def runs (text : List Char) : List (List Char) :=
  text.splitBy fun a b => isBlank a && isBlank b

/-- One space for two blanks or more. -/
def collapseRun (run : List Char) : List Char :=
  if 2 ≤ run.length then [' '] else run

def collapsed (text : List Char) : List Char :=
  (runs text).flatMap collapseRun

/-- No two blanks stand side by side. -/
def BlanksApart (text : List Char) : Prop :=
  text.IsChain fun a b => ¬(isBlank a = true ∧ isBlank b = true)

variable {text run rest piece : List Char} {c : Char}

/-- A text starts with a character that is not blank or with a run that ends there. -/
@[elab_as_elim]
theorem runs_induction {motive : List Char → Prop} (nil : motive [])
    (other : ∀ c rest, isBlank c = false → motive rest → motive (c :: rest))
    (blanks : ∀ run rest, run ≠ [] → (∀ c ∈ run, isBlank c = true) →
      (∀ c ∈ rest.head?, isBlank c = false) → motive rest → motive (run ++ rest))
    (text : List Char) : motive text := by
  induction length : text.length using Nat.strong_induction_on generalizing text with
  | _ n ih =>
    cases text with
    | nil => exact nil
    | cons c rest =>
      cases blank : isBlank c with
      | false => exact other c rest blank (ih rest.length (by simp [← length]) rest rfl)
      | true =>
        have split := List.takeWhile_append_dropWhile (p := isBlank) (l := c :: rest)
        have starts : (c :: rest).takeWhile isBlank ≠ [] := by
          rw [List.takeWhile_cons_of_pos blank]
          exact List.cons_ne_nil _ _
        have sizes := congrArg List.length split
        rw [List.length_append, length] at sizes
        have positive := List.length_pos_iff.mpr starts
        rw [← split]
        exact blanks _ _ starts (fun c => List.mem_takeWhile_imp) (stop_dropWhile isBlank _)
          (ih _ (by omega) _ rfl)

/-! ### Collapsing -/

theorem collapsed_cons (other : isBlank c = false) (rest : List Char) :
    collapsed (c :: rest) = c :: collapsed rest := by
  have split : runs ([c] ++ rest) = runs [c] ++ runs rest := by
    apply List.splitBy_append
    intro x last y _
    rw [List.getLast?_singleton, Option.mem_some_iff] at last
    rw [← last, other, Bool.false_and]
  rw [← List.singleton_append, collapsed, split, List.flatMap_append]
  rfl

theorem collapsed_append (nonempty : run ≠ []) (blanks : ∀ c ∈ run, isBlank c = true)
    (stop : ∀ c ∈ rest.head?, isBlank c = false) :
    collapsed (run ++ rest) = collapseRun run ++ collapsed rest := by
  have split : runs (run ++ rest) = runs run ++ runs rest := by
    apply List.splitBy_append
    intro x _ y first
    rw [stop y first, Bool.and_false]
  have whole : runs run = [run] := by
    apply List.splitBy_of_isChain nonempty
    apply List.Pairwise.isChain
    apply List.pairwise_of_forall_mem_list
    intro a inside b inside'
    rw [blanks a inside, blanks b inside', Bool.and_self]
  rw [collapsed, split, whole, List.flatMap_append, List.flatMap_singleton]
  rfl

theorem substitute_blankRun_cons (other : isBlank c = false) (rest : List Char) :
    substitute blankRun? (c :: rest) = c :: substitute blankRun? rest := by
  apply substitute_of_none
  rw [blankRun?, other]
  rfl

theorem substitute_blankRun_append (nonempty : run ≠ []) (blanks : ∀ c ∈ run, isBlank c = true)
    (stop : ∀ c ∈ rest.head?, isBlank c = false) :
    substitute blankRun? (run ++ rest) = collapseRun run ++ substitute blankRun? rest := by
  obtain ⟨c, more, rfl⟩ := List.exists_cons_of_ne_nil nonempty
  obtain ⟨blank, others⟩ := List.forall_mem_cons.mp blanks
  have span := takeWhile_append_of_stop others stop
  cases more with
  | nil =>
    apply substitute_of_none
    change rest.takeWhile isBlank = [] at span
    rw [blankRun?]
    change (if isBlank c && !(rest.takeWhile isBlank).isEmpty then _ else none) = none
    rw [span, List.isEmpty_nil, Bool.not_true, Bool.and_false]
    rfl
  | cons d more =>
    have found : blankRun? (c :: (d :: more ++ rest)) = some ([' '], (d :: more).length) := by
      rw [blankRun?, span, blank]
      rfl
    rw [List.cons_append, substitute_of_some found, List.drop_left]
    rfl

theorem substitute_blankRun (text : List Char) : substitute blankRun? text = collapsed text := by
  induction text using runs_induction with
  | nil => rfl
  | other c rest blank ih => rw [substitute_blankRun_cons blank, collapsed_cons blank, ih]
  | blanks run rest nonempty blanks stop ih =>
    rw [substitute_blankRun_append nonempty blanks stop, collapsed_append nonempty blanks stop, ih]

/-! ### Wrapped lines -/

theorem wrappedLine?_of_ne (other : c ≠ '\n') (rest : List Char) :
    wrappedLine? (c :: rest) = none := by
  unfold wrappedLine?
  split
  next same => exact absurd (List.cons.inj same).1 other
  next => rfl

theorem wrappedLine?_of_stop (stop : ∀ c ∈ rest.head?, isBlank c = false) (c : Char) :
    wrappedLine? (c :: rest) = none := by
  have span : ([] ++ rest).takeWhile isBlank = [] := takeWhile_append_of_stop nofun stop
  unfold wrappedLine?
  split
  next same =>
    obtain ⟨-, rfl⟩ := List.cons.inj same
    rw [List.nil_append] at span
    rw [span]
    rfl
  next => rfl

theorem substitute_wrappedLine_cons (other : isBlank c = false) (rest : List Char) :
    substitute wrappedLine? (c :: rest) = c :: substitute wrappedLine? rest := by
  apply substitute_of_none
  apply wrappedLine?_of_ne
  rintro rfl
  exact absurd other (by decide)

theorem stop_substitute_wrappedLine (stop : ∀ c ∈ rest.head?, isBlank c = false) :
    ∀ c ∈ (substitute wrappedLine? rest).head?, isBlank c = false := by
  cases rest with
  | nil => exact nofun
  | cons d rest =>
    rw [substitute_wrappedLine_cons (stop d rfl)]
    exact stop

/-- Joining wrapped lines leaves a run of white space in every place, and one that collapses to the
same. -/
theorem exists_substitute_wrappedLine (nonempty : run ≠ []) (blanks : ∀ c ∈ run, isBlank c = true)
    (stop : ∀ c ∈ rest.head?, isBlank c = false) :
    ∃ joined, joined ≠ [] ∧ (∀ c ∈ joined, isBlank c = true) ∧
      collapseRun joined = collapseRun run ∧
      substitute wrappedLine? (run ++ rest) = joined ++ substitute wrappedLine? rest := by
  induction run with
  | nil => exact absurd rfl nonempty
  | cons c more ih =>
    obtain ⟨blank, others⟩ := List.forall_mem_cons.mp blanks
    cases more with
    | nil => exact ⟨[c], nonempty, blanks, rfl, substitute_of_none (wrappedLine?_of_stop stop c)⟩
    | cons d more =>
      by_cases newline : c = '\n'
      · subst newline
        have found : wrappedLine? ('\n' :: (d :: more ++ rest)) =
            some ([' '], (d :: more).length) := by
          rw [wrappedLine?, takeWhile_append_of_stop others stop]
          rfl
        refine ⟨[' '], List.cons_ne_nil _ _, List.forall_mem_singleton.mpr (by decide), rfl, ?_⟩
        rw [List.cons_append, substitute_of_some found, List.drop_left]
      · obtain ⟨joined, some, allBlank, -, same⟩ := ih (List.cons_ne_nil _ _) others
        obtain ⟨first, later, rfl⟩ := List.exists_cons_of_ne_nil some
        refine ⟨c :: first :: later, List.cons_ne_nil _ _,
          List.forall_mem_cons.mpr ⟨blank, allBlank⟩, rfl, ?_⟩
        rw [List.cons_append, substitute_of_none (wrappedLine?_of_ne newline _), same]
        rfl

/-- White space is collapsed to the same whether or not wrapped lines have been joined. -/
theorem substitute_blankRun_wrappedLine (text : List Char) :
    substitute blankRun? (substitute wrappedLine? text) = collapsed text := by
  induction text using runs_induction with
  | nil => rfl
  | other c rest blank ih =>
    rw [substitute_wrappedLine_cons blank, substitute_blankRun_cons blank, collapsed_cons blank, ih]
  | blanks run rest nonempty blanks stop ih =>
    obtain ⟨joined, some, allBlank, alike, same⟩ :=
      exists_substitute_wrappedLine nonempty blanks stop
    rw [same, substitute_blankRun_append some allBlank (stop_substitute_wrappedLine stop),
      collapsed_append nonempty blanks stop, alike, ih]

/-! ### What comes out -/

theorem exists_collapseRun (nonempty : run ≠ []) (blanks : ∀ c ∈ run, isBlank c = true) :
    ∃ blank, isBlank blank = true ∧ collapseRun run = [blank] := by
  unfold collapseRun
  split
  next => exact ⟨' ', by decide, rfl⟩
  next short =>
    have positive := List.length_pos_iff.mpr nonempty
    obtain ⟨c, rfl⟩ := List.length_eq_one_iff.mp (by omega : run.length = 1)
    exact ⟨c, blanks c (.head _), rfl⟩

theorem stop_collapsed (stop : ∀ c ∈ rest.head?, isBlank c = false) :
    ∀ c ∈ (collapsed rest).head?, isBlank c = false := by
  cases rest with
  | nil => exact nofun
  | cons d rest =>
    rw [collapsed_cons (stop d rfl)]
    exact stop

theorem blanksApart_collapsed (text : List Char) : BlanksApart (collapsed text) := by
  induction text using runs_induction with
  | nil => exact List.IsChain.nil
  | other c rest other ih =>
    rw [collapsed_cons other]
    refine List.isChain_cons.mpr ⟨fun d _ both => ?_, ih⟩
    rw [other] at both
    exact Bool.false_ne_true both.1
  | blanks run rest nonempty blanks stop ih =>
    obtain ⟨blank, -, single⟩ := exists_collapseRun nonempty blanks
    rw [collapsed_append nonempty blanks stop, single]
    refine List.isChain_cons.mpr ⟨fun d first both => ?_, ih⟩
    rw [stop_collapsed stop d first] at both
    exact Bool.false_ne_true both.2

/-- Where no two blanks stand side by side there is nothing to collapse. -/
theorem BlanksApart.collapsed_eq_self (apart : BlanksApart text) : collapsed text = text := by
  induction text using runs_induction with
  | nil => rfl
  | other c rest other ih => rw [collapsed_cons other, ih (List.isChain_cons.mp apart).2]
  | blanks run rest nonempty blanks stop ih =>
    obtain ⟨own, others, -⟩ := List.isChain_append.mp apart
    obtain ⟨c, more, rfl⟩ := List.exists_cons_of_ne_nil nonempty
    cases more with
    | nil => rw [collapsed_append nonempty blanks stop, ih others, collapseRun]; rfl
    | cons d more =>
      have both := (List.isChain_cons_cons.mp own).1
      exact absurd ⟨blanks c (.head _), blanks d (.tail _ (.head _))⟩ both

theorem length_collapsed_le (text : List Char) : (collapsed text).length ≤ text.length := by
  induction text using runs_induction with
  | nil => exact Nat.le_refl 0
  | other c rest other ih =>
    rw [collapsed_cons other]
    exact Nat.succ_le_succ ih
  | blanks run rest nonempty blanks stop ih =>
    obtain ⟨blank, -, single⟩ := exists_collapseRun nonempty blanks
    have positive := List.length_pos_iff.mpr nonempty
    rw [collapsed_append nonempty blanks stop, single, List.length_append, List.length_append,
      List.length_singleton]
    omega

/-- A text without blanks that is at the start afterwards was there before. -/
theorem prefix_of_prefix_collapsed (plain : ∀ c ∈ piece, isBlank c = false)
    (starts : piece <+: collapsed text) : piece <+: text := by
  induction text using runs_induction generalizing piece with
  | nil => exact starts
  | other c rest other ih =>
    rw [collapsed_cons other, List.prefix_cons_iff] at starts
    rcases starts with rfl | ⟨further, rfl, starts⟩
    · exact List.nil_prefix
    · exact List.cons_prefix_cons.mpr ⟨rfl, ih (List.forall_mem_cons.mp plain).2 starts⟩
  | blanks run rest nonempty blanks stop ih =>
    obtain ⟨blank, isBlank, single⟩ := exists_collapseRun nonempty blanks
    rw [collapsed_append nonempty blanks stop, single, List.singleton_append,
      List.prefix_cons_iff] at starts
    rcases starts with rfl | ⟨further, rfl, -⟩
    · exact List.nil_prefix
    · rw [plain blank (.head _)] at isBlank
      cases isBlank

theorem not_holdsEntity_collapsed (free : ¬HoldsEntity text) : ¬HoldsEntity (collapsed text) := by
  induction text using runs_induction with
  | nil => exact free
  | other c rest other ih =>
    rw [collapsed_cons other]
    rintro ⟨piece, entity, inside⟩
    rcases List.infix_cons_iff.mp inside with starts | further
    · rw [← collapsed_cons other] at starts
      have before := prefix_of_prefix_collapsed entity.forall_mem_isBlank starts
      exact free ⟨piece, entity, before.isInfix⟩
    · exact ih (fun holds => free (holds.mono (List.suffix_cons c rest).isInfix))
        ⟨piece, entity, further⟩
  | blanks run rest nonempty blanks stop ih =>
    obtain ⟨blank, isBlank, single⟩ := exists_collapseRun nonempty blanks
    rw [collapsed_append nonempty blanks stop, single]
    refine not_holdsEntity_cons
      (ih fun holds => free (holds.mono (List.suffix_append run rest).isInfix)) ?_
    rintro rfl
    exact absurd isBlank (by decide)

end MarkupLint.Normalize
