import Mathlib.Data.List.Infix
import Mathlib.Data.List.TakeWhile
import MarkupLint.Markup.Normalize

/-!
Named entities in a text. Substitution replaces a match where it meets one and goes on behind it
(`Text.substitute_of_some`). An entity holds one ampersand, its first character, so two of them
never share a character. Main statements: replacing entities is what `Normalize.Decoded` tells, from
the first entity to the last (`Normalize.decoded_iff`), and leaves none behind
(`Normalize.Decoded.not_holdsEntity`).
-/
namespace MarkupLint

namespace Text

variable {find : Recogniser (List Char)} {c : Char} {rest : List Char}

theorem substituteFrom_eq_drop (find : Recogniser (List Char)) (covered : Nat) (text : List Char) :
    substituteFrom find covered text = substitute find (text.drop covered) := by
  induction text generalizing covered with
  | nil => cases covered <;> rfl
  | cons c rest ih =>
    cases covered with
    | zero => rfl
    | succ covered => exact ih covered

theorem substitute_of_none (none : find (c :: rest) = none) :
    substitute find (c :: rest) = c :: substitute find rest := by
  rw [substitute, substituteFrom, none]
  rfl

theorem substitute_of_some {replacement : List Char} {reach : Nat}
    (found : find (c :: rest) = some (replacement, reach)) :
    substitute find (c :: rest) = replacement ++ substitute find (rest.drop reach) := by
  rw [substitute, substituteFrom, found]
  exact congrArg _ (substituteFrom_eq_drop find reach rest)

theorem drop_length_takeWhile (p : Char → Bool) (text : List Char) :
    text.drop (text.takeWhile p).length = text.dropWhile p := by
  induction text with
  | nil => rfl
  | cons c rest ih =>
    rw [List.takeWhile_cons, List.dropWhile_cons]
    split
    next => exact ih
    next => rfl

theorem takeWhile_append_drop (p : Char → Bool) (text : List Char) :
    text.takeWhile p ++ text.drop (text.takeWhile p).length = text := by
  rw [drop_length_takeWhile, List.takeWhile_append_dropWhile]

theorem takeWhile_beq (c : Char) (text : List Char) :
    text.takeWhile (· == c) = List.replicate (text.takeWhile (· == c)).length c :=
  List.eq_replicate_of_mem fun _ member =>
    beq_iff_eq.mp (List.mem_takeWhile_imp (p := (· == c)) member)

theorem stop_dropWhile (p : Char → Bool) (text : List Char) :
    ∀ c ∈ (text.dropWhile p).head?, p c = false := by
  intro c first
  have stop := List.head?_dropWhile_not p text
  rw [Option.mem_def.mp first] at stop
  exact stop

theorem takeWhile_append_of_stop {p : Char → Bool} {run rest : List Char}
    (all : ∀ c ∈ run, p c = true) (stop : ∀ c ∈ rest.head?, p c = false) :
    (run ++ rest).takeWhile p = run := by
  rw [List.takeWhile_append_of_pos all]
  cases rest with
  | nil => exact List.append_nil run
  | cons d rest => rw [List.takeWhile_cons_of_neg (by simp [stop d rfl]), List.append_nil]

end Text

namespace Normalize

open Text

/-- An ampersand, ASCII letters, of which there is one at least, and a semicolon. -/
def IsEntity (piece : List Char) : Prop :=
  ∃ name, name ≠ [] ∧ (∀ c ∈ name, isAsciiLetter c = true) ∧ piece = '&' :: (name ++ [';'])

def HoldsEntity (text : List Char) : Prop :=
  ∃ piece, IsEntity piece ∧ piece <:+: text

/-- A text and what it becomes when each entity in it, from the first to the last, gives way to a
space. -/
inductive Decoded : List Char → List Char → Prop
  | plain {text : List Char} (free : ¬HoldsEntity text) : Decoded text text
  | entity {front piece rest out : List Char} (free : ¬HoldsEntity front) (here : IsEntity piece)
      (more : Decoded rest out) : Decoded (front ++ (piece ++ rest)) (front ++ ' ' :: out)

variable {text out front piece rest : List Char} {c : Char}

/-! ### Where an entity stands -/

theorem IsEntity.not_mem_tail (entity : IsEntity piece) :
    ∃ tail, piece = '&' :: tail ∧ '&' ∉ tail := by
  obtain ⟨name, -, letters, rfl⟩ := entity
  refine ⟨name ++ [';'], rfl, fun member => ?_⟩
  rcases List.mem_append.mp member with inside | last
  · exact absurd (letters '&' inside) (by decide)
  · exact absurd (List.mem_singleton.mp last) (by decide)

theorem isBlank_of_isAsciiLetter (letter : isAsciiLetter c = true) : isBlank c = false := by
  have range : 97 ≤ c.toNat ∧ c.toNat ≤ 122 ∨ 65 ≤ c.toNat ∧ c.toNat ≤ 90 := by
    simpa [isAsciiLetter, Char.le_def, UInt32.le_iff_toNat_le, Char.toNat_val] using letter
  rw [isBlank, Bool.eq_false_iff]
  simp only [ne_eq, Bool.or_eq_true, Bool.and_eq_true, decide_eq_true_eq, beq_iff_eq]
  omega

/-- Nothing else is in an entity. -/
theorem IsEntity.forall_mem {kept : Char → Prop} (entity : IsEntity piece)
    (ampersand : kept '&') (letter : ∀ c, isAsciiLetter c = true → kept c)
    (semicolon : kept ';') : ∀ c ∈ piece, kept c := by
  obtain ⟨name, -, letters, rfl⟩ := entity
  refine List.forall_mem_cons.mpr ⟨ampersand, List.forall_mem_append.mpr ⟨?_, ?_⟩⟩
  · exact fun c inside => letter c (letters c inside)
  · exact List.forall_mem_singleton.mpr semicolon

theorem IsEntity.forall_mem_isBlank (entity : IsEntity piece) :
    ∀ c ∈ piece, isBlank c = false :=
  entity.forall_mem (by decide) (fun _ => isBlank_of_isAsciiLetter) (by decide)

theorem entity?_append (entity : IsEntity piece) (rest : List Char) :
    entity? (piece ++ rest) = some ([' '], piece.length - 1) := by
  obtain ⟨name, nonempty, letters, rfl⟩ := entity
  have span : (name ++ ';' :: rest).takeWhile isAsciiLetter = name := by
    rw [List.takeWhile_append_of_pos letters, List.takeWhile_cons_of_neg (by decide),
      List.append_nil]
  have whole : '&' :: (name ++ [';']) ++ rest = '&' :: (name ++ ';' :: rest) := by simp
  rw [whole, entity?]
  simp [span, nonempty]

theorem exists_entity_of_entity? {found : List Char × Nat} (starts : entity? text = some found) :
    ∃ piece rest, IsEntity piece ∧ text = piece ++ rest := by
  unfold entity? at starts
  split at starts
  next rest =>
    dsimp only at starts
    split at starts
    next both =>
      obtain ⟨some, last⟩ := (Bool.and_eq_true _ _).mp both
      rw [drop_length_takeWhile, beq_iff_eq] at last
      obtain ⟨behind, split⟩ := List.head?_eq_some_iff.mp last
      refine ⟨'&' :: (rest.takeWhile isAsciiLetter ++ [';']), behind,
        ⟨_, ?_, fun c => List.mem_takeWhile_imp, rfl⟩, ?_⟩
      · intro none
        rw [none] at some
        cases some
      · rw [List.cons_append, List.append_assoc, List.singleton_append, ← split,
          List.takeWhile_append_dropWhile]
    next => cases starts
  next => cases starts

theorem holdsEntity_of_append (starts : IsEntity piece) : HoldsEntity (piece ++ rest) :=
  ⟨piece, starts, (List.prefix_append piece rest).isInfix⟩

theorem HoldsEntity.mono (holds : HoldsEntity text) (inside : text <:+: out) :
    HoldsEntity out := by
  obtain ⟨piece, entity, within⟩ := holds
  exact ⟨piece, entity, within.trans inside⟩

/-- An entity in a text starts at its first character or is in the rest. -/
theorem not_holdsEntity_cons_iff :
    ¬HoldsEntity (c :: rest) ↔ entity? (c :: rest) = none ∧ ¬HoldsEntity rest := by
  constructor
  · intro free
    refine ⟨?_, fun holds => free (holds.mono (List.suffix_cons c rest).isInfix)⟩
    cases starts : entity? (c :: rest) with
    | none => rfl
    | some found =>
      obtain ⟨piece, behind, entity, split⟩ := exists_entity_of_entity? starts
      exact absurd (split ▸ holdsEntity_of_append entity) free
  · rintro ⟨none, free⟩ ⟨piece, entity, inside⟩
    rcases List.infix_cons_iff.mp inside with ⟨behind, split⟩ | further
    · rw [← split, entity?_append entity] at none
      cases none
    · exact free ⟨piece, entity, further⟩

/-- A text starts with an entity or with a character at which none starts. -/
@[elab_as_elim]
theorem entities_induction {motive : List Char → Prop} (nil : motive [])
    (other : ∀ c rest, entity? (c :: rest) = none → motive rest → motive (c :: rest))
    (entity : ∀ piece rest, IsEntity piece → motive rest → motive (piece ++ rest))
    (text : List Char) : motive text := by
  induction length : text.length using Nat.strong_induction_on generalizing text with
  | _ n ih =>
    cases text with
    | nil => exact nil
    | cons c rest =>
      cases starts : entity? (c :: rest) with
      | none => exact other c rest starts (ih rest.length (by simp [← length]) rest rfl)
      | some found =>
        obtain ⟨piece, behind, isEntity, split⟩ := exists_entity_of_entity? starts
        have shorter : behind.length < n := by
          obtain ⟨tail, rfl, -⟩ := isEntity.not_mem_tail
          rw [← length, split, List.length_append, List.length_cons]
          omega
        rw [split]
        exact entity piece behind isEntity (ih _ shorter behind rfl)

theorem not_holdsEntity_nil : ¬HoldsEntity [] := by
  rintro ⟨piece, entity, inside⟩
  obtain ⟨tail, rfl, -⟩ := entity.not_mem_tail
  cases List.infix_nil.mp inside

/-- Characters that are in no entity but as the first of one. -/
def Stops (c : Char) : Prop :=
  ∀ tail, IsEntity ('&' :: tail) → c ∉ tail

theorem stops_ampersand : Stops '&' := by
  intro tail entity
  obtain ⟨own, same, once⟩ := entity.not_mem_tail
  rwa [(List.cons.inj same).2]

theorem stops_of_isBlank (blank : isBlank c = true) : Stops c := by
  intro tail entity member
  rw [entity.forall_mem_isBlank c (.tail _ member)] at blank
  cases blank

/-- An entity that starts in front of such a character ends there too. -/
theorem entity?_append_eq_none {next : Char} (plain : entity? (c :: front) = none)
    (stops : Stops next) : entity? (c :: front ++ next :: rest) = none := by
  cases starts : entity? (c :: front ++ next :: rest) with
  | none => rfl
  | some found =>
    obtain ⟨piece, behind, entity, split⟩ := exists_entity_of_entity? starts
    rcases List.append_eq_append_iff.mp split with ⟨across, longer, same⟩ | ⟨after, inside, -⟩
    · obtain ⟨tail, rfl, -⟩ := entity.not_mem_tail
      cases across with
      | nil =>
        have whole := entity?_append entity []
        rw [longer, List.append_nil, List.append_nil, plain] at whole
        cases whole
      | cons other across =>
        obtain ⟨rfl, -⟩ := List.cons.inj same
        obtain ⟨-, rfl⟩ := List.cons.inj longer
        exact absurd (List.mem_append_right front (.head across)) (stops _ entity)
    · rw [inside, entity?_append entity] at plain
      cases plain

theorem not_holdsEntity_append {next : Char} (free : ¬HoldsEntity front) (stops : Stops next)
    (further : ¬HoldsEntity (next :: rest)) : ¬HoldsEntity (front ++ next :: rest) := by
  induction front with
  | nil => exact further
  | cons c front ih =>
    obtain ⟨plain, free⟩ := not_holdsEntity_cons_iff.mp free
    exact not_holdsEntity_cons_iff.mpr ⟨entity?_append_eq_none plain stops, ih free⟩

theorem not_holdsEntity_cons (free : ¬HoldsEntity rest) (other : c ≠ '&') :
    ¬HoldsEntity (c :: rest) := by
  refine not_holdsEntity_cons_iff.mpr ⟨?_, free⟩
  rw [entity?]
  rintro rest same
  exact other (List.cons.inj same).1

/-! ### Replacing entities -/

theorem substitute_entity (entity : IsEntity piece) (rest : List Char) :
    substitute entity? (piece ++ rest) = ' ' :: substitute entity? rest := by
  have found := entity?_append entity rest
  obtain ⟨tail, rfl, -⟩ := entity.not_mem_tail
  rw [List.cons_append] at found ⊢
  rw [substitute_of_some found, List.length_cons, Nat.add_sub_cancel, List.drop_left]
  rfl

theorem substitute_entity_of_free (free : ¬HoldsEntity text) :
    substitute entity? text = text := by
  induction text with
  | nil => rfl
  | cons c rest ih =>
    obtain ⟨none, further⟩ := not_holdsEntity_cons_iff.mp free
    rw [substitute_of_none none, ih further]

theorem substitute_entity_append (free : ¬HoldsEntity front) (entity : IsEntity piece)
    (rest : List Char) :
    substitute entity? (front ++ (piece ++ rest)) = front ++ ' ' :: substitute entity? rest := by
  induction front with
  | nil => exact substitute_entity entity rest
  | cons c front ih =>
    obtain ⟨plain, free⟩ := not_holdsEntity_cons_iff.mp free
    have none : entity? (c :: front ++ (piece ++ rest)) = none := by
      obtain ⟨tail, rfl, -⟩ := entity.not_mem_tail
      exact entity?_append_eq_none plain stops_ampersand
    rw [List.cons_append] at none ⊢
    rw [substitute_of_none none, ih free, List.cons_append]

/-- A character at which no entity starts stays in front. -/
theorem Decoded.cons (decoded : Decoded rest out) (none : entity? (c :: rest) = none) :
    Decoded (c :: rest) (c :: out) := by
  cases decoded with
  | plain free => exact .plain (not_holdsEntity_cons_iff.mpr ⟨none, free⟩)
  | @entity front piece rest out free here more =>
    have before : ¬HoldsEntity (c :: front) := by
      refine not_holdsEntity_cons_iff.mpr ⟨?_, free⟩
      cases starts : entity? (c :: front) with
      | none => rfl
      | some found =>
        obtain ⟨first, behind, isEntity, split⟩ := exists_entity_of_entity? starts
        rw [← List.cons_append, split, List.append_assoc, entity?_append isEntity] at none
        cases none
    have whole := Decoded.entity before here more
    exact whole

theorem decoded_substitute (text : List Char) : Decoded text (substitute entity? text) := by
  induction text using entities_induction with
  | nil => exact .plain not_holdsEntity_nil
  | other c rest none ih =>
    rw [substitute_of_none none]
    exact ih.cons none
  | entity piece rest entity ih =>
    have whole := Decoded.entity not_holdsEntity_nil entity ih
    rw [substitute_entity entity]
    exact whole

/-- Replacing entities is replacing the first, and then those behind it. -/
theorem decoded_iff : Decoded text out ↔ substitute entity? text = out := by
  constructor
  · intro decoded
    induction decoded with
    | plain free => exact substitute_entity_of_free free
    | entity free here more ih => rw [substitute_entity_append free here, ih]
  · rintro rfl
    exact decoded_substitute text

theorem Decoded.not_holdsEntity (decoded : Decoded text out) : ¬HoldsEntity out := by
  induction decoded with
  | plain free => exact free
  | entity free here more ih =>
    exact not_holdsEntity_append free (stops_of_isBlank (by decide))
      (not_holdsEntity_cons ih (by decide))

theorem Decoded.length_le (decoded : Decoded text out) : out.length ≤ text.length := by
  induction decoded with
  | plain free => exact Nat.le_refl _
  | entity free here more ih =>
    obtain ⟨tail, rfl, -⟩ := here.not_mem_tail
    simp only [List.length_append, List.length_cons]
    omega

end Normalize

end MarkupLint
