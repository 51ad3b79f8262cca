import MarkupLint.Text.Scan

/-!
What a scan finds, told by places: from each place on, the first match that starts there or later,
and then what is found behind it. Main statement: a scan finds exactly this, and nothing else is
found in this way (`Text.leftmostFrom_matchAt_iff`).
-/
namespace MarkupLint.Text

variable {α : Type}

/-- What is found from a place on: the match that starts first, and what is found from its end on.
Matches are given by their start, their end and what is found there. -/
inductive LeftmostFrom (matchAt : Nat → Nat → α → Prop) : Nat → List α → Prop
  | nothing {place : Nat} (absent : ∀ start ≥ place, ∀ stop found, ¬matchAt start stop found) :
      LeftmostFrom matchAt place []
  | next {place start stop : Nat} {found : α} {others : List α} (onward : place ≤ start)
      (absent : ∀ earlier ≥ place, earlier < start → ∀ stop found, ¬matchAt earlier stop found)
      (here : matchAt start stop found) (more : LeftmostFrom matchAt stop others) :
      LeftmostFrom matchAt place (found :: others)

/-- A match of a recogniser, which sees the character before its place and the rest of the text. -/
def MatchAt (find : Option Char → Recogniser α) (text : List Char) (start stop : Nat) (found : α) :
    Prop :=
  start < text.length ∧ ∃ reach,
    find (text.take start).getLast? (text.drop start) = some (found, reach) ∧
      stop = start + reach + 1

/-- A piece that stands behind a place is what the text holds from there to the end of the piece. -/
theorem extract_of_drop {text piece rest : List Char} {i : Nat}
    (parts : text.drop i = piece ++ rest) :
    text.extract i (i + piece.length) = piece ∧ text.drop (i + piece.length) = rest := by
  rw [List.extract_eq_take_drop, Nat.add_sub_cancel_left, ← List.drop_drop, parts, List.take_left,
    List.drop_left]
  exact ⟨rfl, rfl⟩

variable {matchAt : Nat → Nat → α → Prop} {place : Nat} {results : List α}

theorem LeftmostFrom.of_succ (absent : ∀ stop found, ¬matchAt place stop found)
    (later : LeftmostFrom matchAt (place + 1) results) : LeftmostFrom matchAt place results := by
  have none (start : Nat) (atLeast : place ≤ start)
      (behind : place + 1 ≤ start → ∀ stop found, ¬matchAt start stop found) :
      ∀ stop found, ¬matchAt start stop found := by
    rcases Nat.eq_or_lt_of_le atLeast with rfl | beyond
    · exact absent
    · exact behind beyond
  cases later with
  | nothing nowhere =>
    exact .nothing fun start atLeast => none start atLeast (nowhere start)
  | next onward before here more =>
    refine .next (Nat.le_of_succ_le onward) (fun earlier atLeast less => ?_) here more
    exact none earlier atLeast fun beyond => before earlier beyond less

/-- If a place determines the match that starts there, then what is found is determined too. -/
theorem LeftmostFrom.unique
    (determined : ∀ {start stop stop' found found'}, matchAt start stop found →
      matchAt start stop' found' → stop = stop' ∧ found = found')
    {others : List α} (left : LeftmostFrom matchAt place results)
    (right : LeftmostFrom matchAt place others) : results = others := by
  induction left generalizing others with
  | nothing nowhere =>
    cases right with
    | nothing => rfl
    | next onward _ here _ => exact absurd here (nowhere _ onward _ _)
  | @next _ start _ _ _ onward before here _ ih =>
    cases right with
    | nothing nowhere => exact absurd here (nowhere _ onward _ _)
    | @next _ start' _ _ _ onward' before' here' more' =>
      obtain rfl : start = start' := by
        rcases Nat.lt_trichotomy start start' with less | same | more
        · exact absurd here (before' start onward less _ _)
        · exact same
        · exact absurd here' (before start' onward' more _ _)
      obtain ⟨rfl, rfl⟩ := determined here here'
      rw [ih more']

theorem LeftmostFrom.ne_nil_iff (leftmost : LeftmostFrom matchAt place results) :
    results ≠ [] ↔ ∃ start ≥ place, ∃ stop found, matchAt start stop found := by
  cases leftmost with
  | nothing nowhere =>
    refine iff_of_false (fun some => some rfl) ?_
    rintro ⟨start, atLeast, stop, found, here⟩
    exact nowhere start atLeast stop found here
  | next onward _ here _ => exact iff_of_true (List.cons_ne_nil _ _) ⟨_, onward, _, _, here⟩

theorem MatchAt.determined {find : Option Char → Recogniser α} {text : List Char}
    {start stop stop' : Nat} {found found' : α} (here : MatchAt find text start stop found)
    (here' : MatchAt find text start stop' found') : stop = stop' ∧ found = found' := by
  obtain ⟨-, reach, seen, rfl⟩ := here
  obtain ⟨-, reach', seen', rfl⟩ := here'
  obtain ⟨rfl, rfl⟩ := Prod.mk.inj (Option.some.inj (seen.symm.trans seen'))
  exact ⟨rfl, rfl⟩

/-- The scan stands behind `front`, and has `covered` characters of the rest to pass over. -/
theorem leftmostFrom_scanFrom (find : Option Char → Recogniser α) (front rest : List Char)
    (covered : Nat) :
    LeftmostFrom (MatchAt find (front ++ rest)) (front.length + covered)
      (scanFrom find front.getLast? covered rest) := by
  induction rest generalizing front covered with
  | nil =>
    rw [scanFrom]
    refine .nothing fun start atLeast stop found ⟨within, _⟩ => ?_
    rw [List.append_nil] at within
    omega
  | cons c rest ih =>
    have moved (covered : Nat) :
        LeftmostFrom (MatchAt find (front ++ c :: rest)) (front.length + 1 + covered)
          (scanFrom find (some c) covered rest) := by
      simpa using ih (front ++ [c]) covered
    cases covered with
    | succ covered =>
      have later := moved covered
      rwa [Nat.add_assoc, Nat.add_comm 1 covered] at later
    | zero =>
      have atPlace (stop : Nat) (found : α) :
          MatchAt find (front ++ c :: rest) front.length stop found ↔ ∃ reach,
            find front.getLast? (c :: rest) = some (found, reach) ∧
              stop = front.length + reach + 1 := by
        simp [MatchAt]
      rw [scanFrom]
      cases seen : find front.getLast? (c :: rest) with
      | none =>
        refine LeftmostFrom.of_succ (fun stop found => ?_) (moved 0)
        rw [Nat.add_zero, atPlace, seen]
        rintro ⟨reach, ⟨⟩, -⟩
      | some result =>
        obtain ⟨found, reach⟩ := result
        refine .next (Nat.le_refl _) (fun earlier atLeast less => absurd less (by omega))
          ((atPlace _ found).mpr ⟨reach, seen, rfl⟩) ?_
        have later := moved reach
        rwa [Nat.add_right_comm] at later

theorem leftmostFrom_scan (find : Option Char → Recogniser α) (text : List Char) :
    LeftmostFrom (MatchAt find text) 0 (scan find text) :=
  leftmostFrom_scanFrom find [] text 0

theorem leftmostFrom_matchAt_iff (find : Option Char → Recogniser α) (text : List Char)
    (results : List α) : LeftmostFrom (MatchAt find text) 0 results ↔ results = scan find text := by
  constructor
  · intro leftmost
    refine LeftmostFrom.unique ?_ leftmost (leftmostFrom_scan find text)
    exact fun here here' => here.determined here'
  · rintro rfl
    exact leftmostFrom_scan find text

end MarkupLint.Text
