import MarkupLint.Proofs.PlainText
import MarkupLint.Proofs.Remembered

/-!
What checkers are given to look at. A letter of a fragment comes through normalization unless it is
in an entity (`Normalize.isCheckable_normalize_iff`), since none of the other steps takes a letter
away and taking a quote off at an end makes no entity. Main statements: checkers are asked about a
segment just if such a letter is in it (`Pipeline.asks_checkAlone_iff`), and it does not matter
which quotes stand around its text (`Pipeline.checkAlone_quoted`).
-/
namespace MarkupLint

namespace Normalize

open Text

/-- A place of a text at which an entity stands. -/
def InEntity (text : List Char) (place : Nat) : Prop :=
  ∃ front piece back, IsEntity piece ∧ text = front ++ (piece ++ back) ∧
    front.length ≤ place ∧ place < front.length + piece.length

/-- An ASCII letter at a place where no entity stands. -/
def HasPlainLetter (text : List Char) : Prop :=
  ∃ place c, text[place]? = some c ∧ isAsciiLetter c = true ∧ ¬InEntity text place

/-- The characters of a text that are not blank. -/
def visible (text : List Char) : List Char :=
  text.filter (!isBlank ·)

variable {text front back piece rest : List Char} {c : Char} {place : Nat}

/-! ### Where entities stand -/

theorem InEntity.append_left (inside : InEntity rest place) (front : List Char) :
    InEntity (front ++ rest) (front.length + place) := by
  obtain ⟨before, piece, back, entity, rfl, start, stop⟩ := inside
  refine ⟨front ++ before, piece, back, entity, (List.append_assoc _ _ _).symm, ?_, ?_⟩
  · rw [List.length_append]
    omega
  · rw [List.length_append]
    omega

/-- Where no entity starts at the first character, all of them are in the rest. -/
theorem inEntity_cons_iff (none : entity? (c :: rest) = none) :
    InEntity (c :: rest) place ↔ ∃ later, place = later + 1 ∧ InEntity rest later := by
  constructor
  · rintro ⟨before, piece, back, entity, split, start, stop⟩
    cases before with
    | nil =>
      rw [split, List.nil_append, entity?_append entity] at none
      cases none
    | cons d before =>
      obtain ⟨-, rfl⟩ := List.cons.inj split
      rw [List.length_cons] at start stop
      exact ⟨place - 1, by omega, before, piece, back, entity, rfl, by omega, by omega⟩
  · rintro ⟨later, rfl, inside⟩
    have shifted := inside.append_left [c]
    rw [List.length_singleton, Nat.add_comm] at shifted
    exact shifted

/-- Behind an entity at the start, all further entities are in the rest. -/
theorem inEntity_append_iff (entity : IsEntity piece) :
    InEntity (piece ++ rest) place ↔
      place < piece.length ∨ ∃ later, place = piece.length + later ∧ InEntity rest later := by
  constructor
  · rintro ⟨before, other, back, isEntity, split, start, stop⟩
    rcases List.append_eq_append_iff.mp split with ⟨across, rfl, same⟩ | ⟨across, same, others⟩
    · rw [List.length_append] at start stop
      exact .inr ⟨place - piece.length, by omega, across, other, back, isEntity, same, by omega,
        by omega⟩
    · cases before with
      | nil =>
        -- both entities stand at the start, where the scan finds only one
        obtain rfl : piece = across := same
        have found := entity?_append isEntity back
        rw [others, entity?_append entity, Option.some_inj, Prod.mk.injEq] at found
        obtain ⟨tail, rfl, -⟩ := entity.not_mem_tail
        rw [List.length_cons] at found ⊢
        rw [List.length_nil] at stop
        exact .inl (by omega)
      | cons d before =>
        cases across with
        | nil =>
          obtain rfl : piece = d :: before := same.trans (List.append_nil _)
          refine .inr ⟨place - (d :: before).length, by omega, [], other, back, isEntity,
            others.symm, Nat.zero_le _, ?_⟩
          rw [List.length_nil]
          omega
        | cons e across =>
          -- the second ampersand would stand in the tail of the first entity
          obtain ⟨tail, rfl, once⟩ := entity.not_mem_tail
          obtain ⟨own, rfl, -⟩ := isEntity.not_mem_tail
          obtain ⟨-, rfl⟩ := List.cons.inj same
          obtain ⟨rfl, -⟩ := List.cons.inj others
          exact absurd (List.mem_append_right before (.head across)) once
  · rintro (first | ⟨later, rfl, inside⟩)
    · exact ⟨[], piece, rest, entity, rfl, Nat.zero_le _, by rw [List.length_nil]; omega⟩
    · exact inside.append_left piece

theorem hasPlainLetter_cons_iff (none : entity? (c :: rest) = none) :
    HasPlainLetter (c :: rest) ↔ isAsciiLetter c = true ∨ HasPlainLetter rest := by
  constructor
  · rintro ⟨place, d, found, letter, outside⟩
    cases place with
    | zero =>
      obtain rfl : c = d := Option.some.inj found
      exact .inl letter
    | succ place =>
      refine .inr ⟨place, d, found, letter, fun inside => outside ?_⟩
      exact (inEntity_cons_iff none).mpr ⟨place, rfl, inside⟩
  · rintro (letter | ⟨place, d, found, letter, outside⟩)
    · refine ⟨0, c, rfl, letter, fun inside => ?_⟩
      obtain ⟨later, same, -⟩ := (inEntity_cons_iff none).mp inside
      omega
    · refine ⟨place + 1, d, found, letter, fun inside => outside ?_⟩
      obtain ⟨later, same, further⟩ := (inEntity_cons_iff none).mp inside
      obtain rfl : place = later := Nat.succ.inj same
      exact further

theorem hasPlainLetter_append_iff (entity : IsEntity piece) :
    HasPlainLetter (piece ++ rest) ↔ HasPlainLetter rest := by
  constructor
  · rintro ⟨place, c, found, letter, outside⟩
    rw [inEntity_append_iff entity, not_or, Nat.not_lt] at outside
    obtain ⟨behind, outside⟩ := outside
    rw [List.getElem?_append_right behind] at found
    exact ⟨place - piece.length, c, found, letter,
      fun inside => outside ⟨_, by omega, inside⟩⟩
  · rintro ⟨place, c, found, letter, outside⟩
    refine ⟨piece.length + place, c, ?_, letter, fun inside => ?_⟩
    · rw [List.getElem?_append_right (Nat.le_add_right _ _), Nat.add_sub_cancel_left, found]
    · rcases (inEntity_append_iff entity).mp inside with first | ⟨later, same, further⟩
      · omega
      · obtain rfl : place = later := Nat.add_left_cancel same
        exact outside further

/-- The letters that are left when entities have given way to spaces are those outside of them. -/
theorem any_substitute_entity_iff (text : List Char) :
    (substitute entity? text).any isAsciiLetter = true ↔ HasPlainLetter text := by
  induction text using entities_induction with
  | nil =>
    refine iff_of_false Bool.false_ne_true ?_
    rintro ⟨place, c, found, -⟩
    cases found
  | other c rest none ih =>
    rw [substitute_of_none none, List.any_cons, Bool.or_eq_true, ih, hasPlainLetter_cons_iff none]
  | entity piece rest entity ih =>
    rw [substitute_entity entity, List.any_cons, hasPlainLetter_append_iff entity, ← ih]
    rfl

/-! ### Quotes at the ends -/

theorem isQuote_cases (quote : isQuote c = true) :
    c = '\'' ∨ c = '"' ∨ c = Char.ofNat 0x60 := by
  rw [isQuote, Bool.or_eq_true, Bool.or_eq_true, beq_iff_eq, beq_iff_eq, beq_iff_eq] at quote
  rcases quote with (single | double) | tick
  · exact .inl single
  · exact .inr (.inl double)
  · exact .inr (.inr (by rw [← tick, Char.ofNat_toNat]))

theorem not_isAsciiLetter_of_isQuote (quote : isQuote c = true) : isAsciiLetter c = false := by
  rcases isQuote_cases quote with rfl | rfl | rfl <;> decide

theorem IsEntity.forall_mem_isQuote (entity : IsEntity piece) :
    ∀ c ∈ piece, isQuote c = false := by
  refine entity.forall_mem (by decide) (fun c letter => ?_) (by decide)
  cases quote : isQuote c with
  | false => rfl
  | true =>
    rw [not_isAsciiLetter_of_isQuote quote] at letter
    cases letter

theorem stops_of_isQuote (quote : isQuote c = true) : Stops c := by
  intro tail entity member
  rw [entity.forall_mem_isQuote c (.tail _ member)] at quote
  cases quote

/-- A character that is in no entity leaves those on both sides of it alone. -/
theorem substitute_entity_append_cons (stops : Stops c) (other : c ≠ '&')
    (front back : List Char) :
    substitute entity? (front ++ c :: back) =
      substitute entity? front ++ c :: substitute entity? back := by
  induction front using entities_induction with
  | nil =>
    apply substitute_of_none
    rw [entity?]
    rintro rest same
    exact other (List.cons.inj same).1
  | other d rest none ih =>
    have off : entity? (d :: rest ++ c :: back) = Option.none :=
      entity?_append_eq_none none stops
    rw [List.cons_append] at off ⊢
    rw [substitute_of_none off, substitute_of_none none, ih, List.cons_append]
  | entity piece rest entity ih =>
    rw [List.append_assoc, substitute_entity entity, substitute_entity entity, ih, List.cons_append]

/-- Only letters outside of entities are left, and a separator is none of them. -/
theorem any_substitute_append_cons (stops : Stops c) (other : c ≠ '&')
    (noLetter : isAsciiLetter c = false) (front back : List Char) :
    (substitute entity? (front ++ c :: back)).any isAsciiLetter =
      ((substitute entity? front).any isAsciiLetter ||
        (substitute entity? back).any isAsciiLetter) := by
  rw [substitute_entity_append_cons stops other, List.any_append, List.any_cons, noLetter,
    Bool.false_or]

theorem ne_ampersand_of_isQuote (quote : isQuote c = true) : c ≠ '&' := by
  rintro rfl
  exact absurd quote (by decide)

theorem any_substitute_unopened (text : List Char) :
    (substitute entity? (unopened text)).any isAsciiLetter =
      (substitute entity? text).any isAsciiLetter := by
  cases text with
  | nil => rfl
  | cons c rest =>
    rw [unopened, List.head?_cons, Option.any_some, List.tail_cons]
    split
    next quote =>
      exact (any_substitute_append_cons (stops_of_isQuote quote) (ne_ampersand_of_isQuote quote)
        (not_isAsciiLetter_of_isQuote quote) [] rest).symm
    next => rfl

theorem any_substitute_unclosed (text : List Char) :
    (substitute entity? (unclosed text)).any isAsciiLetter =
      (substitute entity? text).any isAsciiLetter := by
  unfold unclosed
  split
  next final =>
    obtain ⟨c, last, quote⟩ := (Option.any_eq_true _ _).mp final
    obtain ⟨front, rfl⟩ := List.getLast?_eq_some_iff.mp last
    rw [List.dropLast_concat, any_substitute_append_cons (stops_of_isQuote quote)
      (ne_ampersand_of_isQuote quote) (not_isAsciiLetter_of_isQuote quote)]
    exact (Bool.or_false _).symm
  next =>
    split
    next final =>
      obtain ⟨newline, before⟩ := final
      obtain ⟨body, rfl⟩ := List.getLast?_eq_some_iff.mp newline
      rw [List.dropLast_concat] at before ⊢
      obtain ⟨c, last, quote⟩ := (Option.any_eq_true _ _).mp before
      obtain ⟨front, rfl⟩ := List.getLast?_eq_some_iff.mp last
      rw [List.dropLast_concat, List.append_assoc, List.singleton_append,
        any_substitute_append_cons (stops_of_isBlank (by decide)) (by decide) (by decide),
        any_substitute_append_cons (stops_of_isQuote quote) (ne_ampersand_of_isQuote quote)
          (not_isAsciiLetter_of_isQuote quote)]
      rfl
    next => rfl

/-! ### White space -/

theorem visible_append (front back : List Char) :
    visible (front ++ back) = visible front ++ visible back :=
  List.filter_append front back

theorem visible_of_blank (blank : ∀ c ∈ text, isBlank c = true) : visible text = [] :=
  List.filter_eq_nil_iff.mpr fun c inside => by simp [blank c inside]

theorem visible_dropWhile_isBlank (text : List Char) :
    visible (text.dropWhile isBlank) = visible text := by
  conv => rhs; rw [← List.takeWhile_append_dropWhile (p := isBlank) (l := text)]
  rw [visible_append, visible_of_blank fun c => List.mem_takeWhile_imp, List.nil_append]

theorem visible_trim (text : List Char) : visible (trim text) = visible text := by
  calc visible (trim text)
      = (visible ((text.dropWhile isBlank).reverse.dropWhile isBlank)).reverse :=
      List.filter_reverse
    _ = (visible (text.dropWhile isBlank).reverse).reverse := by rw [visible_dropWhile_isBlank]
    _ = visible (text.dropWhile isBlank) := by
      rw [visible, List.filter_reverse, List.reverse_reverse, visible]
    _ = visible text := visible_dropWhile_isBlank text

theorem visible_collapsed (text : List Char) : visible (collapsed text) = visible text := by
  induction text using runs_induction with
  | nil => rfl
  | other c rest other ih =>
    rw [collapsed_cons other, ← List.singleton_append, visible_append, ih, ← visible_append,
      List.singleton_append]
  | blanks run rest nonempty blanks stop ih =>
    obtain ⟨blank, isBlank, single⟩ := exists_collapseRun nonempty blanks
    rw [collapsed_append nonempty blanks stop, single, visible_append, visible_append, ih,
      visible_of_blank blanks, visible_of_blank (List.forall_mem_singleton.mpr isBlank)]

/-- Collapsing and trimming keep characters that are not blank, and keep their order. -/
theorem filter_trim_collapsed {kept : Char → Bool} (solid : ∀ c, kept c = true → isBlank c = false)
    (text : List Char) : (trim (collapsed text)).filter kept = text.filter kept := by
  have through (chars : List Char) : chars.filter kept = (visible chars).filter kept := by
    rw [visible, List.filter_filter]
    refine List.filter_congr fun c _ => ?_
    cases keeps : kept c with
    | false => rfl
    | true => rw [solid c keeps]; rfl
  rw [through, visible_trim, visible_collapsed, ← through]

theorem any_trim_collapsed {kept : Char → Bool} (solid : ∀ c, kept c = true → isBlank c = false)
    (text : List Char) : (trim (collapsed text)).any kept = text.any kept := by
  rw [Bool.eq_iff_iff, List.any_eq_true, List.any_eq_true]
  simp only [← List.mem_filter, filter_trim_collapsed solid]

/-- A fragment is worth checking if it has a letter outside of entities. -/
theorem isCheckable_normalize_iff (raw : List Char) :
    isCheckable (normalize raw) = true ↔ HasPlainLetter raw := by
  rw [isCheckable, normalize_eq, any_trim_collapsed fun _ => isBlank_of_isAsciiLetter,
    stripQuotes_eq, any_substitute_unclosed, any_substitute_unopened, any_substitute_entity_iff]

/-! ### Quotes around a text -/

/-- A text with a quote before it and the same quote after it. -/
def quoted (quote : Char) (body : String) : String :=
  String.ofList (quote :: (body.toList ++ [quote]))

theorem isBlank_of_isQuote (quote : isQuote c = true) : isBlank c = false := by
  rcases isQuote_cases quote with rfl | rfl | rfl <;> decide

/-- Just the two quotes around a text are taken off. -/
theorem stripQuotes_quoted (quote : isQuote c = true) (body : String) :
    stripQuotes (quoted c body).toList = body.toList := by
  rw [quoted, String.toList_ofList, stripQuotes_eq, unopened, List.head?_cons, Option.any_some,
    if_pos quote, List.tail_cons, unclosed, List.getLast?_concat, Option.any_some, if_pos quote,
    List.dropLast_concat]

theorem filter_isQuote_substitute_entity (text : List Char) :
    (substitute entity? text).filter isQuote = text.filter isQuote := by
  induction text using entities_induction with
  | nil => rfl
  | other c rest none ih =>
    rw [substitute_of_none none, List.filter_cons, List.filter_cons, ih]
  | entity piece rest entity ih =>
    have none : piece.filter isQuote = [] :=
      List.filter_eq_nil_iff.mpr fun c inside => by simp [entity.forall_mem_isQuote c inside]
    rw [substitute_entity entity, List.filter_append, none, List.nil_append, ← ih]
    rfl

/-- What is left of a text between quotes does not depend on them, and quotes inside are kept. -/
theorem exists_normalized_quoted (quote : isQuote c = true) (body : String) :
    ∃ decoded, Decoded body.toList decoded ∧
      normalized (quoted c body) = String.ofList (trim (collapsed decoded)) ∧
      (normalized (quoted c body)).toList.filter isQuote = body.toList.filter isQuote := by
  refine ⟨_, decoded_substitute body.toList, ?_, ?_⟩
  · rw [normalized, normalize_eq, stripQuotes_quoted quote]
  · rw [normalized, String.toList_ofList, normalize_eq, stripQuotes_quoted quote,
      filter_trim_collapsed fun _ => isBlank_of_isQuote, filter_isQuote_substitute_entity]

end Normalize

namespace Pipeline

open Normalize

variable (p : Pipeline) (file : String)

theorem asks_foldl_ask (index : Nat) (queries : List Query) (progress : Progress) :
    asks index (queries.foldl (Progress.ask p file) progress).trace =
      asks index progress.trace ++ textsFor index queries := by
  induction queries generalizing progress with
  | nil => exact (List.append_nil _).symm
  | cons query rest ih =>
    have split := textsFor_append index [query] rest
    rw [List.singleton_append, textsFor_singleton] at split
    rw [List.foldl_cons, ih, Progress.asks_ask, List.append_assoc, split]

theorem asks_checkAlone (segment : Segment) (index : Nat) :
    asks index (p.checkAlone file segment).trace =
      if index < p.checkers.length then (checkable? segment).toList else [] := by
  rw [checkAlone, asks_foldl_ask, textsFor_queries]
  rfl

theorem checkable?_of_hasPlainLetter {segment : Segment}
    (letter : HasPlainLetter segment.text.toList) :
    checkable? segment = some (normalized segment.text) :=
  if_pos ((isCheckable_normalize_iff _).mpr letter)

theorem checkable?_of_not_hasPlainLetter {segment : Segment}
    (noLetter : ¬HasPlainLetter segment.text.toList) : checkable? segment = none :=
  if_neg fun worth => noLetter ((isCheckable_normalize_iff _).mp worth)

/-- Checked alone, a segment with an ASCII letter outside of entities has every checker asked once,
about its plain text; without such a letter nobody is asked, and nothing is found. -/
theorem asks_checkAlone_iff (segment : Segment) :
    (∀ index, index < p.checkers.length →
      (asks index (p.checkAlone file segment).trace = [normalized segment.text] ↔
        HasPlainLetter segment.text.toList)) ∧
    (∀ index, p.checkers.length ≤ index → asks index (p.checkAlone file segment).trace = []) ∧
    (¬HasPlainLetter segment.text.toList →
      (p.checkAlone file segment).trace = [] ∧ (p.checkAlone file segment).diagnostics = []) := by
  refine ⟨fun index inside => ?_, fun index outside => ?_, fun noLetter => ?_⟩
  · rw [asks_checkAlone, if_pos inside]
    by_cases letter : HasPlainLetter segment.text.toList
    · rw [checkable?_of_hasPlainLetter letter]
      exact iff_of_true rfl letter
    · rw [checkable?_of_not_hasPlainLetter letter]
      exact iff_of_false (List.cons_ne_nil _ _).symm letter
  · rw [asks_checkAlone, if_neg (Nat.not_lt.mpr outside)]
  · have idle : p.queries segment = [] :=
      if_neg fun worth => noLetter ((isCheckable_normalize_iff _).mp worth)
    rw [checkAlone, idle]
    exact ⟨rfl, rfl⟩

/-- An entity that another one is cut short by is none, and its letters are plain. -/
theorem asks_checkAlone_iff_cut_short :
    let p : Pipeline :=
      { checkers := [{ name := "c", run := fun text => .ok [⟨text, "r"⟩] }], timeout := .unlimited }
    let lettered : Segment := ⟨"'&a&b;c; 1'", 3, .attribute⟩
    let bare : Segment := ⟨"&nbsp;42%", 4, .textRun⟩
    HasPlainLetter lettered.text.toList ∧
      asks 0 (p.checkAlone "f" lettered).trace = ["&a c; 1"] ∧
      ¬HasPlainLetter bare.text.toList ∧ (p.checkAlone "f" bare).trace = [] ∧
      (p.checkAlone "f" bare).diagnostics = [] := by
  intro p lettered bare
  have asked : asks 0 (p.checkAlone "f" lettered).trace = ["&a c; 1"] := by decide +kernel
  have plain : ["&a c; 1"] = [normalized lettered.text] := by decide +kernel
  have letter := ((p.asks_checkAlone_iff "f" lettered).1 0 Nat.zero_lt_one).mp (asked.trans plain)
  obtain ⟨whole, -, idle⟩ := p.asks_checkAlone_iff "f" bare
  have noLetter : ¬HasPlainLetter bare.text.toList := by
    rw [← whole 0 Nat.zero_lt_one]
    decide +kernel
  exact ⟨letter, asked, noLetter, idle noLetter⟩

/-- Segments that differ in the quotes around their text are treated alike, with memory or without,
and checkers get what is left of the text between the quotes. -/
theorem checkAlone_quoted {quote other : Char} (isQuote_quote : isQuote quote = true)
    (isQuote_other : isQuote other = true) (body : String) (line : Int) (origin : SegmentOrigin) :
    let segment (c : Char) : Segment := ⟨quoted c body, line, origin⟩
    p.checkAlone file (segment quote) = p.checkAlone file (segment other) ∧
      (∀ (progress : Progress) (region : Region) (log : List LogRecord),
        progress.advance p file ⟨region, log, some (segment quote)⟩ =
          progress.advance p file ⟨region, log, some (segment other)⟩) ∧
      ∃ decoded, Decoded body.toList decoded ∧
        (Text.trim (collapsed decoded)).filter isQuote = body.toList.filter isQuote ∧
        ∀ index, ∀ text ∈ asks index (p.checkAlone file (segment quote)).trace,
          text = String.ofList (Text.trim (collapsed decoded)) := by
  intro segment
  have same : p.queries (segment quote) = p.queries (segment other) := by
    simp only [queries, segment, normalize_eq, stripQuotes_quoted isQuote_quote,
      stripQuotes_quoted isQuote_other]
  refine ⟨?_, fun progress region log => ?_, ?_⟩
  · rw [checkAlone, checkAlone, same]
  · rw [Progress.advance, Progress.advance, Option.elim_some, Option.elim_some, same]
  · obtain ⟨decoded, isDecoded, plain, kept⟩ := exists_normalized_quoted isQuote_quote body
    rw [plain, String.toList_ofList] at kept
    refine ⟨decoded, isDecoded, kept, fun index text asked => ?_⟩
    rw [asks_checkAlone, checkable?] at asked
    split at asked
    next =>
      split at asked
      next => exact (List.mem_singleton.mp asked).trans plain
      next => cases asked
    next => cases asked

/-- Quotes of one kind inside quotes of another. -/
theorem checkAlone_quoted_nested :
    let p : Pipeline :=
      { checkers := [{ name := "c", run := fun text => .ok [⟨text, "r"⟩] }], timeout := .unlimited }
    let body := "'a' &amp; \"b\"\n"
    isQuote '\'' = true ∧ isQuote '"' = true ∧
      p.checkAlone "f" ⟨quoted '\'' body, 3, .attribute⟩ =
        p.checkAlone "f" ⟨quoted '"' body, 3, .attribute⟩ ∧
      (p.checkAlone "f" ⟨quoted '"' body, 3, .attribute⟩).diagnostics =
        [⟨3, "'a' \"b\"", "r", "c", "f"⟩] := by
  intro p body
  have single : isQuote '\'' = true := by decide
  have double : isQuote '"' = true := by decide
  exact ⟨single, double, (p.checkAlone_quoted "f" single double body 3 .attribute).1,
    by decide +kernel⟩

end Pipeline

end MarkupLint
