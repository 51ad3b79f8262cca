import MarkupLint.Proofs.BlankRuns
import MarkupLint.Proofs.Stretch

/-!
The plain text of a fragment. Main statements: normalizing is taking a quote off at either end,
giving a space for each entity, collapsing white space and trimming, and joining wrapped lines adds
nothing to that (`Normalize.normalized_eq_iff`); what comes out is trimmed, collapsed and free of
entities, and stays as it is unless there is a quote left at one of its ends
(`Normalize.normalized_normalized`).
-/
namespace MarkupLint.Normalize

open Text

/-- A text without the quote that it opens with. -/
def unopened (text : List Char) : List Char :=
  if text.head?.any isQuote then text.tail else text

/-- A text without the quote at its end, or right before a final newline. -/
def unclosed (text : List Char) : List Char :=
  if text.getLast?.any isQuote then text.dropLast
  else if text.getLast? = some '\n' ∧ text.dropLast.getLast?.any isQuote then
    text.dropLast.dropLast ++ ['\n']
  else text

/-- No quote stands at either end. -/
def IsUnquoted (text : List Char) : Prop :=
  (∀ c ∈ text.head?, isQuote c = false) ∧ ∀ c ∈ text.getLast?, isQuote c = false

/-- No white space stands at either end. -/
def IsTrimmed (text : List Char) : Prop :=
  (∀ c ∈ text.head?, isBlank c = false) ∧ ∀ c ∈ text.getLast?, isBlank c = false

variable {text : List Char}

/-! ### Quotes -/

theorem unclosed_cons_cons_cons (c d e : Char) (more : List Char) :
    unclosed (c :: d :: e :: more) = c :: unclosed (d :: e :: more) := by
  unfold unclosed
  simp only [List.getLast?_cons_cons, List.dropLast_cons_cons]
  split
  next => rfl
  next => split <;> rfl

theorem dropClosingQuote_eq_unclosed (text : List Char) :
    dropClosingQuote text = unclosed text := by
  induction text with
  | nil => rfl
  | cons c rest ih =>
    rw [dropClosingQuote, ih]
    match rest with
    | [] => cases quote : isQuote c <;> simp [unclosed, quote]
    | [d] =>
      by_cases newline : d = '\n'
      · subst newline
        have plain : isQuote '\n' = false := by decide
        cases quote : isQuote c <;> simp [unclosed, plain, quote]
      · cases quote : isQuote d <;> simp [unclosed, newline, quote]
    | d :: e :: more => simp [unclosed_cons_cons_cons]

theorem stripQuotes_eq (text : List Char) : stripQuotes text = unclosed (unopened text) := by
  cases text with
  | nil => rfl
  | cons c rest =>
    rw [stripQuotes, unopened, dropClosingQuote_eq_unclosed, dropClosingQuote_eq_unclosed]
    exact (apply_ite unclosed _ _ _).symm

theorem length_unclosed_le (text : List Char) : (unclosed text).length ≤ text.length := by
  unfold unclosed
  split
  next => exact (List.dropLast_sublist text).length_le
  next =>
    split
    next final =>
      obtain ⟨front, rfl⟩ := List.getLast?_eq_some_iff.mp final.1
      rw [List.dropLast_concat, List.length_append, List.length_append, List.length_dropLast]
      omega
    next => exact Nat.le_refl _

theorem unopened_eq_self (stop : ∀ c ∈ text.head?, isQuote c = false) : unopened text = text := by
  rw [unopened, if_neg]
  intro quote
  obtain ⟨c, first, isQuote⟩ := (Option.any_eq_true _ _).mp quote
  rw [stop c first] at isQuote
  cases isQuote

/-- Only a text with a quote at neither end keeps its length. -/
theorem isUnquoted_of_length_le (kept : text.length ≤ (stripQuotes text).length) :
    IsUnquoted text := by
  rw [stripQuotes_eq] at kept
  have start : ∀ c ∈ text.head?, isQuote c = false := by
    intro c first
    rw [Bool.eq_false_iff]
    intro quote
    obtain ⟨rest, rfl⟩ := List.head?_eq_some_iff.mp first
    have shorter : unopened (c :: rest) = rest := by
      rw [unopened, List.head?_cons, Option.any_some, if_pos quote, List.tail_cons]
    have closed := length_unclosed_le rest
    rw [shorter, List.length_cons] at kept
    omega
  refine ⟨start, fun c last => ?_⟩
  rw [Bool.eq_false_iff]
  intro quote
  have nonempty : text ≠ [] := List.ne_nil_of_mem (List.mem_of_getLast? last)
  have positive := List.length_pos_iff.mpr nonempty
  rw [unopened_eq_self start, unclosed, Option.mem_def.mp last, Option.any_some, if_pos quote,
    List.length_dropLast] at kept
  omega

/-- A trimmed text without quotes at its ends has none that is taken off. -/
theorem stripQuotes_eq_self (unquoted : IsUnquoted text) (trimmed : IsTrimmed text) :
    stripQuotes text = text := by
  rw [stripQuotes_eq, unopened_eq_self unquoted.1, unclosed, if_neg, if_neg]
  · rintro ⟨final, -⟩
    exact absurd (trimmed.2 '\n' final) (by decide)
  · intro quote
    obtain ⟨c, last, isQuote⟩ := (Option.any_eq_true _ _).mp quote
    rw [unquoted.2 c last] at isQuote
    cases isQuote

/-! ### Trimming -/

theorem trim_isInfix (text : List Char) : trim text <:+: text := by
  obtain ⟨tail, parts⟩ := Text.exists_trim text
  exact ⟨text.takeWhile isBlank, tail, by rw [List.append_assoc, ← parts]⟩

theorem dropWhile_isBlank_eq_self (stop : ∀ c ∈ text.head?, isBlank c = false) :
    text.dropWhile isBlank = text := by
  cases text with
  | nil => rfl
  | cons c rest => exact List.dropWhile_cons_of_neg (by simp [stop c rfl])

theorem isTrimmed_trim (text : List Char) : IsTrimmed (trim text) := by
  constructor
  · intro c first
    obtain ⟨tail, parts⟩ := Text.exists_trim text
    have same : text.dropWhile isBlank = trim text ++ tail :=
      List.append_cancel_left (List.takeWhile_append_dropWhile.trans parts)
    apply stop_dropWhile isBlank text
    rw [same]
    exact List.mem_head?_append_of_mem_head? first
  · intro c last
    rw [trim, trimEnd, List.getLast?_reverse] at last
    exact stop_dropWhile isBlank _ c last

theorem trim_eq_self (trimmed : IsTrimmed text) : trim text = text := by
  have start : trimStart text = text := dropWhile_isBlank_eq_self trimmed.1
  have finish : text.reverse.dropWhile isBlank = text.reverse := by
    apply dropWhile_isBlank_eq_self
    rw [List.head?_reverse]
    exact trimmed.2
  rw [trim, start, trimEnd, finish, List.reverse_reverse]

/-! ### The whole -/

theorem normalize_eq (raw : List Char) :
    normalize raw = trim (collapsed (substitute entity? (stripQuotes raw))) := by
  rw [normalize, substitute_blankRun_wrappedLine]

theorem length_normalize_le (raw : List Char) :
    (normalize raw).length ≤ (stripQuotes raw).length := by
  rw [normalize_eq]
  calc _ ≤ _ := (trim_isInfix _).length_le
    _ ≤ _ := length_collapsed_le _
    _ ≤ _ := (decoded_substitute _).length_le

/-- What normalizing has to leave alone. -/
theorem normalize_eq_self (unquoted : IsUnquoted text) (trimmed : IsTrimmed text)
    (apart : BlanksApart text) (free : ¬HoldsEntity text) : normalize text = text := by
  rw [normalize_eq, stripQuotes_eq_self unquoted trimmed, substitute_entity_of_free free,
    apart.collapsed_eq_self, trim_eq_self trimmed]

/-- The plain text of a fragment is what is left of it, trimmed, when a quote has been taken off at
either end, each entity has given way to a space and white space is collapsed. Joining wrapped lines
on the way makes no difference. -/
theorem normalized_eq_iff (raw result : String) :
    (normalized raw = result ↔
      ∃ decoded, Decoded (unclosed (unopened raw.toList)) decoded ∧
        result = String.ofList (trim (collapsed decoded))) ∧
    normalized raw = String.ofList
      (trim (substitute blankRun? (substitute entity? (stripQuotes raw.toList)))) := by
  have whole : normalized raw =
      String.ofList (trim (collapsed (substitute entity? (stripQuotes raw.toList)))) := by
    rw [normalized, normalize_eq]
  rw [whole, substitute_blankRun]
  refine ⟨?_, rfl⟩
  constructor
  · rintro rfl
    exact ⟨_, decoded_substitute _, by rw [stripQuotes_eq]⟩
  · rintro ⟨decoded, isDecoded, rfl⟩
    rw [stripQuotes_eq, decoded_iff.mp isDecoded]

/-- A plain text is trimmed, has no two blanks side by side and no entity in it. It is its own plain
text unless there is a quote at one of its ends. -/
theorem normalized_normalized (raw : String) :
    let plain := normalized raw
    IsTrimmed plain.toList ∧ BlanksApart plain.toList ∧ ¬HoldsEntity plain.toList ∧
      (normalized plain = plain ↔ IsUnquoted plain.toList) := by
  intro plain
  have parts : plain.toList = normalize raw.toList := String.toList_ofList
  have inside := trim_isInfix (collapsed (substitute entity? (stripQuotes raw.toList)))
  have trimmed : IsTrimmed plain.toList := by
    rw [parts, normalize_eq]
    exact isTrimmed_trim _
  have apart : BlanksApart plain.toList := by
    rw [parts, normalize_eq]
    exact List.IsChain.infix (blanksApart_collapsed _) inside
  have free : ¬HoldsEntity plain.toList := by
    rw [parts, normalize_eq]
    intro holds
    exact not_holdsEntity_collapsed (decoded_substitute _).not_holdsEntity (holds.mono inside)
  refine ⟨trimmed, apart, free, fun same => ?_, fun unquoted => ?_⟩
  · have kept := length_normalize_le plain.toList
    rw [← String.toList_inj, normalized, String.toList_ofList] at same
    rw [same] at kept
    exact isUnquoted_of_length_le kept
  · rw [normalized, normalize_eq_self unquoted trimmed apart free, String.ofList_toList]

end MarkupLint.Normalize
