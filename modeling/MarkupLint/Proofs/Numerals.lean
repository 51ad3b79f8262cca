import Mathlib.Data.List.TakeDrop
import Mathlib.Tactic.Set
import MarkupLint.Config.Override

/-!
What looks like a number can be read as one. The digits of a numeral may be of any script, and
reading puts those of ASCII in their place (`figures`). Main statements: a text that looks whole
is refused for nothing but its length, and one that looks real is not refused at all.
-/
namespace MarkupLint.Number

open MarkupLint.Text

/-- The digits that reading puts for those of every script. -/
def figures : List Char := ['0', '1', '2', '3', '4', '5', '6', '7', '8', '9']

/-- What a numeral is made of once its digits are figures. -/
def numerals : List Char := '-' :: '+' :: '.' :: figures

theorem figures_facts (c : Char) (figure : c ∈ figures) :
    isAsciiDigit c = true ∧ isDigitBelow 10 c = true := by
  have all : (figures.all fun c => isAsciiDigit c && isDigitBelow 10 c) = true := by decide
  exact (Bool.and_eq_true _ _).mp (List.all_eq_true.mp all c figure)

theorem ne_sign_of_mem_figures {c : Char} (figure : c ∈ figures) : c ≠ '-' ∧ c ≠ '+' := by
  have all : (figures.all fun c => c != '-' && c != '+') = true := by decide
  have both := (Bool.and_eq_true _ _).mp (List.all_eq_true.mp all c figure)
  exact ⟨bne_iff_ne.mp both.1, bne_iff_ne.mp both.2⟩

theorem numerals_facts (c : Char) (inside : c ∈ numerals) : isSpace c = false ∧ c ≠ '_' := by
  have all : (numerals.all fun c => !isSpace c && c != '_') = true := by decide
  have both := (Bool.and_eq_true _ _).mp (List.all_eq_true.mp all c inside)
  exact ⟨(Bool.not_eq_true' _).mp both.1, bne_iff_ne.mp both.2⟩

theorem mem_numerals {c : Char} (figure : c ∈ figures) : c ∈ numerals :=
  .tail _ (.tail _ (.tail _ figure))

theorem asciiDigits_cons (c : Char) (rest : List Char) :
    asciiDigits (c :: rest) =
      (match digitValue? c with
        | some value => Char.ofNat (48 + value)
        | none => c) :: asciiDigits rest := rfl

theorem mem_figures_of_digitValue? {c : Char} {value : Nat} (found : digitValue? c = some value) :
    Char.ofNat (48 + value) ∈ figures := by
  obtain ⟨start, zero, rfl⟩ := Option.map_eq_some_iff.mp found
  have inside := List.find?_some zero
  rw [Bool.and_eq_true, decide_eq_true_eq, decide_eq_true_eq] at inside
  have each : ∀ v < 10, Char.ofNat (48 + v) ∈ figures := by decide
  exact each _ (by omega)

theorem mem_figures_of_asciiDigits {digits : List Char} (all : digits.all isDigit = true) :
    ∀ c ∈ asciiDigits digits, c ∈ figures := by
  intro c member
  obtain ⟨d, there, rfl⟩ := List.mem_map.mp member
  obtain ⟨value, found⟩ := Option.isSome_iff_exists.mp (List.all_eq_true.mp all d there)
  simp only [found]
  exact mem_figures_of_digitValue? found

/-- A sign is told before or after the digits are replaced. -/
theorem signOf_asciiDigits (text : List Char) :
    signOf (asciiDigits text) = ((signOf text).1, asciiDigits (signOf text).2) := by
  cases text with
  | nil => rfl
  | cons c rest =>
    by_cases minus : c = '-'
    · subst minus
      rfl
    by_cases plus : c = '+'
    · subst plus
      rfl
    have plain : ∀ (d : Char) (others : List Char), d ≠ '-' → d ≠ '+' →
        signOf (d :: others) = (false, d :: others) := by
      intro d others minus plus
      unfold signOf
      split <;> simp_all
    rw [plain c rest minus plus, asciiDigits_cons]
    cases found : digitValue? c with
    | none => exact plain _ _ minus plus
    | some value =>
      obtain ⟨minus, plus⟩ := ne_sign_of_mem_figures (mem_figures_of_digitValue? found)
      exact plain _ _ minus plus

theorem mem_numerals_of_signOf {text : List Char}
    (body : ∀ c ∈ (signOf (asciiDigits text)).2, c ∈ numerals) :
    ∀ c ∈ asciiDigits text, c ∈ numerals := by
  revert body
  generalize asciiDigits text = chars
  intro body c member
  unfold signOf at body
  split at body
  next rest =>
    rcases List.mem_cons.mp member with rfl | member
    · decide
    · exact body c member
  next rest =>
    rcases List.mem_cons.mp member with rfl | member
    · decide
    · exact body c member
  next => exact body c member

theorem dropWhile_isSpace {chars : List Char} (all : ∀ c ∈ chars, c ∈ numerals) :
    chars.dropWhile isSpace = chars := by
  cases chars with
  | nil => rfl
  | cons c rest =>
    have solid := (numerals_facts c (all c (.head rest))).1
    rw [List.dropWhile_cons_of_neg (by simp [solid])]

theorem trimSpace_eq_self {chars : List Char} (all : ∀ c ∈ chars, c ∈ numerals) :
    trimSpace chars = chars := by
  rw [trimSpace, dropWhile_isSpace all,
    dropWhile_isSpace fun c member => all c (List.mem_reverse.mp member), List.reverse_reverse]

/-! ### Whole numbers -/

theorem joinsDigits_of_forall_ne {chars : List Char} (plain : ∀ c ∈ chars, c ≠ '_') :
    joinsDigits chars = true := by
  induction chars with
  | nil => rfl
  | cons c rest ih =>
    obtain ⟨own, others⟩ := List.forall_mem_cons.mp plain
    unfold joinsDigits
    split <;> simp_all

theorem dropBaseMark_ten (chars : List Char) : dropBaseMark 10 chars = chars := by
  unfold dropBaseMark
  dsimp only
  split <;> rfl

/-- Only the length of a row of figures can be wrong. -/
theorem readInt_ne_malformed {text digits : List Char} {negative : Bool}
    (numeral : ∀ c ∈ asciiDigits text, c ∈ numerals)
    (signed : signOf (asciiDigits text) = (negative, digits)) (body : ∀ c ∈ digits, c ∈ figures)
    (nonempty : digits ≠ []) : readInt 10 text ≠ .error .malformed := by
  have plain : ∀ c ∈ digits, c ≠ '_' := fun c member =>
    (numerals_facts c (mem_numerals (body c member))).2
  have run : (digits.takeWhile fun c => c == '_' || isDigitBelow 10 c) = digits := by
    rw [← List.append_nil digits, List.takeWhile_append_of_pos, List.takeWhile_nil]
    intro c member
    rw [(figures_facts c (body c member)).2, Bool.or_true]
  have kept : digits.filter (· != '_') = digits := by
    rw [List.filter_eq_self]
    intro c member
    exact bne_iff_ne.mpr (plain c member)
  have first : digits.head? ≠ some '_' := fun found => plain _ (List.mem_of_mem_head? found) rfl
  unfold readInt
  rw [dropWhile_isSpace numeral, signed]
  dsimp only
  rw [dropBaseMark_ten, run, kept, joinsDigits_of_forall_ne plain]
  split
  next refused => simp [first] at refused
  next =>
    split
    next => simp
    next => simp [nonempty]

/-! ### Real numbers -/

theorem joinDigits?_of_forall_ne (before : Option Char) {chars : List Char}
    (plain : ∀ c ∈ chars, c ≠ '_') : joinDigits? before chars = some chars := by
  induction chars generalizing before with
  | nil => rfl
  | cons c rest ih =>
    obtain ⟨own, others⟩ := List.forall_mem_cons.mp plain
    rw [joinDigits?, if_neg own, ih _ others]
    rfl

theorem span_figures {digits rest : List Char} (all : ∀ c ∈ digits, c ∈ figures)
    (stops : ∀ c ∈ rest.head?, isAsciiDigit c = false) :
    (digits ++ rest).span isAsciiDigit = (digits, rest) := by
  have each : ∀ c ∈ digits, isAsciiDigit c = true := fun c member =>
    (figures_facts c (all c member)).1
  rw [List.span_eq_takeWhile_dropWhile, List.takeWhile_append_of_pos each,
    List.dropWhile_append_of_pos each]
  cases rest with
  | nil => simp
  | cons c others => simp [stops c rfl]

theorem unsignedDouble?_isSome (negative : Bool) {whole fraction : List Char}
    (before : ∀ c ∈ whole, c ∈ figures) (behind : ∀ c ∈ fraction, c ∈ figures)
    (nonempty : (whole.isEmpty && fraction.isEmpty) = false) :
    (unsignedDouble? negative (whole ++ '.' :: fraction)).isSome = true := by
  have point : (whole ++ '.' :: fraction).span isAsciiDigit = (whole, '.' :: fraction) :=
    span_figures before (by rintro c ⟨⟩; rfl)
  have last : fraction.span isAsciiDigit = (fraction, []) := by
    have digits : (fraction ++ []).span isAsciiDigit = (fraction, []) :=
      span_figures behind (by rintro c ⟨⟩)
    rwa [List.append_nil] at digits
  unfold unsignedDouble?
  simp only [point, last, nonempty, exponent?, Bool.false_eq_true, if_false, Option.map_some,
    Option.isSome_some]

theorem readDouble?_isSome {text whole fraction : List Char} {negative : Bool}
    (numeral : ∀ c ∈ asciiDigits text, c ∈ numerals)
    (signed : signOf (asciiDigits text) = (negative, whole ++ '.' :: fraction))
    (before : ∀ c ∈ whole, c ∈ figures) (behind : ∀ c ∈ fraction, c ∈ figures)
    (nonempty : (whole.isEmpty && fraction.isEmpty) = false) :
    (readDouble? text).isSome = true := by
  have plain : ∀ c ∈ asciiDigits text, c ≠ '_' := fun c member =>
    (numerals_facts c (numeral c member)).2
  rw [readDouble?, trimSpace_eq_self numeral, joinDigits?_of_forall_ne none plain, Option.bind_some,
    signed]
  dsimp only
  split
  next => rfl
  next =>
    split
    next => rfl
    next => exact unsignedDouble?_isSome negative before behind nonempty

end MarkupLint.Number

namespace MarkupLint.Override

open MarkupLint.Number MarkupLint.Text

theorem readInt_ne_malformed_of_looksWhole {text : List Char} (whole : looksWhole text = true) :
    readInt 10 text ≠ .error .malformed := by
  rw [looksWhole, Bool.and_eq_true, Bool.not_eq_true', List.isEmpty_eq_false_iff] at whole
  obtain ⟨nonempty, all⟩ := whole
  have body := mem_figures_of_asciiDigits all
  apply readInt_ne_malformed _ (signOf_asciiDigits text) body
  · simpa [asciiDigits] using nonempty
  · apply mem_numerals_of_signOf
    rw [signOf_asciiDigits]
    exact fun c member => mem_numerals (body c member)

theorem readDouble?_isSome_of_looksReal {text : List Char} (real : looksReal text = true) :
    (readDouble? text).isSome = true := by
  unfold looksReal at real
  rw [List.span_eq_takeWhile_dropWhile] at real
  dsimp only at real
  split at real
  next fraction behind =>
    rw [Bool.and_eq_true, Bool.not_eq_true'] at real
    obtain ⟨all, nonempty⟩ := real
    set whole := (signOf text).2.takeWhile isDigit
    have parts : (signOf text).2 = whole ++ '.' :: fraction := by
      rw [← behind, List.takeWhile_append_dropWhile]
    have split : asciiDigits (signOf text).2 =
        asciiDigits whole ++ '.' :: asciiDigits fraction := by
      rw [parts, asciiDigits, List.map_append]
      rfl
    have before : ∀ c ∈ asciiDigits whole, c ∈ figures :=
      mem_figures_of_asciiDigits List.all_takeWhile
    have after := mem_figures_of_asciiDigits all
    have signed := signOf_asciiDigits text
    rw [split] at signed
    apply readDouble?_isSome _ signed before after
    · simpa [asciiDigits] using nonempty
    · apply mem_numerals_of_signOf
      rw [signed]
      intro c member
      rcases List.mem_append.mp member with inside | member
      · exact mem_numerals (before c inside)
      · rcases List.mem_cons.mp member with rfl | inside
        · decide
        · exact mem_numerals (after c inside)
  next => cases real

end MarkupLint.Override
