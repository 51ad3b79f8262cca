import Mathlib.Data.List.Infix
import Mathlib.Data.List.TakeWhile
import MarkupLint.Markup.Segment
import MarkupLint.Proofs.StackRun

/-!
Which runs are pieces of mixed content. The scan of the siblings' texts finds just what
`Fragment.IsMarkup` lists (`Fragment.isMixed_iff`), whichever text it stands in. Every expression
with something in its braces brings such a piece, and so does every element that closes itself, is
a fragment, or has a name that begins with an ASCII letter (`Fragment.IsElement.holdsMarkup`). A
pair of tags with another name brings none. Main statement: `Visit.isFragment_of_markup`.
-/
namespace MarkupLint

namespace Fragment

open Text

/-- What counts as markup: a less-than sign with an ASCII letter after it, braces with something
between them, and a slash and a greater-than sign with at most white space between them. -/
inductive IsMarkup : List Char → Prop
  | tag {c : Char} (letter : isAsciiLetter c = true) : IsMarkup ['<', c]
  | braces {inner : List Char} (filled : inner ≠ []) (first : '\x7d' ∉ inner) :
      IsMarkup ('\x7b' :: (inner ++ ['\x7d']))
  | ending {blanks : List Char} (blank : ∀ c ∈ blanks, isBlank c = true) :
      IsMarkup ('/' :: (blanks ++ ['>']))

def HoldsMarkup (content : List Char) : Prop :=
  ∃ piece, IsMarkup piece ∧ piece <:+: content

/-- Whether markup starts at a character, by what comes after it. -/
def startsMarkup (c : Char) (rest : List Char) : Bool :=
  (c == '<' && rest.head?.any isAsciiLetter) ||
    (c == '\x7b' && rest.head?.any (· != '\x7d') && rest.contains '\x7d') ||
    (c == '/' && (trimStart rest).head? == some '>')

/-- White space and comments, none of them up to the end of its line. -/
inductive IsGap : List Char → Prop
  | nil : IsGap []
  | blank {c : Char} {gap : List Char} (blank : isBlank c = true) (more : IsGap gap) :
      IsGap (c :: gap)
  | comment (text : List Char) {gap : List Char} (more : IsGap gap) :
      IsGap ('/' :: '*' :: (text ++ '*' :: '/' :: gap))

/-- The ways an element is written: an opening tag and a closing tag, a tag that closes itself, and
a fragment. Attributes and what stands inside are left open; the first character of the name of a
pair of tags is one that `starts`. -/
inductive IsElement (starts : Char → Prop) : List Char → Prop
  | paired {first : Char} (begins : starts first) (name attributes inside gap : List Char) :
      IsElement starts ('<' :: first :: (name ++ attributes ++ '>' ::
        (inside ++ '<' :: '/' :: first :: (name ++ gap ++ ['>']))))
  | selfClosing (name attributes : List Char) {gap : List Char} (ends : IsGap gap) :
      IsElement starts ('<' :: (name ++ attributes ++ '/' :: (gap ++ ['>'])))
  | fragment (inside : List Char) {opening closing gap : List Char} (opens : IsGap opening)
      (closes : IsGap closing) (ends : IsGap gap) :
      IsElement starts ('<' :: (opening ++ '>' ::
        (inside ++ '<' :: (closing ++ '/' :: (gap ++ ['>'])))))

/-- Braces around something that does not begin with the closing one. -/
def IsBraced (text : List Char) : Prop :=
  ∃ first inner, first ≠ '\x7d' ∧ text = '\x7b' :: first :: (inner ++ ['\x7d'])

/-- No less-than sign, no opening brace and no slash. -/
def IsPlain (text : List Char) : Prop :=
  ∀ c ∈ text, c ≠ '<' ∧ c ≠ '\x7b' ∧ c ≠ '/'

/-- A pair of tags around plain text, the name being plain and beginning with a character other
than an ASCII letter. -/
def IsOverlooked (text : List Char) : Prop :=
  ∃ first name inside, isAsciiLetter first = false ∧ isBlank first = false ∧ first ≠ '>' ∧
    IsPlain (first :: name) ∧ IsPlain inside ∧
    text = '<' :: first :: (name ++ '>' :: (inside ++ '<' :: '/' :: first :: (name ++ ['>'])))

variable {text content rest gap : List Char} {c : Char} {starts : Char → Prop}

/-! ### What the scan finds -/

theorem hasOpeningTag_cons (c : Char) (rest : List Char) :
    hasOpeningTag (c :: rest) =
      ((c == '<' && rest.head?.any isAsciiLetter) || hasOpeningTag rest) := by
  by_cases opens : c = '<'
  · subst opens
    cases rest with
    | nil => rfl
    | cons d rest => rw [hasOpeningTag]; rfl
  · rw [beq_eq_false_iff_ne.mpr opens, Bool.false_and, Bool.false_or, hasOpeningTag]
    rintro d rest same
    exact absurd same opens

theorem isMixed_cons (c : Char) (rest : List Char) :
    isMixed (c :: rest) = (startsMarkup c rest || isMixed rest) := by
  rw [isMixed, isMixed, startsMarkup, hasOpeningTag_cons, hasExpression, hasSelfClosing]
  ac_rfl

theorem startsMarkup_of_isMarkup {piece : List Char} (markup : IsMarkup piece)
    (stands : piece <+: c :: rest) : startsMarkup c rest = true := by
  obtain ⟨behind, split⟩ := stands
  cases markup with
  | tag letter =>
    obtain ⟨rfl, rfl⟩ := List.cons.inj split
    simp [startsMarkup, letter]
  | @braces inner filled first =>
    obtain ⟨rfl, rfl⟩ := List.cons.inj split
    obtain ⟨d, inner, rfl⟩ := List.exists_cons_of_ne_nil filled
    have other : d ≠ '\x7d' := fun same => first (same ▸ .head _)
    simp [startsMarkup, other]
  | @ending blanks blank =>
    obtain ⟨rfl, rfl⟩ := List.cons.inj split
    have stop : trimStart (blanks ++ '>' :: behind) = '>' :: behind := by
      rw [trimStart, List.dropWhile_append_of_pos blank]
      exact List.dropWhile_cons_of_neg (by decide)
    simp [startsMarkup, stop]

theorem exists_prefix_of_startsMarkup (starts : startsMarkup c rest = true) :
    ∃ piece, IsMarkup piece ∧ piece <+: c :: rest := by
  simp only [startsMarkup, Bool.or_eq_true, Bool.and_eq_true, beq_iff_eq] at starts
  rcases starts with (⟨rfl, next⟩ | ⟨⟨rfl, next⟩, closed⟩) | ⟨rfl, next⟩
  · obtain ⟨d, first, letter⟩ := (Option.any_eq_true _ _).mp next
    obtain ⟨behind, rfl⟩ := List.head?_eq_some_iff.mp first
    exact ⟨_, .tag letter, behind, rfl⟩
  · obtain ⟨d, first, other⟩ := (Option.any_eq_true _ _).mp next
    obtain ⟨inner, behind, rfl, absent⟩ :=
      List.eq_append_cons_of_mem (List.contains_iff_mem.mp closed)
    refine ⟨_, .braces ?_ absent, behind, by simp⟩
    rintro rfl
    rw [List.nil_append, List.head?_cons, Option.some_inj] at first
    simp [← first] at other
  · obtain ⟨behind, trimmed⟩ := List.head?_eq_some_iff.mp next
    have blank : ∀ c ∈ rest.takeWhile isBlank, isBlank c = true :=
      fun c => List.mem_takeWhile_imp
    refine ⟨_, .ending blank, behind, ?_⟩
    rw [List.cons_append, List.append_assoc, List.singleton_append, ← trimmed, trimStart,
      List.takeWhile_append_dropWhile]

/-- Content is mixed if markup stands somewhere in it. -/
theorem isMixed_iff (content : List Char) : isMixed content = true ↔ HoldsMarkup content := by
  induction content with
  | nil =>
    refine iff_of_false Bool.false_ne_true ?_
    rintro ⟨piece, markup, inside⟩
    cases List.infix_nil.mp inside
    cases markup
  | cons c rest ih =>
    rw [isMixed_cons, Bool.or_eq_true, ih]
    constructor
    · rintro (starts | ⟨piece, markup, inside⟩)
      · obtain ⟨piece, markup, stands⟩ := exists_prefix_of_startsMarkup starts
        exact ⟨piece, markup, stands.isInfix⟩
      · exact ⟨piece, markup, inside.trans (List.suffix_cons c rest).isInfix⟩
    · rintro ⟨piece, markup, inside⟩
      rcases List.infix_cons_iff.mp inside with stands | further
      · exact .inl (startsMarkup_of_isMarkup markup stands)
      · exact .inr ⟨piece, markup, further⟩

theorem HoldsMarkup.mono (holds : HoldsMarkup text) (inside : text <:+: content) :
    HoldsMarkup content := by
  obtain ⟨piece, markup, within⟩ := holds
  exact ⟨piece, markup, within.trans inside⟩

/-! ### Siblings that bring markup -/

/-- Before the end of a tag comments do no harm: the last one ends with a slash itself. -/
theorem IsGap.holdsMarkup (isGap : IsGap gap) : HoldsMarkup ('/' :: (gap ++ ['>'])) := by
  suffices behind : ∀ blanks : List Char, (∀ c ∈ blanks, isBlank c = true) →
      HoldsMarkup ('/' :: (blanks ++ (gap ++ ['>']))) from behind [] nofun
  induction isGap with
  | nil => exact fun blanks blank => ⟨_, .ending blank, List.infix_rfl⟩
  | @blank c gap isBlank more ih =>
    intro blanks blank
    have further := ih (blanks ++ [c])
      (List.forall_mem_append.mpr ⟨blank, List.forall_mem_singleton.mpr isBlank⟩)
    rw [List.append_assoc] at further
    exact further
  | @comment text gap more ih =>
    intro blanks blank
    refine (ih [] nofun).mono ⟨'/' :: (blanks ++ '/' :: '*' :: (text ++ ['*'])), [], ?_⟩
    simp

theorem IsElement.holdsMarkup (element : IsElement (isAsciiLetter · = true) text) :
    HoldsMarkup text := by
  cases element with
  | paired letter name attributes inside gap => exact ⟨_, .tag letter, [], _, rfl⟩
  | selfClosing name attributes ends =>
    refine ends.holdsMarkup.mono ⟨'<' :: (name ++ attributes), [], ?_⟩
    simp
  | @fragment inside opening closing gap opens closes ends =>
    refine ends.holdsMarkup.mono ⟨'<' :: (opening ++ '>' :: (inside ++ '<' :: closing)), [], ?_⟩
    simp

theorem IsBraced.holdsMarkup (braced : IsBraced text) : HoldsMarkup text := by
  obtain ⟨first, inner, other, rfl⟩ := braced
  have starts : startsMarkup '\x7b' (first :: (inner ++ ['\x7d'])) = true := by
    simp [startsMarkup, other]
  obtain ⟨piece, markup, stands⟩ := exists_prefix_of_startsMarkup starts
  exact ⟨piece, markup, stands.isInfix⟩

/-! ### Siblings that bring none -/

theorem isMixed_append_of_plain (plain : IsPlain text) (rest : List Char) :
    isMixed (text ++ rest) = isMixed rest := by
  induction text with
  | nil => rfl
  | cons c text ih =>
    obtain ⟨⟨noTag, noBrace, noSlash⟩, others⟩ := List.forall_mem_cons.mp plain
    have quiet : startsMarkup c (text ++ rest) = false := by
      simp [startsMarkup, noTag, noBrace, noSlash]
    rw [List.cons_append, isMixed_cons, quiet, Bool.false_or, ih others]

theorem isMixed_append_of_overlooked (overlooked : IsOverlooked text) (rest : List Char) :
    isMixed (text ++ rest) = isMixed rest := by
  obtain ⟨first, name, inside, noLetter, noBlank, noEnd, plainName, plain, rfl⟩ := overlooked
  have named (more : List Char) : isMixed (first :: (name ++ '>' :: more)) = isMixed more := by
    have close : IsPlain ['>'] := List.forall_mem_singleton.mpr (by decide)
    calc isMixed (first :: (name ++ '>' :: more))
        = isMixed ('>' :: more) := isMixed_append_of_plain plainName ('>' :: more)
      _ = isMixed more := isMixed_append_of_plain close more
  have opening (more : List Char) : startsMarkup '<' (first :: more) = false := by
    simp [startsMarkup, noLetter]
  have turning (more : List Char) : startsMarkup '<' ('/' :: more) = false := by
    have noLetter : isAsciiLetter '/' = false := by decide
    simp [startsMarkup, noLetter]
  have closing (more : List Char) : startsMarkup '/' (first :: more) = false := by
    simp [startsMarkup, trimStart, noBlank, noEnd]
  simp only [List.cons_append, List.append_assoc, List.nil_append]
  rw [isMixed_cons, opening, Bool.false_or, named, isMixed_append_of_plain plain, isMixed_cons,
    turning, Bool.false_or, isMixed_cons, closing, Bool.false_or, named]

end Fragment

open Fragment

/-- Whether an info is of an element, in one of the ways elements are written, or of an expression
with something between its braces. -/
def Info.BringsMarkup (starts : Char → Prop) (info : Info) : Prop :=
  (info.kind = .element ∧ IsElement starts info.text.toList) ∨
    (info.kind = .expression ∧ IsBraced info.text.toList)

theorem inlineContent_cons (info : Info) (rest : List Info) :
    inlineContent (info :: rest) =
      if info.kind.isInline then info.text.toList ++ inlineContent rest
      else inlineContent rest := by
  rw [inlineContent, List.filter_cons]
  split <;> rfl

theorem text_isInfix_inlineContent {infos : List Info} {info : Info} (member : info ∈ infos)
    (inline : info.kind.isInline = true) : info.text.toList <:+: inlineContent infos := by
  induction infos with
  | nil => cases member
  | cons other rest ih =>
    rw [inlineContent_cons]
    rcases List.mem_cons.mp member with rfl | later
    · rw [if_pos inline]
      exact (List.prefix_append _ _).isInfix
    · split
      next => exact (ih later).trans (List.suffix_append _ _).isInfix
      next => exact ih later

/-- Whatever stands around it, markup that a sibling brings is found. -/
theorem Info.BringsMarkup.isMixed {infos : List Info} {info : Info}
    (brings : info.BringsMarkup (Text.isAsciiLetter · = true)) (member : info ∈ infos) :
    Fragment.isMixed (inlineContent infos) = true := by
  rw [isMixed_iff]
  rcases brings with ⟨kind, element⟩ | ⟨kind, braced⟩
  · exact element.holdsMarkup.mono (text_isInfix_inlineContent member (by rw [kind]; rfl))
  · exact braced.holdsMarkup.mono (text_isInfix_inlineContent member (by rw [kind]; rfl))

theorem isMixed_inlineContent_of_quiet {infos : List Info}
    (quiet : ∀ info ∈ infos, info.kind.isInline = true →
      IsPlain info.text.toList ∨ IsOverlooked info.text.toList) :
    Fragment.isMixed (inlineContent infos) = false := by
  induction infos with
  | nil => rfl
  | cons info rest ih =>
    obtain ⟨own, others⟩ := List.forall_mem_cons.mp quiet
    rw [inlineContent_cons]
    split
    next inline =>
      rcases own inline with plain | overlooked
      · rw [isMixed_append_of_plain plain, ih others]
      · rw [isMixed_append_of_overlooked overlooked, ih others]
    next => exact ih others

namespace Visit

theorem isFragment_eq_isMixed {visit : Visit} (run : visit.info.kind = .textRun) :
    visit.isFragment = isMixed (inlineContent (visit.siblings.map Node.info)) := by
  rw [isFragment, run]
  rfl

/-- A piece of mixed content gives no segment, in a region or not. -/
theorem segment_step_of_isFragment {visit : Visit} (run : visit.info.kind = .textRun)
    (isFragment : visit.isFragment = true) (e : Extraction) (region : Region) :
    (e.step region visit).segment = none := by
  have nothing : e.segment? visit = none := by
    rw [Extraction.segment?, run]
    simp [Extraction.ofTextRun, isFragment]
  rw [Extraction.step, nothing]
  exact ite_self none

/-- A run is a piece of mixed content if markup stands anywhere in the content of its parent, and
then it is never extracted. An expression with something in its braces brings markup; so does an
element that closes itself, is a fragment or has a name that begins with an ASCII letter. Elements
with other names, plain text around them and plain text inside, go unnoticed. -/
theorem isFragment_of_markup (visit : Visit) (run : visit.info.kind = .textRun) :
    (visit.isFragment = true ↔ HoldsMarkup (inlineContent (visit.siblings.map Node.info))) ∧
    (∀ sibling ∈ visit.siblings,
      sibling.info.BringsMarkup (Text.isAsciiLetter · = true) →
        visit.isFragment = true ∧
          ∀ (e : Extraction) (region : Region), (e.step region visit).segment = none) ∧
    ((∀ sibling ∈ visit.siblings, sibling.info.kind.isInline = true →
        IsPlain sibling.info.text.toList ∨ IsOverlooked sibling.info.text.toList) →
      visit.isFragment = false) := by
  rw [isFragment_eq_isMixed run]
  refine ⟨isMixed_iff _, fun sibling member brings => ?_, fun quiet => ?_⟩
  · have mixed := brings.isMixed (List.mem_map_of_mem member)
    have isFragment := (isFragment_eq_isMixed run).trans mixed
    exact ⟨mixed, segment_step_of_isFragment run isFragment⟩
  · exact isMixed_inlineContent_of_quiet (List.forall_mem_map.mpr quiet)

/-- Next to a tag that closes itself, comments in it and all. -/
theorem isFragment_of_markup_self_closing :
    let run : Node := .mk { kind := .textRun, text := "Line one" } []
    let tag : Node := .mk { kind := .element, text := "<_br / /* end */ >" } []
    let visit : Visit := ⟨run, [], [run, tag]⟩
    visit.info.kind = .textRun ∧ tag ∈ visit.siblings ∧
      tag.info.BringsMarkup (Text.isAsciiLetter · = true) ∧ visit.isFragment = true ∧
      (Extraction.step {} none visit).segment = none := by
  intro run tag visit
  have kind : visit.info.kind = .textRun := rfl
  have member : tag ∈ visit.siblings := .tail _ (.head _)
  have gap : IsGap " /* end */ ".toList :=
    .blank (by decide) (.comment " end ".toList (.blank (by decide) .nil))
  have parts : tag.info.text.toList =
      '<' :: ("_br ".toList ++ [] ++ '/' :: (" /* end */ ".toList ++ ['>'])) := by decide
  have brings : tag.info.BringsMarkup (Text.isAsciiLetter · = true) :=
    .inl ⟨rfl, parts ▸ .selfClosing "_br ".toList [] gap⟩
  obtain ⟨isFragment, silent⟩ := (visit.isFragment_of_markup kind).2.1 tag member brings
  exact ⟨kind, member, brings, isFragment, silent {} none⟩

/-- Around an element whose name begins with an underscore runs are taken for whole sentences. -/
theorem isFragment_eq_false_of_underscore :
    let source : Source :=
      ⟨"App.tsx", Utf8.encode "const a = <p>Read <_Link>docs</_Link> first.</p>;\n"⟩
    let name (start stop : Nat) : SourceNode := .mk "identifier" ⟨start, stop, 0⟩ []
    let run (start stop : Nat) : SourceNode := .mk "jsx_text" ⟨start, stop, 0⟩ []
    let link : SourceNode :=
      .mk "jsx_element" ⟨18, 37, 0⟩
        [.mk "jsx_opening_element" ⟨18, 25, 0⟩ [name 19 24], run 25 29,
          .mk "jsx_closing_element" ⟨29, 37, 0⟩ [name 31 36]]
    let paragraph : SourceNode :=
      .mk "jsx_element" ⟨10, 48, 0⟩
        [.mk "jsx_opening_element" ⟨10, 13, 0⟩ [name 11 12], run 13 18, link, run 37 44,
          .mk "jsx_closing_element" ⟨44, 48, 0⟩ [name 46 47]]
    let root : SourceNode :=
      .mk "program" ⟨0, 50, 0⟩
        [.mk "lexical_declaration" ⟨0, 49, 0⟩
          [.mk "variable_declarator" ⟨6, 48, 0⟩ [name 6 7, paragraph]]]
    ∃ document, (Parser.parse {} source (.tree root)).2.value = .ok document ∧
      (∃ visit ∈ document.visits, visit.info.kind = .textRun ∧
        (∃ sibling ∈ visit.siblings, sibling.info.BringsMarkup fun c =>
          Text.isAsciiLetter c = true ∨ c = '_' ∨ c = '$') ∧
        visit.isFragment = false) ∧
      document.segments {} =
        [⟨"Read", 1, .textRun⟩, ⟨"docs", 1, .textRun⟩, ⟨"first.", 1, .textRun⟩] := by
  intro source name run link paragraph root
  refine ⟨_, Parser.value_parse_tree {} source root, ?_, by decide +kernel⟩
  rw [Document.visits_eq_descendants]
  let visit := (descendants (source.document root).root).get ⟨6, by decide +kernel⟩
  let sibling := visit.siblings.get ⟨2, by decide +kernel⟩
  have text : sibling.info.text = "<_Link>docs</_Link>" := by decide +kernel
  have element : IsElement (fun c => Text.isAsciiLetter c = true ∨ c = '_' ∨ c = '$')
      "<_Link>docs</_Link>".toList :=
    .paired (.inr (.inl rfl)) "Link".toList [] "docs".toList []
  refine ⟨visit, List.get_mem _ _, by decide +kernel, ⟨sibling, List.get_mem _ _, ?_⟩,
    by decide +kernel⟩
  exact .inl ⟨by decide +kernel, text ▸ element⟩

end Visit

end MarkupLint
