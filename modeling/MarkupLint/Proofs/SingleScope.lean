import MarkupLint.Proofs.Attachment
import MarkupLint.Proofs.StackRun

/-!
What the single marker excludes. The comments right before a node, blank runs between them
left out, can be read off its siblings (`Visit.commentsBefore`); conversion attaches just
these (`Visit.leading_of_ledBy`), and the nearest sibling that is looked at besides is the
last of them (`Visit.precedingComment?_eq_getLast?`). Going the other way, a comment leads up
to one node at most, the next that is neither blank nor a comment (`Visit.target?`).
-/
namespace MarkupLint

/-- Siblings between a comment and the node that it leads up to: comments and blank runs. -/
def Info.isPassed (info : Info) : Bool :=
  info.isBlankRun || info.kind == .comment

namespace Visit

/-- The siblings before a place, nearest first, each where it stands. -/
def upTo (siblings : List Node) : List Node → List Visit
  | [] => []
  | node :: before => ⟨node, before, siblings⟩ :: upTo siblings before

/-- The block of comments right before a node, in document order; blank runs between them are
left out. -/
def commentsBefore (visit : Visit) : List Visit :=
  (((upTo visit.siblings visit.before).takeWhile (·.info.isPassed)).filter
    (·.info.kind == .comment)).reverse

/-- The next sibling after a comment that is neither blank nor a comment. -/
def target? (comment : Visit) : Option Visit :=
  (row comment.siblings (comment.node :: comment.before)
    (comment.siblings.drop (comment.before.length + 1))).find? (!·.info.isPassed)

section Before

variable {node : Node} (following : Node) (before siblings : List Node)

theorem commentsBefore_blank (blank : node.info.isBlankRun = true) :
    commentsBefore ⟨following, node :: before, siblings⟩ =
      commentsBefore ⟨node, before, siblings⟩ := by
  have noComment : (node.info.kind == .comment) = false := by
    rw [Info.isBlankRun, Bool.and_eq_true, beq_iff_eq] at blank
    rw [blank.1]
    rfl
  simp [commentsBefore, upTo, info, Info.isPassed, blank, noComment]

theorem commentsBefore_comment (comment : node.info.kind = .comment) :
    commentsBefore ⟨following, node :: before, siblings⟩ =
      commentsBefore ⟨node, before, siblings⟩ ++ [⟨node, before, siblings⟩] := by
  simp [commentsBefore, upTo, info, Info.isPassed, comment]

theorem commentsBefore_other (other : node.info.isPassed = false) :
    commentsBefore ⟨following, node :: before, siblings⟩ = [] := by
  simp [commentsBefore, upTo, info, other]

end Before

/-- What leads up to the next sibling is the block of comments before it. -/
theorem leadingAfter_commentsBefore (node following : Node) (before siblings : List Node) :
    Source.leadingAfter ((commentsBefore ⟨node, before, siblings⟩).map (·.info.text)) node.info =
      (commentsBefore ⟨following, node :: before, siblings⟩).map (·.info.text) := by
  unfold Source.leadingAfter
  split
  next blank => rw [commentsBefore_blank following before siblings blank]
  next filled =>
    split
    next comment =>
      rw [commentsBefore_comment following before siblings comment, List.map_append]
      rfl
    next other =>
      have notPassed : node.info.isPassed = false := by simp [Info.isPassed, filled, other]
      rw [commentsBefore_other following before siblings notPassed]
      rfl

/-- Over siblings that are led, each that is not blank carries the block of comments before
it. -/
theorem leading_of_ledBy {siblings before nodes : List Node} {comments : List String}
    (carried : ∀ node, comments = (commentsBefore ⟨node, before, siblings⟩).map (·.info.text))
    (led : Node.LedBy comments nodes) :
    ∀ visit ∈ row siblings before nodes, visit.info.isBlankRun = false →
      visit.info.leading = visit.commentsBefore.map (·.info.text) := by
  induction nodes generalizing before comments with
  | nil =>
    intro visit member
    cases member
  | cons node rest ih =>
    obtain ⟨own, ledRest⟩ := led
    intro visit member filled
    rcases List.mem_cons.mp member with rfl | later
    · have leading : node.info.leading = comments := by
        rw [own, if_neg (by simpa [info] using filled)]
      exact leading.trans (carried node)
    · refine ih ?_ ledRest visit later filled
      intro following
      rw [carried node]
      exact leadingAfter_commentsBefore node following before siblings

/-- The sibling that is looked at besides what is attached is the last comment of the block. -/
theorem precedingComment?_eq_getLast? (visit : Visit) :
    visit.precedingComment? = visit.commentsBefore.getLast?.map info := by
  obtain ⟨node, before, siblings⟩ := visit
  induction before generalizing node with
  | nil => rfl
  | cons nearest before ih =>
    cases blank : nearest.info.isBlankRun with
    | true =>
      rw [commentsBefore_blank node before siblings blank, ← ih nearest]
      simp [precedingComment?, blank]
    | false =>
      by_cases comment : nearest.info.kind = .comment
      · rw [commentsBefore_comment node before siblings comment, List.getLast?_concat]
        simp [precedingComment?, blank, comment, info]
      · rw [commentsBefore_other node before siblings (by simp [Info.isPassed, blank, comment])]
        simp [precedingComment?, blank, comment]

/-- Attached or not, only a comment of the block before it can exclude a node. -/
theorem exists_single_of_precedingComment? {d : Directives} {visit : Visit}
    (single : (visit.precedingComment?.any fun comment => d.isSingle comment.text) = true) :
    ∃ comment ∈ visit.commentsBefore, d.isSingle comment.info.text = true := by
  rw [precedingComment?_eq_getLast?, Option.any_map] at single
  cases last : visit.commentsBefore.getLast? with
  | none => simp [last] at single
  | some comment =>
    rw [last] at single
    exact ⟨comment, List.mem_of_getLast? last, single⟩

theorem isExcluded_iff_of_leading (d : Directives) {visit : Visit}
    (leading : visit.info.leading = visit.commentsBefore.map (·.info.text)) :
    visit.isExcluded d = true ↔
      ∃ comment ∈ visit.commentsBefore, d.isSingle comment.info.text = true := by
  unfold isExcluded
  rw [leading, Bool.or_eq_true, List.any_map, List.any_eq_true]
  exact or_iff_left_of_imp exists_single_of_precedingComment?

/-- From any comment of the block before a place, the search for what it leads up to arrives
at that place. -/
theorem find?_row_of_mem_block {siblings before rest : List Node}
    (whole : siblings = before.reverse ++ rest) :
    ∀ comment ∈ ((upTo siblings before).takeWhile (·.info.isPassed)),
      comment.target? = (row siblings before rest).find? (!·.info.isPassed) := by
  induction before generalizing rest with
  | nil =>
    intro comment member
    cases member
  | cons nearest before ih =>
    have wholeFrom : siblings = before.reverse ++ nearest :: rest := by
      rw [whole, List.reverse_cons, List.append_assoc, List.singleton_append]
    intro comment member
    rw [upTo, List.takeWhile_cons] at member
    split at member
    next passed =>
      -- the search starts right after this sibling, or passes it over
      rcases List.mem_cons.mp member with rfl | earlier
      · have after : siblings.drop (before.length + 1) = rest := by
          rw [wholeFrom, ← List.length_reverse, List.drop_append, List.drop_of_length_le (by omega)]
          simp
        rw [target?, after]
      · rw [ih wholeFrom comment earlier, row, List.find?_cons_of_neg]
        simpa using passed
    next => cases member

theorem split_of_mem_row {siblings before nodes : List Node}
    (whole : siblings = before.reverse ++ nodes) :
    ∀ visit ∈ row siblings before nodes, visit.siblings = siblings ∧
      ∃ rest, siblings = visit.before.reverse ++ visit.node :: rest := by
  induction nodes generalizing before with
  | nil =>
    intro visit member
    cases member
  | cons node rest ih =>
    intro visit member
    rcases List.mem_cons.mp member with rfl | later
    · exact ⟨rfl, rest, whole⟩
    · refine ih ?_ visit later
      rw [whole, List.reverse_cons, List.append_assoc, List.singleton_append]

/-- A child stands between the siblings before it and those after it. -/
theorem split_of_mem_ofChildren {parent : Node} {visit : Visit}
    (member : visit ∈ ofChildren parent) : visit.siblings = parent.children ∧
      ∃ rest, parent.children = visit.before.reverse ++ visit.node :: rest :=
  split_of_mem_row (List.nil_append parent.children).symm visit member

/-- A comment of the block before a node leads up to that node, if this is no comment. -/
theorem target?_of_mem_commentsBefore {parent : Node} {visit : Visit}
    (member : visit ∈ ofChildren parent) (reached : visit.info.isPassed = false) :
    ∀ comment ∈ visit.commentsBefore, comment.target? = some visit := by
  obtain ⟨same, rest, whole⟩ := split_of_mem_ofChildren member
  intro comment inBlock
  have passed := (List.mem_filter.mp (List.mem_reverse.mp inBlock)).1
  rw [same] at passed
  have found := find?_row_of_mem_block whole comment passed
  rw [found, row, List.find?_cons_of_pos]
  · rw [← same]
  · simpa [info] using reached

end Visit

/-- In a parsed document the comments attached to a node are those of the block right before
it, and the node is excluded just if one of these has the single marker, unless it stands
below an attribute. Everywhere a comment excludes at most one attribute or run: the next
sibling that is neither blank nor a comment. -/
theorem Parser.isExcluded_iff_commentsBefore (parser : Parser) (source : Source)
    (root : SourceNode) (d : Directives) :
    ∃ document, (parser.parse source (.tree root)).2.value = .ok document ∧
      ∀ parent ∈ document.root.nodes, ∀ visit ∈ Visit.ofChildren parent,
        visit.info.isBlankRun = false →
        (parent.info.kind ≠ .attribute →
          visit.info.leading = visit.commentsBefore.map (·.info.text) ∧
          (visit.isExcluded d = true ↔
            ∃ comment ∈ visit.commentsBefore, d.isSingle comment.info.text = true)) ∧
        (visit.info.kind ≠ .comment →
          (visit.isExcluded d = true →
            ∃ comment ∈ visit.commentsBefore, d.isSingle comment.info.text = true) ∧
          ∀ comment ∈ visit.commentsBefore, comment.target? = some visit) := by
  refine ⟨source.document root, parser.value_parse_tree source root, ?_⟩
  intro parent below visit member filled
  have attached := source.attached_document root parent below
  have leading (noAttribute : parent.info.kind ≠ .attribute) :
      visit.info.leading = visit.commentsBefore.map (·.info.text) :=
    Visit.leading_of_ledBy (fun _ => rfl) (attached.led noAttribute) visit member filled
  refine ⟨fun noAttribute => ⟨leading noAttribute, ?_⟩, fun noComment => ⟨?_, ?_⟩⟩
  · exact Visit.isExcluded_iff_of_leading d (leading noAttribute)
  · by_cases isAttribute : parent.info.kind = .attribute
    · intro excluded
      have child : visit.node ∈ parent.children := by
        obtain ⟨-, rest, whole⟩ := Visit.split_of_mem_ofChildren member
        simp [whole]
      have bare : visit.info.leading = [] := attached.bare isAttribute _ child
      rw [Visit.isExcluded, bare, List.any_nil, Bool.false_or] at excluded
      exact Visit.exists_single_of_precedingComment? excluded
    · exact (Visit.isExcluded_iff_of_leading d (leading isAttribute)).mp
  · apply Visit.target?_of_mem_commentsBefore member
    simp [Info.isPassed, filled, noComment]

/-- Two attributes of a tag, the single marker before the first. -/
theorem Parser.isExcluded_iff_commentsBefore_first_attribute :
    let source : Source :=
      ⟨"a.tsx", Utf8.encode "<img /* @text-lint ignore */ alt=\"a\" title=\"b\" />"⟩
    let written (start name stop : Nat) : SourceNode :=
      .mk "jsx_attribute" ⟨start, stop, 0⟩
        [.mk "property_identifier" ⟨start, name, 0⟩ [], .mk "string" ⟨name + 1, stop, 0⟩ []]
    let root : SourceNode :=
      .mk "program" ⟨0, 49, 0⟩
        [.mk "jsx_self_closing_element" ⟨0, 49, 0⟩
          [.mk "comment" ⟨5, 28, 0⟩ [], written 29 32 36, written 37 42 46]]
    ∃ document, (Parser.parse {} source (.tree root)).2.value = .ok document ∧
      ∃ parent ∈ document.root.nodes, ∃ first ∈ Visit.ofChildren parent,
        ∃ second ∈ Visit.ofChildren parent,
          parent.info.kind ≠ .attribute ∧ first.info.isBlankRun = false ∧
          second.info.isBlankRun = false ∧
          first.info.value = some "\"a\"" ∧ second.info.value = some "\"b\"" ∧
          first.info.leading = ["/* @text-lint ignore */"] ∧
          first.isExcluded {} = true ∧ second.isExcluded {} = false := by
  intro source written root
  obtain ⟨document, parsed, scope⟩ := Parser.isExcluded_iff_commentsBefore {} source root {}
  obtain rfl : document = source.document root :=
    Except.ok.inj (parsed.symm.trans (Parser.value_parse_tree {} source root))
  let parent : Node := (source.document root).root.nodes.get ⟨1, by decide +kernel⟩
  let first : Visit := (Visit.ofChildren parent).get ⟨1, by decide +kernel⟩
  let second : Visit := (Visit.ofChildren parent).get ⟨2, by decide +kernel⟩
  have below : parent ∈ (source.document root).root.nodes := List.get_mem _ _
  have isFirst : first ∈ Visit.ofChildren parent := List.get_mem _ _
  have isSecond : second ∈ Visit.ofChildren parent := List.get_mem _ _
  have noAttribute : parent.info.kind ≠ .attribute := by decide +kernel
  have firstFilled : first.info.isBlankRun = false := by decide +kernel
  have secondFilled : second.info.isBlankRun = false := by decide +kernel
  obtain ⟨leading, excluded⟩ := (scope parent below first isFirst firstFilled).1 noAttribute
  obtain ⟨-, kept⟩ := (scope parent below second isSecond secondFilled).1 noAttribute
  refine ⟨_, parsed, parent, below, first, isFirst, second, isSecond, noAttribute, firstFilled,
    secondFilled, by decide +kernel, by decide +kernel, ?_, ?_, ?_⟩
  · rw [leading]
    decide +kernel
  · rw [excluded]
    decide +kernel
  · rw [Bool.eq_false_iff, Ne, kept]
    decide +kernel

end MarkupLint
