import MarkupLint.Proofs.ParseTree
import MarkupLint.Proofs.StackRun
import MarkupLint.Source.Parse

/-!
Segments stand in the source, in its order. Of a parse tree that fits its text every text
that conversion makes is a slice of the source, and slices follow each other as the nodes
do. The induction goes down the parse tree with the places between which the texts of a
node must lie; over the children of a node it carries the run that is still open
(`Source.OpenRun`). A literal between braces is met twice, as the value of its attribute
and below the expression; the second time it gives nothing (`Source.silent_of_braced?`).

Main result: `Parser.segments_stand_in_order`, for every tree that keeps the promise.
-/
namespace MarkupLint

namespace Source

open SourceNode (Plain nodesAll InOrder)

variable (source : Source)

/-! Trees that give no text. -/

/-- A tree that gives nothing, and that is not text itself. -/
def Silent (node : SourceNode) : Prop :=
  node.isText = false ∧ ∀ comments, Node.contents [source.convert comments node] = []

theorem contents_convertAll_of_silent (comments : List String) {trees : List SourceNode}
    (silent : ∀ node ∈ trees, source.Silent node) :
    Node.contents (source.convertAll none comments trees) = [] := by
  induction trees generalizing comments with
  | nil => rfl
  | cons node rest ih =>
    obtain ⟨noText, nothing⟩ := silent node List.mem_cons_self
    have nothingRest := ih (leadingAfter comments (source.info node))
      fun other member => silent other (List.mem_cons_of_mem _ member)
    rw [convertAll, noText]
    simp only [Bool.false_eq_true, if_false, run?, closeRun, Option.map_none, List.nil_append]
    rw [Node.contents_cons, nothing, nothingRest, List.append_nil]

/-- A node other than an attribute gives what is below it. -/
theorem silent_of_children {node : SourceNode} (noText : node.isText = false)
    (noAttribute : node.kind ≠ .attribute)
    (silent : ∀ child ∈ node.children, source.Silent child) : source.Silent node := by
  refine ⟨noText, fun comments => ?_⟩
  by_cases comment : node.kind = .comment
  · rw [convert_comment source comments comment, Node.contents_mk, content?_led, content?_info,
      if_neg noAttribute]
    rfl
  · rw [convert_of_ne source comments comment noAttribute, Node.contents_mk, content?_led,
      content?_info, if_neg noAttribute, contents_convertAll_of_silent source [] silent]
    rfl

mutual

theorem silent_of_plain :
    (node : SourceNode) →
      (∀ below ∈ node.nodes, below.type ≠ "jsx_attribute" ∧ below.isText = false) →
      source.Silent node
  | .mk type span children, plain => by
    obtain ⟨own, below⟩ := SourceNode.forall_mem_nodes.mp plain
    exact source.silent_of_children own.2 (SourceNode.kind_ne_attribute own.1)
      (silent_of_plainAll children below)

theorem silent_of_plainAll :
    (trees : List SourceNode) → Plain trees → ∀ node ∈ trees, source.Silent node
  | [], _, _, member => by cases member
  | head :: rest, plain, node, member => by
    obtain ⟨first, others⟩ := SourceNode.forall_mem_nodesAll_cons.mp plain
    rcases List.mem_cons.mp member with same | later
    · rw [same]
      exact silent_of_plain head first
    · exact silent_of_plainAll rest others node later

end

/-- A literal is plain with all that is below it. -/
theorem silent_literal {literal : SourceNode} (isLiteral : literal.isLiteral = true)
    (plain : Plain literal.children) : source.Silent literal := by
  have type : literal.type = "string" ∨ literal.type = "template_string" := by
    simpa only [SourceNode.isLiteral, Bool.or_eq_true, beq_iff_eq] using isLiteral
  have noText : literal.isText = false := by
    rcases type with type | type <;> simp [SourceNode.isText, type]
  have noAttribute : literal.type ≠ "jsx_attribute" := by
    rcases type with type | type <;> simp [type]
  exact source.silent_of_children noText (SourceNode.kind_ne_attribute noAttribute)
    (source.silent_of_plainAll literal.children plain)

theorem silent_comment {node : SourceNode} (comment : node.isComment = true) :
    source.Silent node := by
  have type : node.type = "comment" := by
    simpa only [SourceNode.isComment, beq_iff_eq] using comment
  have kind := SourceNode.kind_of_isComment comment
  refine ⟨by simp [SourceNode.isText, type], fun comments => ?_⟩
  rw [convert_comment source comments kind, Node.contents_mk, content?_led, content?_info, kind]
  rfl

/-- The expression around a static value gives nothing besides: the literal is not reported
a second time. -/
theorem silent_of_braced? {text : String} {value literal : SourceNode} (fits : value.Fits text)
    (expression : value.type = "jsx_expression")
    (braced : SourceNode.braced? value.children = some literal) : source.Silent value := by
  obtain ⟨filtered, member, isLiteral, static⟩ := SourceNode.mem_of_braced? braced
  have plain := fits.literals expression literal member isLiteral static
  have noAttribute : value.type ≠ "jsx_attribute" := by simp [expression]
  refine source.silent_of_children (by simp [SourceNode.isText, expression])
    (SourceNode.kind_ne_attribute noAttribute) fun child inside => ?_
  by_cases comment : child.isComment = true
  · exact source.silent_comment comment
  · have kept : child ∈ value.children.filter (!·.isComment) :=
      List.mem_filter.mpr ⟨inside, by simpa using comment⟩
    rw [filtered, List.mem_singleton] at kept
    rw [kept]
    exact source.silent_literal isLiteral plain

/-! Texts between places. -/

/-- The pieces of a run that is still open, if there are any, lie between two places. -/
inductive OpenRun (text : String) (lo mid : Nat) : Option (Span × Span) → Prop where
  | none (room : lo ≤ mid) : OpenRun text lo mid none
  | some {first last : Span} (after : lo ≤ first.start) (forward : first.start ≤ last.stop)
      (before : last.stop ≤ mid) (starts : IsBoundary text first.start)
      (stops : IsBoundary text last.stop)
      (row : first.row = ((Utf8.encode text).take first.start).count 10) :
      OpenRun text lo mid (some (first, last))

theorem OpenRun.extend {text : String} {lo mid : Nat} {pieces : Option (Span × Span)}
    {node : SourceNode} (opened : OpenRun text lo mid pieces) (fits : node.Fits text)
    (after : mid ≤ node.span.start) :
    OpenRun text lo node.span.stop (Source.extend pieces node.span) := by
  have forward := fits.forward
  cases opened with
  | none room =>
    exact .some (Nat.le_trans room after) forward (Nat.le_refl _) fits.starts fits.stops fits.row
  | some afterLo ordered before starts _ row =>
    exact .some afterLo (Nat.le_trans ordered (by omega)) (Nat.le_refl _) starts fits.stops row

variable (fileId : String) {text : String}

/-- The run that an open run closes to stands where its pieces are. -/
theorem OpenRun.laidOut {lo mid : Nat} {pieces : Option (Span × Span)}
    (opened : OpenRun text lo mid pieces) (comments : List String) :
    Segment.LaidOut (Utf8.encode text) mid lo
      (Node.contents
        (closeRun comments (run? ⟨fileId, Utf8.encode text⟩ pieces)).1) := by
  cases opened with
  | none room => exact room
  | some after forward before starts stops row =>
    obtain ⟨stretch, runAfter, runBefore, stands⟩ :=
      standsAt_run fileId starts stops forward row .textRun
    simp only [run?, Option.map_some, closeRun]
    rw [Node.contents_mk, content?_led, Node.contents_nil, List.append_nil]
    exact Segment.LaidOut.one (Nat.le_trans after runAfter) stands (Nat.le_trans runBefore before)

/-- The literal of an attribute stands before what the values after it give. -/
theorem laidOut_literal {value literal : SourceNode} {hi lo : Nat} {rest : List SourceNode}
    (fits : ∀ node ∈ value.nodes, node.Fits text) (after : lo ≤ value.span.start)
    (found : value.literal? = some literal)
    (laidRest : Segment.LaidOut (Utf8.encode text) hi value.span.stop
      (Node.contents (convertValues ⟨fileId, Utf8.encode text⟩ rest))) :
    Segment.LaidOut (Utf8.encode text) hi lo
      (⟨textOf ⟨fileId, Utf8.encode text⟩ literal.span, literal.span.line, .attribute⟩ ::
        Node.contents (convertValues ⟨fileId, Utf8.encode text⟩ (value :: rest))) := by
  obtain ⟨valueFits, fitsBelow⟩ := SourceNode.forall_mem_nodes.mp fits
  rcases SourceNode.literal?_cases found with ⟨string, same⟩ | ⟨expression, braced⟩
  · have isLiteral : value.isLiteral = true := by simp [SourceNode.isLiteral, string]
    rw [convertValues, if_pos isLiteral, same]
    exact ⟨_, after, standsAt_slice fileId valueFits.starts valueFits.stops valueFits.forward
      valueFits.row .attribute, laidRest⟩
  · obtain ⟨-, member, -, -⟩ := SourceNode.mem_of_braced? braced
    have noLiteral : value.isLiteral = false := by simp [SourceNode.isLiteral, expression]
    have silent := silent_of_braced? ⟨fileId, Utf8.encode text⟩ valueFits expression braced
    have literalFits : literal.Fits text :=
      (SourceNode.forall_mem_nodes.mp (SourceNode.forall_mem_nodes_of_mem fitsBelow member)).1
    obtain ⟨inStart, inStop⟩ := valueFits.inside literal member
    -- the expression is converted too, but what it holds is silent
    rw [convertValues, noLiteral]
    simp only [Bool.false_eq_true, if_false]
    rw [Node.contents_cons, silent.2, List.nil_append]
    exact ⟨_, Nat.le_trans after inStart, standsAt_slice fileId literalFits.starts
      literalFits.stops literalFits.forward literalFits.row .attribute, laidRest.lower inStop⟩

mutual

theorem laidOut_convert (comments : List String) :
    (node : SourceNode) → (∀ below ∈ node.nodes, below.Fits text) →
      Segment.LaidOut (Utf8.encode text) node.span.stop node.span.start
        (Node.contents [convert ⟨fileId, Utf8.encode text⟩ comments node])
  | .mk type span children, fits => by
    obtain ⟨own, fitsBelow⟩ := SourceNode.forall_mem_nodes.mp fits
    have ordered : InOrder span.stop span.start children := own.children_inOrder
    by_cases comment : (SourceNode.mk type span children).kind = .comment
    · rw [convert_comment _ comments comment, Node.contents_mk, content?_led, content?_info,
        comment]
      exact own.forward
    · by_cases isAttribute : (SourceNode.mk type span children).kind = .attribute
      · rw [convert_attribute _ comments isAttribute, Node.contents_mk, content?_led,
          content?_info, if_pos isAttribute]
        -- the name gives nothing; only the value right after it can be the literal
        match children, ordered, fitsBelow with
        | [], ordered, _ => exact ordered
        | [_], _, _ => exact own.forward
        | name :: value :: rest, ⟨afterStart, afterName, orderedRest⟩, fitsBelow =>
          obtain ⟨fitsName, fitsValues⟩ := SourceNode.forall_mem_nodesAll_cons.mp fitsBelow
          obtain ⟨fitsValue, fitsRest⟩ := SourceNode.forall_mem_nodesAll_cons.mp fitsValues
          have forwardName := (SourceNode.forall_mem_nodes.mp fitsName).1.forward
          have after : span.start ≤ value.span.start :=
            Nat.le_trans afterStart (Nat.le_trans forwardName afterName)
          simp only [SourceNode.children, List.getElem?_cons_succ, List.getElem?_cons_zero,
            Option.bind_some, List.tail_cons]
          cases found : value.literal? with
          | none => exact laidOut_convertValues (value :: rest) fitsValues ⟨after, orderedRest⟩
          | some literal =>
            exact laidOut_literal fileId fitsValue after found
              (laidOut_convertValues rest fitsRest orderedRest)
      · rw [convert_of_ne _ comments comment isAttribute, Node.contents_mk, content?_led,
          content?_info, if_neg isAttribute]
        exact laidOut_convertAll [] (.none (Nat.le_refl _)) children fitsBelow ordered

/-- Over the children of a node, the texts given so far and the pieces of the open run lie
before the place that the next child starts at. -/
theorem laidOut_convertAll {hi lo mid : Nat} {pieces : Option (Span × Span)}
    (comments : List String) (opened : OpenRun text lo mid pieces) :
    (trees : List SourceNode) → (∀ below ∈ nodesAll trees, below.Fits text) →
      InOrder hi mid trees →
      Segment.LaidOut (Utf8.encode text) hi lo
        (Node.contents (convertAll ⟨fileId, Utf8.encode text⟩ pieces comments trees))
  | [], _, ordered => (opened.laidOut fileId comments).raise ordered
  | node :: rest, fits, ordered => by
    obtain ⟨fitsNode, fitsRest⟩ := SourceNode.forall_mem_nodesAll_cons.mp fits
    have own := (SourceNode.forall_mem_nodes.mp fitsNode).1
    obtain ⟨after, orderedRest⟩ := ordered
    rw [convertAll]
    split
    · exact laidOut_convertAll comments (opened.extend own after) rest fitsRest orderedRest
    · dsimp only
      rw [Node.contents_append, Node.contents_cons]
      have laidRun := opened.laidOut fileId comments
      have laidNode := laidOut_convert
        (closeRun comments (run? ⟨fileId, Utf8.encode text⟩ pieces)).2 node fitsNode
      exact laidRun.append ((laidNode.lower after).append
        (laidOut_convertAll _ (.none (Nat.le_refl _)) rest fitsRest orderedRest))

theorem laidOut_convertValues {hi lo : Nat} :
    (trees : List SourceNode) → (∀ below ∈ nodesAll trees, below.Fits text) →
      InOrder hi lo trees →
      Segment.LaidOut (Utf8.encode text) hi lo
        (Node.contents (convertValues ⟨fileId, Utf8.encode text⟩ trees))
  | [], _, ordered => ordered
  | node :: rest, fits, ordered => by
    obtain ⟨fitsNode, fitsRest⟩ := SourceNode.forall_mem_nodesAll_cons.mp fits
    have own := (SourceNode.forall_mem_nodes.mp fitsNode).1
    obtain ⟨after, orderedRest⟩ := ordered
    have laidRest := laidOut_convertValues rest fitsRest orderedRest
    rw [convertValues]
    split
    · exact laidRest.lower (Nat.le_trans after own.forward)
    · rw [Node.contents_cons]
      exact ((laidOut_convert [] node fitsNode).lower after).append laidRest

end

end Source

theorem SourceNode.IsParseOf.contents_document {text : String} {root : SourceNode}
    (parsed : root.IsParseOf text) (fileId : String) :
    Segment.LaidOut (Utf8.encode text) root.span.stop root.span.start
      (Node.contents (Source.document ⟨fileId, Utf8.encode text⟩ root).root.children) := by
  obtain ⟨own, below⟩ := SourceNode.forall_mem_nodes.mp parsed
  exact Source.laidOut_convertAll fileId [] (.none (Nat.le_refl _)) root.children below
    own.children_inOrder

/-- Whatever is extracted from a parsed text stands in it: each segment is a stretch of the
text at the line where the stretch starts, and stretches come one after another. -/
theorem Parser.segments_stand_in_order (parser : Parser) (fileId text : String)
    (root : SourceNode) (e : Extraction) (parsed : root.IsParseOf text) :
    ∃ document,
      (parser.parse ⟨fileId, Utf8.encode text⟩ (.tree root)).2.value = .ok document ∧
      ∃ stretches : List Stretch,
        List.Forall₂ (Segment.StandsAt (Utf8.encode text)) (document.segments e) stretches ∧
        stretches.Pairwise fun before after => before.stop ≤ after.start := by
  refine ⟨Source.parsed ⟨fileId, Utf8.encode text⟩ root, rfl, ?_⟩
  rw [Source.parsed_eq_document]
  have extracted := Document.segments_sublist (Source.document ⟨fileId, Utf8.encode text⟩ root) e
  have laid := (parsed.contents_document fileId).sublist extracted
  obtain ⟨stretches, matched, ordered, -⟩ := laid.stretches
  exact ⟨stretches, matched, ordered⟩

/-- The tree of a tag with an attribute between braces and text around a character
reference. -/
def SourceNode.paragraph : SourceNode :=
  .mk "program" ⟨0, 33, 0⟩
    [.mk "jsx_element" ⟨0, 33, 0⟩
      [.mk "jsx_opening_element" ⟨0, 16, 0⟩
        [.mk "identifier" ⟨1, 2, 0⟩ [],
          .mk "jsx_attribute" ⟨3, 15, 0⟩
            [.mk "property_identifier" ⟨3, 8, 0⟩ [],
              .mk "jsx_expression" ⟨9, 15, 0⟩
                [.mk "string" ⟨10, 14, 0⟩ [.mk "string_fragment" ⟨11, 13, 0⟩ []]]]],
        .mk "jsx_text" ⟨16, 22, 0⟩ [],
        .mk "html_character_reference" ⟨22, 27, 1⟩ [],
        .mk "jsx_text" ⟨27, 29, 1⟩ [],
        .mk "jsx_closing_element" ⟨29, 33, 1⟩ [.mk "identifier" ⟨31, 32, 1⟩ []]]]

def SourceNode.paragraphText : String :=
  "<p title=\x7b\"é\"\x7d>\n Tom &amp; x</p>"

theorem Parser.segments_stand_in_order_paragraph :
    SourceNode.paragraph.IsParseOf SourceNode.paragraphText ∧
      ∃ document,
        (Parser.parse {} ⟨"App.tsx", Utf8.encode SourceNode.paragraphText⟩
          (.tree SourceNode.paragraph)).2.value = .ok document ∧
        ∃ stretches : List Stretch,
          List.Forall₂ (Segment.StandsAt (Utf8.encode SourceNode.paragraphText))
            (document.segments { rules := { target := ["title"] } }) stretches ∧
          stretches.Pairwise fun before after => before.stop ≤ after.start := by
  have parsed : SourceNode.paragraph.IsParseOf SourceNode.paragraphText := by decide +kernel
  exact ⟨parsed, Parser.segments_stand_in_order {} "App.tsx" SourceNode.paragraphText
    SourceNode.paragraph { rules := { target := ["title"] } } parsed⟩

example :
    (Source.document ⟨"App.tsx", Utf8.encode SourceNode.paragraphText⟩
        SourceNode.paragraph).segments { rules := { target := ["title"] } } =
      [⟨"\"é\"", 1, .attribute⟩, ⟨"Tom &amp; x", 2, .textRun⟩] := by
  decide +kernel

end MarkupLint
