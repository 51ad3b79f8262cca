import MarkupLint.Proofs.Traversal
import MarkupLint.Source.Convert

/-!
What the nodes of a parse tree contribute to a document. A node of the document has at most
one piece of text, `Info.content?`; what is extracted are some of these pieces, in their
order (`Document.segments_sublist`). The rest of the module says what conversion makes of
each kind of node, and which parse trees leave nothing to extract.
-/
namespace MarkupLint

/-- The text that a node of a document could give. -/
def Info.content? (info : Info) : Option Segment :=
  match info.kind with
  | .attribute =>
      info.value.map fun value => ⟨value, info.valueLine.getD info.line, .attribute⟩
  | .textRun => some ⟨Text.trimmed info.text, info.line, .textRun⟩
  | _ => none

namespace Node

/-- The texts that nodes and the nodes below them could give, in document order. -/
def contents (nodes : List Node) : List Segment :=
  (infosAll nodes).filterMap Info.content?

theorem contents_nil : contents [] = [] :=
  rfl

theorem contents_append (front back : List Node) :
    contents (front ++ back) = contents front ++ contents back := by
  rw [contents, infosAll_append, List.filterMap_append, contents, contents]

theorem contents_cons (node : Node) (rest : List Node) :
    contents (node :: rest) = contents [node] ++ contents rest :=
  contents_append [node] rest

theorem contents_mk (info : Info) (children : List Node) :
    contents [.mk info children] = info.content?.toList ++ contents children := by
  rw [contents, infosAll, infosAll, List.append_nil, infos, List.filterMap_cons, contents]
  cases info.content? <;> rfl

end Node

namespace Extraction

/-- What is extracted at a node is the text that the node gives. -/
theorem content?_of_segment? {e : Extraction} {visit : Visit} {segment : Segment}
    (extracted : e.segment? visit = some segment) : visit.info.content? = some segment := by
  unfold Extraction.segment? at extracted
  split at extracted
  next kind =>
    unfold ofAttribute at extracted
    split at extracted
    next name value _ hasValue =>
      split at extracted
      · simp only [Info.content?, kind, hasValue, Option.map_some]
        exact extracted
      · cases extracted
    next => cases extracted
  next kind =>
    unfold ofTextRun at extracted
    dsimp only at extracted
    split at extracted
    · cases extracted
    · simp only [Info.content?, kind]
      exact extracted
  next => cases extracted

theorem segment_sublist_content? (e : Extraction) (region : Region) (visit : Visit) :
    (e.step region visit).segment.toList.Sublist visit.info.content?.toList := by
  unfold Extraction.step
  dsimp only
  split
  · exact List.nil_sublist _
  · cases extracted : e.segment? visit with
    | none => exact List.nil_sublist _
    | some segment => simp only [content?_of_segment? extracted, List.Sublist.refl]

theorem walk_sublist (e : Extraction) (region : Region) (visits : List Visit) :
    ((e.walk region visits).filterMap (·.segment)).Sublist
      ((visits.map Visit.info).filterMap Info.content?) := by
  induction visits generalizing region with
  | nil => exact List.Sublist.refl _
  | cons visit rest ih =>
    have here := (segment_sublist_content? e region visit).append
      (ih (e.step region visit).region)
    rw [walk, List.map_cons, List.filterMap_cons, List.filterMap_cons]
    cases hs : (e.step region visit).segment <;> cases hc : visit.info.content? <;>
      simpa [hs, hc] using here

end Extraction

/-- What is extracted from a document are texts of its nodes, in document order. -/
theorem Document.segments_sublist (document : Document) (e : Extraction) :
    (document.segments e).Sublist (Node.contents document.root.children) := by
  rw [Document.segments, Document.steps, Node.contents, ← Visit.map_info_descendants,
    ← document.visits_eq_descendants]
  exact e.walk_sublist none document.visits

namespace SourceNode

theorem kind_ne_textRun (node : SourceNode) : node.kind ≠ .textRun := by
  unfold SourceNode.kind
  split
  · decide
  · split
    · split <;> decide
    · split
      · decide
      · split <;> decide

theorem type_of_kind_attribute {node : SourceNode} (kind : node.kind = .attribute) :
    node.type = "jsx_attribute" := by
  unfold SourceNode.kind at kind
  split at kind
  · cases kind
  · split at kind
    · split at kind <;> cases kind
    · split at kind
      next same => exact same
      next => split at kind <;> cases kind

end SourceNode

namespace Source

variable (source : Source)

theorem info_kind (node : SourceNode) : (source.info node).kind = node.kind := by
  unfold Source.info
  dsimp only
  split <;> rfl

theorem info_fileId (node : SourceNode) : (source.info node).fileId = source.fileId := by
  unfold Source.info
  dsimp only
  split <;> rfl

theorem led_fileId (comments : List String) (info : Info) :
    (led comments info).fileId = info.fileId := by
  unfold led
  split <;> rfl

theorem content?_led (comments : List String) (info : Info) :
    (led comments info).content? = info.content? := by
  unfold led
  split <;> rfl

/-- Of the nodes that are converted one by one, only attributes with a literal give a text,
and that is the literal. -/
theorem content?_info (node : SourceNode) :
    (source.info node).content? =
      if node.kind = .attribute then
        ((node.children[1]?).bind SourceNode.literal?).map fun literal =>
          ⟨source.textOf literal.span, literal.span.line, .attribute⟩
      else none := by
  by_cases isAttribute : node.kind = .attribute
  · rw [if_pos isAttribute]
    have kind : (source.info node).kind = .attribute := (source.info_kind node).trans isAttribute
    simp only [Info.content?, kind]
    simp only [Source.info, if_pos isAttribute]
    cases (node.children[1]?).bind SourceNode.literal? <;> rfl
  · rw [if_neg isAttribute]
    have other : (source.info node).kind ≠ .attribute := by rw [info_kind]; exact isAttribute
    have noRun : (source.info node).kind ≠ .textRun := by
      rw [info_kind]
      exact node.kind_ne_textRun
    unfold Info.content?
    split
    next kind => exact absurd kind other
    next kind => exact absurd kind noRun
    next => rfl

theorem convert_comment (comments : List String) {node : SourceNode}
    (kind : node.kind = .comment) :
    source.convert comments node = .mk (led comments (source.info node)) [] := by
  cases node with
  | mk type span children =>
    have kindInfo : (source.info (.mk type span children)).kind = .comment :=
      (source.info_kind _).trans kind
    rw [Source.convert.eq_def]
    dsimp only
    rw [kindInfo]

theorem convert_attribute (comments : List String) {node : SourceNode}
    (kind : node.kind = .attribute) :
    source.convert comments node =
      .mk (led comments (source.info node)) (source.convertValues node.children.tail) := by
  cases node with
  | mk type span children =>
    have kindInfo : (source.info (.mk type span children)).kind = .attribute :=
      (source.info_kind _).trans kind
    rw [Source.convert.eq_def]
    dsimp only
    rw [kindInfo]
    cases children <;> rfl

theorem convert_of_ne (comments : List String) {node : SourceNode}
    (noComment : node.kind ≠ .comment) (noAttribute : node.kind ≠ .attribute) :
    source.convert comments node =
      .mk (led comments (source.info node)) (source.convertAll none [] node.children) := by
  cases node with
  | mk type span children =>
    have kindInfo := source.info_kind (.mk type span children)
    rw [Source.convert.eq_def]
    dsimp only
    rw [kindInfo]
    split
    next kind => exact absurd kind noComment
    next kind => exact absurd kind noAttribute
    next => rfl

end Source

end MarkupLint
