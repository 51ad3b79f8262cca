import MarkupLint.Proofs.Attachment
import MarkupLint.Proofs.RegionScope
import MarkupLint.Proofs.StackRun

/-!
Comments that are attached to nodes are shown to a traversal again and again, after the
comments themselves have been met. In a parsed document this changes no region: what leads up
to a node has just been met, in the same order and in the same file, so showing it once more
ends where it ended before (`Region.Echoes`). Main statement: the regions of a parsed document
are those it has with nothing attached, and are decided by its comments alone.
-/
namespace MarkupLint

/-- A node to which no comments are attached. -/
def Info.bare (info : Info) : Info :=
  { info with leading := [] }

namespace Node

mutual

/-- A tree with nothing attached to its nodes. -/
def bare : Node → Node
  | mk info children => mk info.bare (bareAll children)

def bareAll : List Node → List Node
  | [] => []
  | node :: rest => bare node :: bareAll rest

end

mutual

theorem infos_bare : (node : Node) → node.bare.infos = node.infos.map Info.bare
  | mk info children => by rw [bare, infos, infos, infosAll_bareAll children, List.map_cons]

theorem infosAll_bareAll : (nodes : List Node) →
    infosAll (bareAll nodes) = (infosAll nodes).map Info.bare
  | [] => rfl
  | node :: rest => by
    rw [bareAll, infosAll, infosAll, infos_bare node, infosAll_bareAll rest, List.map_append]

end

end Node

/-- A document with nothing attached to its nodes. -/
def Document.bare (document : Document) : Document :=
  { document with root := document.root.bare }

namespace Region

/-- The region after a comment in a file. -/
def past (d : Directives) (fileId : String) (region : Region) (comment : String) : Region :=
  match d.boundary? comment with
  | none => region
  | some .start => some fileId
  | some .stop => none

theorem observe_eq_foldl_past (d : Directives) (region : Region) (info : Info) :
    (observe d region info).region = (comments info).foldl (past d info.fileId) region := by
  unfold observe
  generalize shown : comments info = texts
  generalize start : ([] : List LogRecord) = log
  clear shown start
  induction texts generalizing region log with
  | nil => rfl
  | cons text rest ih =>
    rw [List.foldl_cons, List.foldl_cons, past]
    cases d.boundary? text with
    | none => exact ih region log
    | some boundary => cases boundary <;> exact ih _ _

/-- Showing the comments once more to the region they led to leaves it as it is. -/
def Echoes (d : Directives) (fileId : String) (comments : List String) (region : Region) : Prop :=
  comments.foldl (past d fileId) region = region

/-- The last comment decides, if it has a marker; else those before it do. -/
theorem Echoes.concat {d : Directives} {fileId : String} {comments : List String} {region : Region}
    (echoes : Echoes d fileId comments region) (comment : String) :
    Echoes d fileId (comments ++ [comment]) (past d fileId region comment) := by
  unfold Echoes at echoes ⊢
  rw [List.foldl_append, List.foldl_cons, List.foldl_nil]
  unfold past
  cases d.boundary? comment with
  | none => exact echoes
  | some boundary => cases boundary <;> rfl

/-- The region that nodes lead to, one after another. -/
def through (d : Directives) (region : Region) (infos : List Info) : Region :=
  infos.foldl (fun region info => (observe d region info).region) region

/-- What is attached to the nodes changes the region after none of them. -/
def Unmoved (d : Directives) : Region → List Info → Prop
  | _, [] => True
  | region, info :: rest =>
      (observe d region info).region = (observe d region info.bare).region ∧
        Unmoved d (observe d region info).region rest

theorem unmoved_append (d : Directives) (region : Region) (front back : List Info) :
    Unmoved d region (front ++ back) ↔
      Unmoved d region front ∧ Unmoved d (through d region front) back := by
  induction front generalizing region with
  | nil => simp [Unmoved, through]
  | cons info rest ih => rw [List.cons_append, Unmoved, Unmoved, ih, and_assoc]; rfl

/-- A node whose comments echo: only its own text can change the region. -/
theorem observe_of_echoes {d : Directives} {info : Info} {region : Region}
    (echoes : Echoes d info.fileId info.leading region) :
    (observe d region info).region = (observe d region info.bare).region := by
  rw [observe_eq_foldl_past, observe_eq_foldl_past, comments, comments, List.foldl_append, echoes]
  rfl

theorem observe_blank (d : Directives) (region : Region) {info : Info}
    (blank : info.isBlankRun = true) (leading : info.leading = []) :
    (observe d region info).region = region := by
  rw [Info.isBlankRun, Bool.and_eq_true, beq_iff_eq] at blank
  simp [observe, comments, leading, blank.1]

theorem observe_comment {d : Directives} {region : Region} {info : Info}
    (comment : info.kind = .comment) (echoes : Echoes d info.fileId info.leading region) :
    (observe d region info).region = past d info.fileId region info.text := by
  rw [observe_eq_foldl_past, comments, if_pos comment, List.foldl_append, echoes]
  rfl

open Node (Attached LedBy nodesAll forall_mem_nodes forall_mem_nodesAll_cons)

theorem through_infos_of_leaf (d : Directives) (region : Region) {node : Node}
    (childless : node.children = []) :
    through d region node.infos = (observe d region node.info).region := by
  obtain ⟨info, children⟩ := node
  obtain rfl : children = [] := childless
  rfl

section Siblings

variable {d : Directives} {fileId : String}

/-- After a node that is led by comments, and all that is below it, the comments that lead up
to the next one echo. -/
theorem echoes_leadingAfter {comments : List String} {region : Region} {node : Node}
    (attached : Attached fileId node)
    (leading : node.info.leading = if node.info.isBlankRun then [] else comments)
    (echoes : Echoes d fileId comments region) :
    Echoes d fileId (Source.leadingAfter comments node.info) (through d region node.infos) := by
  unfold Source.leadingAfter
  split
  next blank =>
    have isRun : node.info.kind = .textRun := by
      rw [Info.isBlankRun, Bool.and_eq_true, beq_iff_eq] at blank
      exact blank.1
    rw [if_pos blank] at leading
    rw [through_infos_of_leaf d region (attached.leaf (Or.inr isRun)),
      observe_blank d region blank leading]
    exact echoes
  next filled =>
    rw [if_neg filled] at leading
    split
    next comment =>
      have own : Echoes d node.info.fileId node.info.leading region := by
        rw [attached.inFile, leading]
        exact echoes
      rw [through_infos_of_leaf d region (attached.leaf (Or.inl comment)),
        observe_comment comment own, attached.inFile]
      exact echoes.concat node.info.text
    next => rfl

mutual

/-- If what is attached to a node echoes, nothing attached to it or below it changes a
region. -/
theorem unmoved_infos : (node : Node) → (region : Region) →
    (∀ below ∈ node.nodes, Attached fileId below) →
    Echoes d fileId node.info.leading region → Unmoved d region node.infos
  | .mk info children, region, all, echoes => by
    obtain ⟨own, below⟩ := forall_mem_nodes.mp all
    have inFile : info.fileId = fileId := own.inFile
    rw [Node.infos, Unmoved]
    refine ⟨observe_of_echoes (inFile ▸ echoes), ?_⟩
    by_cases isAttribute : info.kind = .attribute
    · exact unmoved_of_bare children _ below (own.bare isAttribute)
    · exact unmoved_of_ledBy children [] _ below (own.led isAttribute) rfl

/-- Siblings that are led by comments, with what is below them. -/
theorem unmoved_of_ledBy : (nodes : List Node) → (comments : List String) → (region : Region) →
    (∀ below ∈ nodesAll nodes, Attached fileId below) → LedBy comments nodes →
    Echoes d fileId comments region → Unmoved d region (Node.infosAll nodes)
  | [], _, _, _, _, _ => trivial
  | node :: rest, comments, region, all, ⟨leading, led⟩, echoes => by
    obtain ⟨below, others⟩ := forall_mem_nodesAll_cons.mp all
    have own : Echoes d fileId node.info.leading region := by
      rw [leading]
      split
      · rfl
      · exact echoes
    rw [Node.infosAll, unmoved_append]
    -- what is carried on to the next sibling echoes in the region this one leads to
    refine ⟨unmoved_infos node region below own, ?_⟩
    exact unmoved_of_ledBy rest _ _ others led
      (echoes_leadingAfter (forall_mem_nodes.mp below).1 leading echoes)

/-- Siblings with nothing attached to themselves. -/
theorem unmoved_of_bare : (nodes : List Node) → (region : Region) →
    (∀ below ∈ nodesAll nodes, Attached fileId below) →
    (∀ node ∈ nodes, node.info.leading = []) → Unmoved d region (Node.infosAll nodes)
  | [], _, _, _ => trivial
  | node :: rest, region, all, bare => by
    obtain ⟨below, others⟩ := forall_mem_nodesAll_cons.mp all
    obtain ⟨first, later⟩ := List.forall_mem_cons.mp bare
    rw [Node.infosAll, unmoved_append]
    refine ⟨unmoved_infos node region below ?_, unmoved_of_bare rest _ others later⟩
    rw [first]
    rfl

end

end Siblings

/-- With nothing attached, the crossings are those of the comments with a marker. -/
theorem crossings_map_bare (d : Directives) (infos : List Info) :
    crossings d (infos.map Info.bare) =
      (infos.filter (isControl d)).map fun info =>
        ((d.boundary? info.text).getD .start, info.fileId) := by
  induction infos with
  | nil => rfl
  | cons info rest ih =>
    rw [List.map_cons, crossings, List.flatMap_cons]
    rw [crossings] at ih
    rw [ih]
    by_cases comment : info.kind = .comment
    · cases found : d.boundary? info.text with
      | none => simp [comments, Info.bare, comment, found, isControl]
      | some boundary => simp [comments, Info.bare, comment, found, isControl]
    · simp [comments, Info.bare, comment, isControl]

theorem boundary?_eq_start_iff (d : Directives) (comment : String) :
    d.boundary? comment = some .start ↔ Text.contains comment d.regionStart = true := by
  unfold Directives.boundary?
  split
  next start => simp [start]
  next noStart => split <;> simp [noStart]

/-- With nothing attached, a node is suppressed just if the nearest comment with a marker, up
to the node itself, has the start marker. -/
theorem isSuppressed_map_bare (d : Directives) {infos : List Info} {fileId : String}
    (inFile : ∀ info ∈ infos, info.fileId = fileId) :
    isSuppressed d (infos.map Info.bare) fileId =
      (infos.filter (isControl d)).getLast?.any (Text.contains ·.text d.regionStart) := by
  rw [isSuppressed, crossings_map_bare, List.getLast?_map]
  cases last : (infos.filter (isControl d)).getLast? with
  | none => rfl
  | some comment =>
    obtain ⟨member, control⟩ := List.mem_filter.mp (List.mem_of_getLast? last)
    rw [isControl, Bool.and_eq_true, Option.isSome_iff_exists] at control
    obtain ⟨-, boundary, found⟩ := control
    have start := boundary?_eq_start_iff d comment.text
    rw [found, Option.some.injEq] at start
    rw [Option.map_some, Option.any_some, found, inFile comment member, Option.getD_some,
      Bool.eq_iff_iff, decide_eq_true_eq, ← start]
    simp

end Region

namespace Extraction

/-- What is extracted at a node that is met in a region. -/
def segmentIn (e : Extraction) (region : Region) (visit : Visit) : Option Segment :=
  if Region.isControl e.directives visit.info || Region.suppresses region visit.info then none
  else e.segment? visit

theorem map_segment_walk (e : Extraction) (region : Region) (visits : List Visit) :
    (e.walk region visits).map (·.segment) =
      List.zipWith e.segmentIn ((e.walk region visits).map (·.region)) visits := by
  induction visits generalizing region with
  | nil => rfl
  | cons visit rest ih =>
    rw [walk, List.map_cons, List.map_cons, List.zipWith_cons_cons, ih]
    rfl

/-- Nodes that say the same but for what is attached to them lead through the same regions. -/
theorem map_region_walk_of_unmoved (e : Extraction) {region : Region} {visits others : List Visit}
    (same : others.map Visit.info = (visits.map Visit.info).map Info.bare)
    (unmoved : Region.Unmoved e.directives region (visits.map Visit.info)) :
    (e.walk region others).map (·.region) = (e.walk region visits).map (·.region) := by
  induction visits generalizing region others with
  | nil =>
    rw [List.map_nil, List.map_nil, List.map_eq_nil_iff] at same
    rw [same]
  | cons visit rest ih =>
    obtain ⟨other, later, rfl, first, others⟩ := List.map_eq_cons_iff.mp same
    obtain ⟨here, unmovedRest⟩ := unmoved
    have met : (e.step region other).region = (e.step region visit).region := by
      simp only [step, first]
      exact here.symm
    rw [walk, walk, List.map_cons, List.map_cons, met]
    exact congrArg _ (ih others unmovedRest)

theorem region_of_getElem?_walk (e : Extraction) (met : List Info) {visits : List Visit}
    {place : Nat} {step : Step}
    (there : (e.walk (Region.afterAll (Region.crossings e.directives met)) visits)[place]? =
      some step) :
    step.region = Region.afterAll
      (Region.crossings e.directives (met ++ (visits.take (place + 1)).map Visit.info)) := by
  induction visits generalizing met place with
  | nil => cases there
  | cons visit rest ih =>
    have next := Region.observe_region e.directives met visit.info
    rw [walk] at there
    cases place with
    | zero =>
      obtain rfl := Option.some.inj there
      exact next
    | succ place =>
      rw [List.getElem?_cons_succ] at there
      simp only [Extraction.step, next] at there
      rw [ih _ there, List.take_succ_cons, List.map_cons, List.append_assoc, List.singleton_append]

end Extraction

namespace Document

theorem visits_map_info (document : Document) :
    document.visits.map Visit.info = Node.infosAll document.root.children := by
  rw [document.visits_eq_descendants, Visit.map_info_descendants]

theorem visits_map_info_bare (document : Document) :
    document.bare.visits.map Visit.info = (document.visits.map Visit.info).map Info.bare := by
  obtain ⟨fileId, info, children⟩ := document
  rw [visits_map_info, visits_map_info]
  exact Node.infosAll_bareAll children

/-- The segments of a document if the regions at its nodes are given. -/
def segmentsIn (document : Document) (e : Extraction) (regions : List Region) : List Segment :=
  (List.zipWith e.segmentIn regions document.visits).filterMap id

theorem segmentsIn_regions (document : Document) (e : Extraction) :
    document.segmentsIn e ((document.steps e).map (·.region)) = document.segments e := by
  rw [segmentsIn, steps, ← e.map_segment_walk, List.filterMap_map]
  rfl

/-- Where the regions are those of the emptied document, the nearest comment with a marker
decides whether a node is suppressed. -/
theorem suppresses_of_regions_bare (document : Document) (e : Extraction) {fileId : String}
    (inFile : ∀ info ∈ document.visits.map Visit.info, info.fileId = fileId)
    (same : (document.bare.steps e).map (·.region) = (document.steps e).map (·.region))
    {place : Nat} {visit : Visit} {step : Extraction.Step}
    (met : document.visits[place]? = some visit) (there : (document.steps e)[place]? = some step) :
    Region.suppresses step.region visit.info =
      (((document.visits.take (place + 1)).map Visit.info).filter
        (Region.isControl e.directives)).getLast?.any
          (Text.contains ·.text e.directives.regionStart) := by
  have placed : ((document.bare.steps e).map (·.region))[place]? = some step.region := by
    rw [same, List.getElem?_map, there, Option.map_some]
  rw [List.getElem?_map, Option.map_eq_some_iff] at placed
  obtain ⟨bare, found, equal⟩ := placed
  have upTo := e.region_of_getElem?_walk [] found
  rw [List.nil_append, List.map_take, visits_map_info_bare, ← List.map_take, ← List.map_take]
    at upTo
  have own : visit.info.fileId = fileId :=
    inFile visit.info (List.mem_map_of_mem (List.mem_of_getElem? met))
  rw [← equal, upTo, Region.suppresses_afterAll, own]
  apply Region.isSuppressed_map_bare
  intro info member
  rw [List.map_take] at member
  exact inFile info (List.mem_of_mem_take member)

end Document

/-- Attached comments change no region of a parsed document: after every node the region is as
if nothing were attached to any. So a node is suppressed just if the nearest comment with a
marker, up to the node itself, has the start marker, and what is extracted is what it would be
if the regions came from the document with nothing attached. -/
theorem Parser.regions_of_comments (parser : Parser) (source : Source) (root : SourceNode)
    (e : Extraction) :
    ∃ document, (parser.parse source (.tree root)).2.value = .ok document ∧
      (document.bare.steps e).map (·.region) = (document.steps e).map (·.region) ∧
      (∀ (place : Nat) (visit : Visit) (step : Extraction.Step),
        document.visits[place]? = some visit → (document.steps e)[place]? = some step →
        Region.suppresses step.region visit.info =
          (((document.visits.take (place + 1)).map Visit.info).filter
            (Region.isControl e.directives)).getLast?.any
              (Text.contains ·.text e.directives.regionStart)) ∧
      document.segmentsIn e ((document.bare.steps e).map (·.region)) = document.segments e := by
  refine ⟨source.document root, parser.value_parse_tree source root, ?_⟩
  obtain ⟨own, attached⟩ := Node.forall_mem_nodes.mp (source.attached_document root)
  have led : Node.LedBy [] (source.document root).root.children := own.led nofun
  have unmoved : Region.Unmoved e.directives none
      (Node.infosAll (source.document root).root.children) :=
    Region.unmoved_of_ledBy _ [] none attached led rfl
  rw [← Document.visits_map_info] at unmoved
  have same : ((source.document root).bare.steps e).map (·.region) =
      ((source.document root).steps e).map (·.region) :=
    e.map_region_walk_of_unmoved (source.document root).visits_map_info_bare unmoved
  have inFile : ∀ info ∈ (source.document root).visits.map Visit.info,
      info.fileId = source.fileId := by
    rw [Document.visits_map_info, ← Node.map_info_nodesAll, List.forall_mem_map]
    exact fun below member => (attached below member).inFile
  refine ⟨same, ?_, ?_⟩
  · intro place visit step met there
    exact (source.document root).suppresses_of_regions_bare e inFile same met there
  · rw [same, Document.segmentsIn_regions]

/-- A region that is opened and closed right before an attribute, and opened again before the
next. -/
theorem Parser.regions_of_comments_opened_twice :
    let source : Source :=
      ⟨"a.tsx", Utf8.encode
        ("<img /* @text-lint ignore start */ /* @text-lint ignore end */ alt=\"a\" " ++
          "/* @text-lint ignore start */ title=\"b\" />")⟩
    let written (start name stop : Nat) : SourceNode :=
      .mk "jsx_attribute" ⟨start, stop, 0⟩
        [.mk "property_identifier" ⟨start, name, 0⟩ [], .mk "string" ⟨name + 1, stop, 0⟩ []]
    let comment (start stop : Nat) : SourceNode := .mk "comment" ⟨start, stop, 0⟩ []
    let root : SourceNode :=
      .mk "program" ⟨0, 113, 0⟩
        [.mk "jsx_self_closing_element" ⟨0, 113, 0⟩
          [comment 5 34, comment 35 62, written 63 66 70, comment 71 100, written 101 106 110]]
    let e : Extraction := { rules := { target := ["alt", "title"] } }
    ∃ document, (Parser.parse {} source (.tree root)).2.value = .ok document ∧
      ∃ visit step, document.visits[5]? = some visit ∧ (document.steps e)[5]? = some step ∧
        visit.info.leading = ["/* @text-lint ignore start */"] ∧
        Region.suppresses step.region visit.info = true ∧
        document.segmentsIn e ((document.bare.steps e).map (·.region)) =
          [⟨"\"a\"", 1, .attribute⟩] := by
  intro source written comment root e
  obtain ⟨document, parsed, -, decided, kept⟩ := Parser.regions_of_comments {} source root e
  obtain rfl : document = source.document root :=
    Except.ok.inj (parsed.symm.trans (Parser.value_parse_tree {} source root))
  have visits : (source.document root).visits = Visit.descendants (source.document root).root :=
    (source.document root).visits_eq_descendants
  have steps : (source.document root).steps e =
      e.walk none (Visit.descendants (source.document root).root) :=
    congrArg _ visits
  let visit : Visit := (Visit.descendants (source.document root).root).get ⟨5, by decide +kernel⟩
  let step : Extraction.Step :=
    (e.walk none (Visit.descendants (source.document root).root)).get ⟨5, by decide +kernel⟩
  have met : (source.document root).visits[5]? = some visit := by
    rw [visits]
    exact List.getElem?_eq_getElem _
  have there : ((source.document root).steps e)[5]? = some step := by
    rw [steps]
    exact List.getElem?_eq_getElem _
  refine ⟨_, parsed, visit, step, met, there, by decide +kernel, ?_, ?_⟩
  · rw [decided 5 visit step met there, visits]
    decide +kernel
  · rw [kept, Document.segments, steps]
    decide +kernel

end MarkupLint
