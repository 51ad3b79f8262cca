import Mathlib.Data.List.Chain
import MarkupLint.Proofs.Contents

/-!
What conversion leaves behind at every node. Between the children of a node it carries the
comments that lead up to the next one; in the document it has made, what each child carries
can be told from the siblings before it (`Node.LedBy`). Main statement: every node of a
converted document is of the file of the source, comments and runs are without children,
runs stand apart, and the children of a node are led by the comments between them, except
that nothing is attached below an attribute (`Source.attached_document`).
-/
namespace MarkupLint

namespace Node

mutual

/-- A node and the nodes below it, in document order. -/
def nodes : Node → List Node
  | mk info children => mk info children :: nodesAll children

def nodesAll : List Node → List Node
  | [] => []
  | node :: rest => nodes node ++ nodesAll rest

end

/-- Siblings that carry the comments that lead up to them, these being the comments that lead
up to the first. -/
def LedBy : List String → List Node → Prop
  | _, [] => True
  | comments, node :: rest =>
      node.info.leading = (if node.info.isBlankRun then [] else comments) ∧
        LedBy (Source.leadingAfter comments node.info) rest

/-- Siblings of which no two side by side are both runs. -/
def RunsApart (nodes : List Node) : Prop :=
  nodes.IsChain fun node next => ¬ (node.info.kind = .textRun ∧ next.info.kind = .textRun)

/-- What conversion promises of a node and its children. -/
structure Attached (fileId : String) (node : Node) : Prop where
  inFile : node.info.fileId = fileId
  leaf : node.info.kind = .comment ∨ node.info.kind = .textRun → node.children = []
  led : node.info.kind ≠ .attribute → LedBy [] node.children
  bare : node.info.kind = .attribute → ∀ child ∈ node.children, child.info.leading = []
  apart : RunsApart node.children

mutual

theorem map_info_nodes : (node : Node) → node.nodes.map info = node.infos
  | mk info children => by rw [nodes, infos, List.map_cons, map_info_nodesAll children]; rfl

theorem map_info_nodesAll : (trees : List Node) → (nodesAll trees).map info = infosAll trees
  | [] => rfl
  | node :: rest => by
    rw [nodesAll, infosAll, List.map_append, map_info_nodes node, map_info_nodesAll rest]

end

theorem forall_mem_nodes {kept : Node → Prop} {node : Node} :
    (∀ below ∈ node.nodes, kept below) ↔
      kept node ∧ ∀ below ∈ nodesAll node.children, kept below := by
  cases node with
  | mk info children =>
    rw [nodes, List.forall_mem_cons]
    rfl

theorem forall_mem_nodesAll_cons {kept : Node → Prop} {node : Node} {rest : List Node} :
    (∀ below ∈ nodesAll (node :: rest), kept below) ↔
      (∀ below ∈ node.nodes, kept below) ∧ ∀ below ∈ nodesAll rest, kept below := by
  rw [nodesAll, List.forall_mem_append]

/-- What is no run may stand before anything. -/
theorem RunsApart.cons {node : Node} {rest : List Node} (apart : RunsApart rest)
    (other : node.info.kind ≠ .textRun) : RunsApart (node :: rest) := by
  cases rest with
  | nil => exact List.isChain_singleton node
  | cons next rest =>
    exact List.isChain_cons_cons.mpr ⟨fun runs => other runs.1, apart⟩

/-- A node without children that holds nothing but text. -/
theorem attached_leaf {fileId : String} {info : Info} (inFile : info.fileId = fileId) :
    ∀ below ∈ nodesAll [.mk info []], Attached fileId below := by
  rw [forall_mem_nodesAll_cons, forall_mem_nodes]
  refine ⟨⟨⟨inFile, fun _ => rfl, fun _ => trivial, ?_, List.isChain_nil⟩, ?_⟩, ?_⟩
  · intro _ child member
    cases member
  · intro below member
    cases member
  · intro below member
    cases member

end Node

namespace Source

open Node (LedBy RunsApart Attached nodesAll forall_mem_nodes forall_mem_nodesAll_cons)

section Led

variable (comments : List String) (info : Info)

theorem led_kind : (led comments info).kind = info.kind := by
  unfold led
  split <;> rfl

theorem led_isBlankRun : (led comments info).isBlankRun = info.isBlankRun := by
  unfold led
  split <;> rfl

theorem leadingAfter_led (before : List String) :
    leadingAfter before (led comments info) = leadingAfter before info := by
  unfold led
  split <;> rfl

theorem led_leading (plain : info.leading = []) :
    (led comments info).leading = if info.isBlankRun then [] else comments := by
  unfold led
  split
  · exact plain
  · rfl

end Led

theorem info_leading (source : Source) (node : SourceNode) : (source.info node).leading = [] := by
  unfold Source.info
  dsimp only
  split <;> rfl

theorem info_convert (source : Source) (comments : List String) (node : SourceNode) :
    (source.convert comments node).info = led comments (source.info node) := by
  cases node
  rw [Source.convert.eq_def]
  rfl

theorem convert_kind_ne_textRun (source : Source) (comments : List String) (node : SourceNode) :
    (source.convert comments node).info.kind ≠ .textRun := by
  rw [info_convert, led_kind, info_kind]
  exact SourceNode.kind_ne_textRun node

/-- A run is closed before something else comes, which keeps it apart from the next one. -/
theorem runsApart_closeRun (comments : List String) (run : Option Info) {rest : List Node}
    (apart : RunsApart rest) (other : ∀ node ∈ rest.head?, node.info.kind ≠ .textRun) :
    RunsApart ((closeRun comments run).1 ++ rest) := by
  cases run with
  | none => exact apart
  | some run =>
    cases rest with
    | nil => exact List.isChain_singleton _
    | cons node rest =>
      exact List.isChain_cons_cons.mpr ⟨fun runs => other node rfl runs.2, apart⟩

/-- A run that is closed carries the comments before it, and those after it go on. -/
theorem ledBy_closeRun (source : Source) (comments : List String) (pieces : Option (Span × Span))
    (rest : List Node) :
    LedBy comments ((closeRun comments (source.run? pieces)).1 ++ rest) ↔
      LedBy (closeRun comments (source.run? pieces)).2 rest := by
  cases pieces with
  | none => exact Iff.rfl
  | some pieces =>
    have plain : (source.runInfo pieces.1 pieces.2).leading = [] := rfl
    simp only [run?, Option.map_some, closeRun, List.cons_append, List.nil_append, LedBy,
      Node.info, led_isBlankRun, leadingAfter_led, led_leading _ _ plain, true_and]

theorem attached_closeRun (source : Source) (comments : List String)
    (pieces : Option (Span × Span)) :
    ∀ below ∈ nodesAll (closeRun comments (source.run? pieces)).1,
      Attached source.fileId below := by
  cases pieces with
  | none =>
    intro below member
    cases member
  | some pieces => exact Node.attached_leaf (led_fileId _ _)

end Source

namespace Node

theorem nodesAll_append (front back : List Node) :
    nodesAll (front ++ back) = nodesAll front ++ nodesAll back := by
  induction front with
  | nil => rfl
  | cons node rest ih => rw [List.cons_append, nodesAll, nodesAll, ih, List.append_assoc]

end Node

namespace Source

open Node (LedBy RunsApart Attached nodesAll forall_mem_nodes forall_mem_nodesAll_cons)

variable (source : Source)

mutual

theorem attached_convert (comments : List String) :
    (node : SourceNode) →
      ∀ below ∈ (source.convert comments node).nodes, Attached source.fileId below
  | .mk type span children => by
    have inFile : (led comments (source.info (.mk type span children))).fileId = source.fileId :=
      (led_fileId _ _).trans (source.info_fileId _)
    have kind : (led comments (source.info (.mk type span children))).kind =
        (SourceNode.mk type span children).kind :=
      (led_kind _ _).trans (source.info_kind _)
    by_cases comment : (SourceNode.mk type span children).kind = .comment
    · rw [convert_comment _ comments comment]
      exact (forall_mem_nodesAll_cons.mp (Node.attached_leaf inFile)).1
    · have noLeaf : ¬ ((SourceNode.mk type span children).kind = .comment ∨
          (SourceNode.mk type span children).kind = .textRun) :=
        not_or.mpr ⟨comment, SourceNode.kind_ne_textRun _⟩
      by_cases isAttribute : (SourceNode.mk type span children).kind = .attribute
      · have values : (∀ child ∈ source.convertValues children.tail, child.info.leading = []) ∧
            RunsApart (source.convertValues children.tail) ∧
            ∀ below ∈ nodesAll (source.convertValues children.tail),
              Attached source.fileId below := by
          match children with
          | [] => simp [convertValues, nodesAll, RunsApart]
          | _ :: values => exact attached_convertValues values
        obtain ⟨bare, apart, below⟩ := values
        rw [convert_attribute _ comments isAttribute, forall_mem_nodes]
        refine ⟨⟨inFile, ?_, ?_, fun _ => bare, apart⟩, below⟩
        · exact fun leaf => absurd (kind ▸ leaf) noLeaf
        · exact fun other => absurd (kind.trans isAttribute) other
      · obtain ⟨led, apart, below⟩ := attached_convertAll none [] children
        rw [convert_of_ne _ comments comment isAttribute, forall_mem_nodes]
        refine ⟨⟨inFile, ?_, fun _ => led, ?_, apart⟩, below⟩
        · exact fun leaf => absurd (kind ▸ leaf) noLeaf
        · exact fun same => absurd (kind.symm.trans same) isAttribute

/-- Over the children of a node, the comments that are carried are those that lead up to what
comes next. -/
theorem attached_convertAll (pieces : Option (Span × Span)) (comments : List String) :
    (trees : List SourceNode) →
      LedBy comments (source.convertAll pieces comments trees) ∧
        RunsApart (source.convertAll pieces comments trees) ∧
        ∀ below ∈ nodesAll (source.convertAll pieces comments trees),
          Attached source.fileId below
  | [] => by
    have closed := source.ledBy_closeRun comments pieces []
    have apart := runsApart_closeRun comments (source.run? pieces) List.isChain_nil (by simp)
    rw [List.append_nil] at closed apart
    rw [convertAll]
    exact ⟨closed.mpr trivial, apart, source.attached_closeRun comments pieces⟩
  | node :: rest => by
    rw [convertAll]
    split
    · exact attached_convertAll (extend pieces node.span) comments rest
    · generalize after : (closeRun comments (source.run? pieces)).2 = carried
      obtain ⟨led, apart, below⟩ :=
        attached_convertAll none (leadingAfter carried (source.info node)) rest
      have noRun := source.convert_kind_ne_textRun carried node
      dsimp only
      rw [after]
      refine ⟨?_, ?_, ?_⟩
      · rw [source.ledBy_closeRun, after, LedBy, info_convert, led_isBlankRun, leadingAfter_led]
        exact ⟨led_leading _ _ (source.info_leading node), led⟩
      · refine runsApart_closeRun comments _ (apart.cons noRun) ?_
        intro first isFirst
        cases isFirst
        exact noRun
      · rw [Node.nodesAll_append, List.forall_mem_append, forall_mem_nodesAll_cons]
        exact ⟨source.attached_closeRun comments pieces, attached_convert carried node, below⟩

theorem attached_convertValues :
    (values : List SourceNode) →
      (∀ child ∈ source.convertValues values, child.info.leading = []) ∧
        RunsApart (source.convertValues values) ∧
        ∀ below ∈ nodesAll (source.convertValues values), Attached source.fileId below
  | [] => by simp [convertValues, nodesAll, RunsApart]
  | node :: rest => by
    obtain ⟨bare, apart, below⟩ := attached_convertValues rest
    have noRun := source.convert_kind_ne_textRun [] node
    rw [convertValues]
    split
    · exact ⟨bare, apart, below⟩
    · rw [List.forall_mem_cons, forall_mem_nodesAll_cons, info_convert,
        led_leading _ _ (source.info_leading node), ite_self]
      exact ⟨⟨rfl, bare⟩, apart.cons noRun, attached_convert [] node, below⟩

end

/-- What conversion promises holds at every node of a document. -/
theorem attached_document (root : SourceNode) :
    ∀ below ∈ (source.document root).root.nodes, Attached source.fileId below := by
  obtain ⟨led, apart, below⟩ := source.attached_convertAll none [] root.children
  rw [forall_mem_nodes]
  refine ⟨⟨rfl, ?_, fun _ => led, ?_, apart⟩, below⟩
  · intro leaf
    rcases leaf with comment | run
    · cases comment
    · cases run
  · intro isAttribute
    cases isAttribute

end Source

end MarkupLint
