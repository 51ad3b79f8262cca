import MarkupLint.Proofs.Contents
import MarkupLint.Proofs.Stretch

/-!
What a grammar promises of a parse tree (`SourceNode.Fits`): every node covers whole
characters and knows its row, children lie inside their parent one after another, and a
literal between braces holds no markup of its own. With the promise come the order of
children as a chain of places (`SourceNode.InOrder`) and the literal of a static value
(`SourceNode.literal?_cases`).
-/
namespace MarkupLint

namespace SourceNode

mutual

/-- A node and the nodes below it. -/
def nodes : SourceNode → List SourceNode
  | mk type span children => mk type span children :: nodesAll children

def nodesAll : List SourceNode → List SourceNode
  | [] => []
  | node :: rest => nodes node ++ nodesAll rest

end

/-- Neither attributes nor text are among the nodes or below them. -/
def Plain (trees : List SourceNode) : Prop :=
  ∀ node ∈ nodesAll trees, node.type ≠ "jsx_attribute" ∧ node.isText = false

instance (trees : List SourceNode) : Decidable (Plain trees) :=
  inferInstanceAs (Decidable (∀ node ∈ nodesAll trees, _))

/-- What a grammar promises of a node in the parse tree of a text: its bytes are whole
characters, its row counts the newlines before it, its children lie inside it one after
another, and a literal between braces holds no markup unless it has substitutions. -/
structure Fits (text : String) (node : SourceNode) : Prop where
  forward : node.span.start ≤ node.span.stop
  starts : IsBoundary text node.span.start
  stops : IsBoundary text node.span.stop
  row : node.span.row = ((Utf8.encode text).take node.span.start).count 10
  inside : ∀ child ∈ node.children,
    node.span.start ≤ child.span.start ∧ child.span.stop ≤ node.span.stop
  ordered : node.children.Pairwise fun before after => before.span.stop ≤ after.span.start
  literals : node.type = "jsx_expression" → ∀ literal ∈ node.children, literal.isLiteral = true →
    literal.children.any (·.type == "template_substitution") = false → Plain literal.children

instance (text : String) (node : SourceNode) : Decidable (node.Fits text) :=
  decidable_of_iff
    (node.span.start ≤ node.span.stop ∧ IsBoundary text node.span.start ∧
      IsBoundary text node.span.stop ∧
      node.span.row = ((Utf8.encode text).take node.span.start).count 10 ∧
      (∀ child ∈ node.children,
        node.span.start ≤ child.span.start ∧ child.span.stop ≤ node.span.stop) ∧
      (node.children.Pairwise fun before after => before.span.stop ≤ after.span.start) ∧
      (node.type = "jsx_expression" → ∀ literal ∈ node.children, literal.isLiteral = true →
        literal.children.any (·.type == "template_substitution") = false →
        Plain literal.children))
    ⟨fun ⟨forward, starts, stops, row, inside, ordered, literals⟩ =>
        ⟨forward, starts, stops, row, inside, ordered, literals⟩,
      fun fits => ⟨fits.forward, fits.starts, fits.stops, fits.row, fits.inside, fits.ordered,
        fits.literals⟩⟩

/-- A parse tree of a text, as far as a grammar promises. -/
def IsParseOf (text : String) (root : SourceNode) : Prop :=
  ∀ node ∈ root.nodes, node.Fits text

instance (text : String) (root : SourceNode) : Decidable (root.IsParseOf text) :=
  inferInstanceAs (Decidable (∀ node ∈ root.nodes, _))

theorem forall_mem_nodes {kept : SourceNode → Prop} {node : SourceNode} :
    (∀ below ∈ node.nodes, kept below) ↔
      kept node ∧ ∀ below ∈ nodesAll node.children, kept below := by
  cases node with
  | mk type span children =>
    rw [nodes, List.forall_mem_cons]
    rfl

theorem forall_mem_nodesAll_cons {kept : SourceNode → Prop} {node : SourceNode}
    {rest : List SourceNode} :
    (∀ below ∈ nodesAll (node :: rest), kept below) ↔
      (∀ below ∈ node.nodes, kept below) ∧ ∀ below ∈ nodesAll rest, kept below := by
  rw [nodesAll, List.forall_mem_append]

/-- What holds of all nodes holds of each tree among them with all that is below it. -/
theorem forall_mem_nodes_of_mem {kept : SourceNode → Prop} {trees : List SourceNode}
    {node : SourceNode} (all : ∀ below ∈ nodesAll trees, kept below) (member : node ∈ trees) :
    ∀ below ∈ node.nodes, kept below := by
  induction trees with
  | nil => cases member
  | cons head rest ih =>
    obtain ⟨first, others⟩ := forall_mem_nodesAll_cons.mp all
    rcases List.mem_cons.mp member with same | later
    · rw [same]
      exact first
    · exact ih others later

theorem forall_mem_nodesAll {kept : SourceNode → Prop} {trees : List SourceNode}
    (each : ∀ node ∈ trees, ∀ below ∈ node.nodes, kept below) :
    ∀ below ∈ nodesAll trees, kept below := by
  induction trees with
  | nil => exact nofun
  | cons node rest ih =>
    obtain ⟨first, others⟩ := List.forall_mem_cons.mp each
    exact forall_mem_nodesAll_cons.mpr ⟨first, ih others⟩

/-- The nodes stand between two places, each where the one before it has ended. -/
def InOrder (hi : Nat) : Nat → List SourceNode → Prop
  | lo, [] => lo ≤ hi
  | lo, node :: rest => lo ≤ node.span.start ∧ InOrder hi node.span.stop rest

theorem inOrder_of_pairwise {lo hi : Nat} {trees : List SourceNode} (room : lo ≤ hi)
    (inside : ∀ node ∈ trees, lo ≤ node.span.start ∧ node.span.stop ≤ hi)
    (ordered : trees.Pairwise fun before after => before.span.stop ≤ after.span.start) :
    InOrder hi lo trees := by
  induction trees generalizing lo with
  | nil => exact room
  | cons head rest ih =>
    obtain ⟨later, orderedRest⟩ := List.pairwise_cons.mp ordered
    obtain ⟨after, before⟩ := inside head List.mem_cons_self
    refine ⟨after, ih before ?_ orderedRest⟩
    intro node member
    exact ⟨later node member, (inside node (List.mem_cons_of_mem _ member)).2⟩

theorem Fits.children_inOrder {text : String} {node : SourceNode} (fits : node.Fits text) :
    InOrder node.span.stop node.span.start node.children :=
  inOrder_of_pairwise fits.forward fits.inside fits.ordered

theorem mem_of_braced? {children : List SourceNode} {literal : SourceNode}
    (braced : braced? children = some literal) :
    children.filter (!·.isComment) = [literal] ∧ literal ∈ children ∧ literal.isLiteral = true ∧
      literal.children.any (·.type == "template_substitution") = false := by
  unfold braced? at braced
  split at braced
  next only filtered =>
    split at braced
    next static =>
      cases braced
      have kept : literal ∈ children.filter (!·.isComment) := by
        rw [filtered]
        exact List.mem_singleton_self literal
      simp only [Bool.and_eq_true, Bool.not_eq_true'] at static
      exact ⟨filtered, List.mem_of_mem_filter kept, static.1, static.2⟩
    next => cases braced
  next => cases braced

/-- A static value is a string by itself or the literal that an expression consists of. -/
theorem literal?_cases {value literal : SourceNode} (found : value.literal? = some literal) :
    (value.type = "string" ∧ literal = value) ∨
      (value.type = "jsx_expression" ∧ braced? value.children = some literal) := by
  unfold literal? at found
  split at found
  next string =>
    cases found
    exact Or.inl ⟨string, rfl⟩
  next =>
    split at found
    next expression => exact Or.inr ⟨expression, found⟩
    next => cases found

theorem kind_of_isComment {node : SourceNode} (comment : node.isComment = true) :
    node.kind = .comment := by
  unfold SourceNode.kind
  rw [if_pos comment]

theorem isComment_or_of_kind_comment {node : SourceNode} (kind : node.kind = .comment) :
    node.isComment = true ∨
      (node.type = "jsx_expression" ∧ ∀ child ∈ node.children, child.isComment = true) := by
  unfold SourceNode.kind at kind
  split at kind
  next comment => exact .inl comment
  next =>
    split at kind
    next expression =>
      split at kind
      next comments =>
        exact .inr ⟨expression, List.all_eq_true.mp ((Bool.and_eq_true _ _).mp comments).2⟩
      next => cases kind
    next =>
      split at kind
      · cases kind
      · split at kind <;> cases kind

theorem kind_of_type_attribute {node : SourceNode} (type : node.type = "jsx_attribute") :
    node.kind = .attribute := by
  simp [SourceNode.kind, SourceNode.isComment, type]

theorem kind_ne_attribute {node : SourceNode} (other : node.type ≠ "jsx_attribute") :
    node.kind ≠ .attribute :=
  fun kind => other (type_of_kind_attribute kind)

end SourceNode

end MarkupLint
