import Mathlib.Data.List.Forall2
import MarkupLint.Proofs.Attachment
import MarkupLint.Proofs.ParseTree
import MarkupLint.Proofs.StackRun

/-!
What is read off an attribute. The attributes of a document are those of its parse tree, one
for one and in the same order, as a grammar puts none where conversion does not look
(`SourceNode.attributesAll_eq_filter`). A value is found if it is static
(`SourceNode.literal?_eq_some_iff`) and comes right after the name: comments may stand behind
it, and around a literal inside braces, but one between name and value hides it. Main
statement: `Parser.attributes_of_parse`.
-/
namespace MarkupLint

namespace SourceNode

/-- The ways a value holds a literal: it is a string, or braces in which, comments apart, there is
nothing but a string or a template without substitutions. -/
inductive Holds (value : SourceNode) : SourceNode → Prop
  | quoted (string : value.type = "string") : Holds value value
  | braced {literal : SourceNode} (expression : value.type = "jsx_expression")
      (only : value.children.filter (!·.isComment) = [literal])
      (isLiteral : literal.type = "string" ∨ literal.type = "template_string")
      (static : ∀ part ∈ literal.children, part.type ≠ "template_substitution") :
      Holds value literal

theorem literal?_eq_some_iff {value literal : SourceNode} :
    value.literal? = some literal ↔ value.Holds literal := by
  constructor
  · intro found
    rcases literal?_cases found with ⟨string, rfl⟩ | ⟨expression, braced⟩
    · exact .quoted string
    · obtain ⟨only, -, isLiteral, static⟩ := mem_of_braced? braced
      simp only [SourceNode.isLiteral, Bool.or_eq_true, beq_iff_eq] at isLiteral
      exact .braced expression only isLiteral (by simpa using static)
  · intro holds
    cases holds with
    | quoted string => rw [literal?, if_pos string]
    | braced expression only isLiteral static =>
      have other : value.type ≠ "string" := by simp [expression]
      have noSubstitution :
          literal.children.any (·.type == "template_substitution") = false := by
        simpa using static
      rw [literal?, if_neg other, if_pos expression, braced?, only]
      simp [SourceNode.isLiteral, isLiteral, noSubstitution]

theorem literal?_eq_none {value : SourceNode} (none : ∀ literal, ¬value.Holds literal) :
    value.literal? = .none :=
  Option.eq_none_iff_forall_not_mem.mpr fun literal found =>
    none literal (literal?_eq_some_iff.mp found)

/-! ### The attributes of a parse tree -/

mutual

/-- The attributes of a parse tree in its order. Comments are not looked into, and neither are
texts, nor names and literals of attributes. -/
def attributes : SourceNode → List SourceNode
  | .mk type span children =>
      match (SourceNode.mk type span children).kind with
      | .comment => []
      | .attribute =>
          .mk type span children ::
            (match children with
              | [] => []
              | _ :: values => attributesOfValues values)
      | _ => attributesAll children

def attributesAll : List SourceNode → List SourceNode
  | [] => []
  | node :: rest =>
      if node.isText then attributesAll rest else attributes node ++ attributesAll rest

def attributesOfValues : List SourceNode → List SourceNode
  | [] => []
  | node :: rest =>
      if node.isLiteral then attributesOfValues rest
      else attributes node ++ attributesOfValues rest

end

theorem attributes_of_comment {node : SourceNode} (kind : node.kind = .comment) :
    node.attributes = [] := by
  cases node
  rw [attributes.eq_def]
  dsimp only
  rw [kind]

theorem attributes_of_attribute {node : SourceNode} (kind : node.kind = .attribute) :
    node.attributes = node :: attributesOfValues node.children.tail := by
  cases node with
  | mk type span children =>
    rw [attributes.eq_def]
    dsimp only
    rw [kind]
    cases children <;> rfl

theorem attributes_of_ne {node : SourceNode} (noComment : node.kind ≠ .comment)
    (noAttribute : node.kind ≠ .attribute) : node.attributes = attributesAll node.children := by
  cases node
  rw [attributes.eq_def]
  dsimp only
  split
  next kind => exact absurd kind noComment
  next kind => exact absurd kind noAttribute
  next => rfl

/-- What a grammar promises of the places of attributes: there is nothing below comments and
texts, and no attribute in the name or in a literal of another one. -/
structure KeepsAttributes (node : SourceNode) : Prop where
  leaf : node.isComment = true ∨ node.isText = true → node.children = []
  name : node.type = "jsx_attribute" → ∀ name ∈ node.children.head?,
    ∀ below ∈ name.nodes, below.type ≠ "jsx_attribute"
  literal : node.type = "jsx_attribute" → ∀ value ∈ node.children.tail, value.isLiteral = true →
    ∀ below ∈ value.nodes, below.type ≠ "jsx_attribute"

instance (node : SourceNode) : Decidable node.KeepsAttributes :=
  decidable_of_iff
    ((node.isComment = true ∨ node.isText = true → node.children.isEmpty = true) ∧
      (node.type = "jsx_attribute" → ∀ name ∈ node.children.head?,
        ∀ below ∈ name.nodes, below.type ≠ "jsx_attribute") ∧
      (node.type = "jsx_attribute" → ∀ value ∈ node.children.tail, value.isLiteral = true →
        ∀ below ∈ value.nodes, below.type ≠ "jsx_attribute"))
    ⟨fun ⟨leaf, name, literal⟩ =>
        ⟨fun isLeaf => List.isEmpty_iff.mp (leaf isLeaf), name, literal⟩,
      fun keeps => ⟨fun isLeaf => List.isEmpty_iff.mpr (keeps.leaf isLeaf), keeps.name,
        keeps.literal⟩⟩

theorem filter_eq_nil_of_bare {nodes : List SourceNode}
    (bare : ∀ below ∈ nodes, below.type ≠ "jsx_attribute") :
    nodes.filter (·.type == "jsx_attribute") = [] :=
  List.filter_eq_nil_iff.mpr fun below member => by simp [bare below member]

theorem KeepsAttributes.bare_of_leaf {node : SourceNode} (keeps : node.KeepsAttributes)
    (leaf : node.isComment = true ∨ node.isText = true) :
    ∀ below ∈ node.nodes, below.type ≠ "jsx_attribute" := by
  have childless := keeps.leaf leaf
  rw [forall_mem_nodes, childless]
  refine ⟨?_, nofun⟩
  rcases leaf with comment | text
  · simp only [isComment, beq_iff_eq] at comment
    simp [comment]
  · simp only [isText, Bool.or_eq_true, beq_iff_eq] at text
    rcases text with type | type <;> simp [type]

/-- Nothing below a comment is an attribute, braces around comments being one too. -/
theorem bare_of_kind_comment {node : SourceNode} (kind : node.kind = .comment)
    (keeps : ∀ below ∈ node.nodes, below.KeepsAttributes) :
    ∀ below ∈ node.nodes, below.type ≠ "jsx_attribute" := by
  obtain ⟨own, inside⟩ := forall_mem_nodes.mp keeps
  rcases isComment_or_of_kind_comment kind with comment | ⟨expression, comments⟩
  · exact own.bare_of_leaf (.inl comment)
  · rw [forall_mem_nodes]
    refine ⟨by simp [expression], forall_mem_nodesAll fun child member => ?_⟩
    have keepsChild := forall_mem_nodes_of_mem inside member
    exact (forall_mem_nodes.mp keepsChild).1.bare_of_leaf (.inl (comments child member))

mutual

/-- Where the grammar keeps its promise, no attribute is left out. -/
theorem attributes_eq_filter :
    (node : SourceNode) → (∀ below ∈ node.nodes, below.KeepsAttributes) →
      node.attributes = node.nodes.filter (·.type == "jsx_attribute")
  | .mk type span children, keeps => by
    obtain ⟨own, inside⟩ := forall_mem_nodes.mp keeps
    by_cases comment : (SourceNode.mk type span children).kind = .comment
    · rw [attributes_of_comment comment,
        filter_eq_nil_of_bare (bare_of_kind_comment comment keeps)]
    · by_cases isAttribute : (SourceNode.mk type span children).kind = .attribute
      · have isType := type_of_kind_attribute isAttribute
        rw [attributes_of_attribute isAttribute, nodes,
          List.filter_cons_of_pos (by simpa using isType)]
        congr 1
        match children with
        | [] => rfl
        | name :: values =>
          -- conversion starts at the second child, and the first holds no attribute
          have others := (forall_mem_nodesAll_cons.mp inside).2
          rw [nodesAll, List.filter_append, filter_eq_nil_of_bare (own.name isType name rfl),
            List.nil_append]
          exact attributesOfValues_eq_filter values others (own.literal isType)
      · have other : (SourceNode.mk type span children).type ≠ "jsx_attribute" :=
          fun same => isAttribute (kind_of_type_attribute same)
        rw [attributes_of_ne comment isAttribute, nodes,
          List.filter_cons_of_neg (by simpa using other)]
        exact attributesAll_eq_filter children inside

theorem attributesAll_eq_filter :
    (trees : List SourceNode) → (∀ below ∈ nodesAll trees, below.KeepsAttributes) →
      attributesAll trees = (nodesAll trees).filter (·.type == "jsx_attribute")
  | [], _ => rfl
  | node :: rest, keeps => by
    obtain ⟨first, others⟩ := forall_mem_nodesAll_cons.mp keeps
    rw [attributesAll, nodesAll, List.filter_append, ← attributesAll_eq_filter rest others]
    split
    next text =>
      have own := (forall_mem_nodes.mp first).1
      rw [filter_eq_nil_of_bare (own.bare_of_leaf (.inr text)), List.nil_append]
    next => rw [attributes_eq_filter node first]

theorem attributesOfValues_eq_filter :
    (values : List SourceNode) → (∀ below ∈ nodesAll values, below.KeepsAttributes) →
      (∀ value ∈ values, value.isLiteral = true →
        ∀ below ∈ value.nodes, below.type ≠ "jsx_attribute") →
      attributesOfValues values = (nodesAll values).filter (·.type == "jsx_attribute")
  | [], _, _ => rfl
  | node :: rest, keeps, literals => by
    obtain ⟨first, others⟩ := forall_mem_nodesAll_cons.mp keeps
    obtain ⟨own, further⟩ := List.forall_mem_cons.mp literals
    rw [attributesOfValues, nodesAll, List.filter_append,
      ← attributesOfValues_eq_filter rest others further]
    split
    next isLiteral => rw [filter_eq_nil_of_bare (own isLiteral), List.nil_append]
    next => rw [attributes_eq_filter node first]

end

end SourceNode

namespace Node

/-- What the attributes among nodes and below them say, in document order. -/
def attributes (nodes : List Node) : List Info :=
  (infosAll nodes).filter (·.kind == .attribute)

theorem attributes_append (front back : List Node) :
    attributes (front ++ back) = attributes front ++ attributes back := by
  rw [attributes, infosAll_append, List.filter_append, attributes, attributes]

theorem attributes_mk (info : Info) (children : List Node) :
    attributes [.mk info children] =
      if info.kind = .attribute then info :: attributes children else attributes children := by
  rw [attributes, infosAll, infosAll, infos, List.append_nil, List.filter_cons, attributes]
  by_cases isAttribute : info.kind = .attribute <;> simp [isAttribute]

end Node

namespace Source

open SourceNode (attributesAll attributesOfValues)

/-- What the attribute of a document says of the parse tree that it was built from. A value
that holds a literal is found right after the name, and lost behind a comment; without such a
value there is none. -/
structure Builds (source : Source) (node : SourceNode) (built : Info) : Prop where
  text : built.text = source.textOf node.span
  line : built.line = node.span.line
  name : ∀ name ∈ node.children.head?, built.name = some (source.textOf name.span)
  found : ∀ name rest value literal, node.children = name :: rest →
    rest.filter (!·.isComment) = [value] → rest.head? = some value → value.Holds literal →
    built.value = some (source.textOf literal.span) ∧ built.valueLine = some literal.span.line
  lost : ∀ name comment rest, node.children = name :: comment :: rest → comment.isComment = true →
    built.value = none ∧ built.valueLine = none
  dynamic : ∀ name rest, node.children = name :: rest →
    (∀ value ∈ rest.filter (!·.isComment), ∀ literal, ¬value.Holds literal) →
    built.value = none ∧ built.valueLine = none

variable (source : Source)

theorem not_holds_of_isComment {comment : SourceNode} (isComment : comment.isComment = true) :
    ∀ literal, ¬comment.Holds literal := by
  rw [SourceNode.isComment, beq_iff_eq] at isComment
  intro literal holds
  cases holds with
  | quoted string => simp [isComment] at string
  | braced expression => simp [isComment] at expression

/-- The name is what comes first, and the value what comes second. -/
theorem info_of_attribute {node : SourceNode} (kind : node.kind = .attribute) :
    (source.info node).text = source.textOf node.span ∧
      (source.info node).line = node.span.line ∧
      (source.info node).name = node.children.head?.map (source.textOf ·.span) ∧
      (source.info node).value =
        ((node.children[1]?).bind SourceNode.literal?).map (source.textOf ·.span) ∧
      (source.info node).valueLine =
        ((node.children[1]?).bind SourceNode.literal?).map (·.span.line) := by
  rw [Source.info, if_pos kind]
  exact ⟨rfl, rfl, rfl, Option.map_map _ _ _, Option.map_map _ _ _⟩

theorem builds_info {node : SourceNode} (kind : node.kind = .attribute) :
    source.Builds node (source.info node) := by
  obtain ⟨text, line, name, value, valueLine⟩ := source.info_of_attribute kind
  have absent (nothing : (node.children[1]?).bind SourceNode.literal? = none) :
      (source.info node).value = none ∧ (source.info node).valueLine = none := by
    rw [value, valueLine, nothing]
    exact ⟨rfl, rfl⟩
  refine ⟨text, line, ?_, ?_, ?_, ?_⟩
  · intro first isFirst
    rw [name, Option.mem_def.mp isFirst, Option.map_some]
  · intro first rest second literal parts only next holds
    have stands : node.children[1]? = some second := by
      rw [parts, ← next, List.head?_eq_getElem?]
      rfl
    rw [value, valueLine, stands, Option.bind_some, SourceNode.literal?_eq_some_iff.mpr holds]
    exact ⟨rfl, rfl⟩
  · intro first comment rest parts isComment
    refine absent ?_
    rw [parts]
    exact SourceNode.literal?_eq_none (not_holds_of_isComment isComment)
  · intro first rest parts none
    refine absent ?_
    rw [parts]
    cases rest with
    | nil => rfl
    | cons next rest =>
      refine SourceNode.literal?_eq_none ?_
      -- what stands in second place is either left out of the hypothesis or covered by it
      cases comment : next.isComment with
      | true => exact not_holds_of_isComment comment
      | false => exact none next (List.mem_filter.mpr ⟨.head _, by simp [comment]⟩)

/-- Comments before an attribute change nothing of what is read off it. -/
theorem Builds.led {node : SourceNode} {info : Info} (builds : source.Builds node info)
    (comments : List String) : source.Builds node (led comments info) := by
  unfold Source.led
  split
  next => exact builds
  next => exact ⟨builds.text, builds.line, builds.name, builds.found, builds.lost, builds.dynamic⟩

/-- A run that is closed brings no attribute. -/
theorem attributes_closeRun (comments : List String) (pieces : Option (Span × Span)) :
    Node.attributes (closeRun comments (source.run? pieces)).1 = [] := by
  cases pieces with
  | none => rfl
  | some pieces =>
    have run : (led comments (source.runInfo pieces.1 pieces.2)).kind ≠ .attribute := by
      rw [led_kind]
      exact nofun
    exact (Node.attributes_mk _ _).trans (if_neg run)

mutual

/-- The attributes that conversion makes are built from those of the parse tree, in its order. -/
theorem builds_convert (comments : List String) :
    (node : SourceNode) →
      List.Forall₂ source.Builds node.attributes (Node.attributes [source.convert comments node])
  | .mk type span children => by
    have kind : (led comments (source.info (.mk type span children))).kind =
        (SourceNode.mk type span children).kind :=
      (led_kind _ _).trans (source.info_kind _)
    by_cases comment : (SourceNode.mk type span children).kind = .comment
    · have noAttribute :
          (led comments (source.info (.mk type span children))).kind ≠ .attribute := by
        rw [kind, comment]
        exact nofun
      rw [convert_comment _ comments comment, Node.attributes_mk, if_neg noAttribute,
        SourceNode.attributes_of_comment comment]
      exact .nil
    · by_cases isAttribute : (SourceNode.mk type span children).kind = .attribute
      · have values : List.Forall₂ source.Builds (attributesOfValues children.tail)
            (Node.attributes (source.convertValues children.tail)) := by
          match children with
          | [] => exact .nil
          | _ :: values => exact builds_convertValues values
        rw [convert_attribute _ comments isAttribute, Node.attributes_mk,
          if_pos (kind.trans isAttribute), SourceNode.attributes_of_attribute isAttribute]
        exact .cons ((source.builds_info isAttribute).led source comments) values
      · rw [convert_of_ne _ comments comment isAttribute, Node.attributes_mk,
          if_neg (kind ▸ isAttribute), SourceNode.attributes_of_ne comment isAttribute]
        exact builds_convertAll none [] children

theorem builds_convertAll (pieces : Option (Span × Span)) (comments : List String) :
    (trees : List SourceNode) →
      List.Forall₂ source.Builds (attributesAll trees)
        (Node.attributes (source.convertAll pieces comments trees))
  | [] => by
    rw [convertAll, attributes_closeRun]
    exact .nil
  | node :: rest => by
    rw [convertAll, attributesAll]
    split
    · exact builds_convertAll (extend pieces node.span) comments rest
    · have others := builds_convertAll none
        (leadingAfter (closeRun comments (source.run? pieces)).2 (source.info node)) rest
      dsimp only
      rw [Node.attributes_append, attributes_closeRun, List.nil_append, ← List.singleton_append,
        Node.attributes_append]
      exact List.rel_append (builds_convert _ node) others

theorem builds_convertValues :
    (values : List SourceNode) →
      List.Forall₂ source.Builds (attributesOfValues values)
        (Node.attributes (source.convertValues values))
  | [] => .nil
  | node :: rest => by
    rw [convertValues, attributesOfValues]
    split
    · exact builds_convertValues rest
    · rw [← List.singleton_append, Node.attributes_append]
      exact List.rel_append (builds_convert [] node) (builds_convertValues rest)

end

end Source

/-- The attributes of a document are built from those of the parse tree, one from each and in
the same order. -/
theorem Parser.attributes_of_parse (parser : Parser) (source : Source) (root : SourceNode)
    (keeps : ∀ node ∈ SourceNode.nodesAll root.children, node.KeepsAttributes) :
    ∃ document, (parser.parse source (.tree root)).2.value = .ok document ∧
      List.Forall₂ source.Builds
        ((SourceNode.nodesAll root.children).filter (·.type == "jsx_attribute"))
        (Node.attributes document.root.children) := by
  refine ⟨source.document root, parser.value_parse_tree source root, ?_⟩
  rw [← SourceNode.attributesAll_eq_filter root.children keeps]
  exact source.builds_convertAll none [] root.children

/-- Comments on both sides of a literal in braces do not hide it. -/
theorem Parser.attributes_of_parse_comments_around :
    let source : Source := ⟨"App.tsx", Utf8.encode "<img alt=\x7b/* a */ \"x\" /* b */\x7d />"⟩
    let literal : SourceNode :=
      .mk "string" ⟨18, 21, 0⟩ [.mk "string_fragment" ⟨19, 20, 0⟩ []]
    let value : SourceNode :=
      .mk "jsx_expression" ⟨9, 30, 0⟩
        [.mk "comment" ⟨10, 17, 0⟩ [], literal, .mk "comment" ⟨22, 29, 0⟩ []]
    let alt : SourceNode :=
      .mk "jsx_attribute" ⟨5, 30, 0⟩ [.mk "property_identifier" ⟨5, 8, 0⟩ [], value]
    let root : SourceNode :=
      .mk "program" ⟨0, 33, 0⟩
        [.mk "jsx_self_closing_element" ⟨0, 33, 0⟩ [.mk "identifier" ⟨1, 4, 0⟩ [], alt]]
    (∀ node ∈ SourceNode.nodesAll root.children, node.KeepsAttributes) ∧
      ∃ document, (Parser.parse {} source (.tree root)).2.value = .ok document ∧
        ∃ built, Node.attributes document.root.children = [built] ∧
          built.name = some "alt" ∧ built.value = some "\"x\"" ∧ built.valueLine = some 1 := by
  intro source literal value alt root
  have keeps : ∀ node ∈ SourceNode.nodesAll root.children, node.KeepsAttributes := by
    decide +kernel
  obtain ⟨document, parsed, builds⟩ := Parser.attributes_of_parse {} source root keeps
  have attributes :
      (SourceNode.nodesAll root.children).filter (·.type == "jsx_attribute") = [alt] := by
    rfl
  rw [attributes] at builds
  cases made : Node.attributes document.root.children with
  | nil => rw [made] at builds; cases builds
  | cons built rest =>
    rw [made] at builds
    obtain ⟨own, none⟩ := List.forall₂_cons.mp builds
    cases none
    have holds : value.Holds literal := .braced rfl rfl (.inl rfl) (by decide)
    have nameText : source.textOf ⟨5, 8, 0⟩ = "alt" := by decide +kernel
    have literalText : source.textOf literal.span = "\"x\"" := by decide +kernel
    obtain ⟨text, line⟩ := own.found _ [value] value literal rfl rfl rfl holds
    exact ⟨keeps, document, parsed, built, made, nameText ▸ own.name _ rfl,
      literalText ▸ text, line⟩

/-- A comment between name and value hides the value, though nothing else stands there. -/
theorem Parser.value_eq_none_of_comment_before :
    let source : Source :=
      ⟨"App.tsx", Utf8.encode "const a = <img alt=/* note */\"Hello\" />;\n"⟩
    let name : SourceNode := .mk "property_identifier" ⟨15, 18, 0⟩ []
    let literal : SourceNode :=
      .mk "string" ⟨29, 36, 0⟩ [.mk "string_fragment" ⟨30, 35, 0⟩ []]
    let alt : SourceNode :=
      .mk "jsx_attribute" ⟨15, 36, 0⟩ [name, .mk "comment" ⟨19, 29, 0⟩ [], literal]
    let image : SourceNode :=
      .mk "jsx_self_closing_element" ⟨10, 39, 0⟩ [.mk "identifier" ⟨11, 14, 0⟩ [], alt]
    let root : SourceNode :=
      .mk "program" ⟨0, 41, 0⟩
        [.mk "lexical_declaration" ⟨0, 40, 0⟩
          [.mk "variable_declarator" ⟨6, 39, 0⟩ [.mk "identifier" ⟨6, 7, 0⟩ [], image]]]
    alt.children.filter (!·.isComment) = [name, literal] ∧ literal.Holds literal ∧
      ∃ document, (Parser.parse {} source (.tree root)).2.value = .ok document ∧
        (Node.attributes document.root.children).map (fun built => (built.name, built.value)) =
          [(some "alt", none)] ∧
        document.segments { rules := { target := ["alt"] } } = [] := by
  intro source name literal alt image root
  refine ⟨rfl, .quoted rfl, _, Parser.value_parse_tree {} source root, ?_, ?_⟩
  · decide +kernel
  · decide +kernel

end MarkupLint
