import MarkupLint.Markup.Segment

/-!
Order of a traversal. The stack of `Visit.walk` and the recursion of `Visit.descendants`
visit the same nodes in the same order, so whatever is said of a document can be said
by recursion over its tree.
-/
namespace MarkupLint

namespace Visit

theorem walk_append (above below : List Visit) :
    walk (above ++ below) = walk above ++ walk below := by
  induction above using walk.induct with
  | case1 => simp [walk]
  | case2 visit stack ih =>
    rw [List.cons_append, walk, walk, List.cons_append, ← List.append_assoc, ih]

mutual

theorem walk_ofChildren : (node : Node) → walk (ofChildren node) = descendants node
  | .mk _ children => by
    rw [descendants]
    exact walk_row children [] children

theorem walk_row (siblings before : List Node) :
    (nodes : List Node) → walk (row siblings before nodes) = descendantsFrom siblings before nodes
  | [] => by simp [row, walk, descendantsFrom]
  | node :: rest => by
    rw [row, walk, walk_append, walk_ofChildren node, walk_row siblings (node :: before) rest,
      descendantsFrom]

end

end Visit

/-- A document is visited in the order of its tree. -/
theorem Document.visits_eq_descendants (document : Document) :
    document.visits = Visit.descendants document.root :=
  Visit.walk_ofChildren document.root

namespace Node

mutual

/-- What a node and the nodes below it say, in document order. -/
def infos : Node → List Info
  | mk info children => info :: infosAll children

def infosAll : List Node → List Info
  | [] => []
  | node :: rest => infos node ++ infosAll rest

end

theorem infosAll_append (front back : List Node) :
    infosAll (front ++ back) = infosAll front ++ infosAll back := by
  induction front with
  | nil => rfl
  | cons node rest ih => rw [List.cons_append, infosAll, infosAll, ih, List.append_assoc]

end Node

mutual

theorem Visit.map_info_descendants :
    (node : Node) → (Visit.descendants node).map Visit.info = Node.infosAll node.children
  | .mk _ children => by
    rw [Visit.descendants]
    exact Visit.map_info_descendantsFrom children [] children

theorem Visit.map_info_descendantsFrom (siblings before : List Node) :
    (nodes : List Node) →
      (Visit.descendantsFrom siblings before nodes).map Visit.info = Node.infosAll nodes
  | [] => rfl
  | .mk info children :: rest => by
    rw [Visit.descendantsFrom, List.map_cons, List.map_append,
      Visit.map_info_descendants (.mk info children),
      Visit.map_info_descendantsFrom siblings (.mk info children :: before) rest,
      Node.infosAll, Node.infos, List.cons_append]
    rfl

end

end MarkupLint
