import MarkupLint.Yaml.Node

/-!
Merging of mappings: a pair under the key `<<` gives way to the pairs of the mapping that is
its value, or of each mapping of a list.  Of several mappings the later ones come first, and
the pairs of the mapping itself come last, so that nearer pairs win where a key is repeated.

A mapping is merged once in the table, where it may be shared and may be merged into itself:
each merge key is taken out before the mappings under it are looked at, so that there is an
end to it.
-/
namespace MarkupLint.Yaml

namespace Graph

def node (g : Graph) (id : Nat) : Node :=
  g.nodes.getD id (.scalar .null "")

def put (g : Graph) (id : Nat) (node : Node) : Graph :=
  { g with nodes := g.nodes.setIfInBounds id node }

/-- The pairs of a mapping. -/
def pairs? (g : Graph) (id : Nat) : Option (List (Nat × Nat)) :=
  match g.node id with
  | .mapping _ pairs => some pairs
  | _ => none

def setPairs (g : Graph) (id : Nat) (pairs : List (Nat × Nat)) : Graph :=
  match g.node id with
  | .mapping tag _ => g.put id (.mapping tag pairs)
  | _ => g

def tagOf (g : Graph) (id : Nat) : Tag :=
  match g.node id with
  | .scalar tag _ | .sequence tag _ | .mapping tag _ => tag

def setTag (g : Graph) (id : Nat) (tag : Tag) : Graph :=
  match g.node id with
  | .scalar _ text => g.put id (.scalar tag text)
  | .sequence _ items => g.put id (.sequence tag items)
  | .mapping _ pairs => g.put id (.mapping tag pairs)

/-- A lone equals sign as a key is text. -/
def keysAsText (g : Graph) : List (Nat × Nat) → Graph
  | [] => g
  | (key, _) :: rest =>
      keysAsText (if g.tagOf key = .default then g.setTag key .str else g) rest

/-- The pairs before the first merge key, what stands under that key, and the pairs after
it. -/
def splitAtMerge (g : Graph) :
    List (Nat × Nat) → Option (List (Nat × Nat) × Nat × List (Nat × Nat))
  | [] => none
  | (key, value) :: rest =>
      if g.tagOf key = .merge then some ([], value, rest)
      else (splitAtMerge g rest).map fun (before, under, after) =>
        ((key, value) :: before, under, after)

mutual

/-- Merge into a mapping; `merged` holds the pairs found so far. -/
def mergeInto : Nat → Nat → List (Nat × Nat) → Graph → Except Fault Graph
  | 0, _, _, _ => .error .malformed
  | fuel + 1, id, merged, g =>
      let pairs := (g.pairs? id).getD []
      match g.splitAtMerge pairs with
      | none => .ok ((g.keysAsText pairs).setPairs id (merged ++ pairs))
      | some (before, under, after) => do
          let (more, g) ← pairsUnder fuel under (g.setPairs id (before ++ after))
          mergeInto fuel id (merged ++ more) g

/-- The pairs of what stands under a merge key. -/
def pairsUnder : Nat → Nat → Graph → Except Fault (List (Nat × Nat) × Graph)
  | 0, _, _ => .error .malformed
  | fuel + 1, under, g =>
      match g.node under with
      | .mapping _ _ => pairsOf fuel [under] g
      | .sequence _ items => pairsOf fuel items g
      | .scalar _ _ => .error .malformed

/-- The pairs of several mappings, those of the later ones first. -/
def pairsOf : Nat → List Nat → Graph → Except Fault (List (Nat × Nat) × Graph)
  | 0, _, _ => .error .malformed
  | _ + 1, [], g => .ok ([], g)
  | fuel + 1, id :: rest, g =>
      match g.pairs? id with
      | none => .error .malformed
      | some _ => do
          let g ← mergeInto fuel id [] g
          let own := (g.pairs? id).getD []
          let (others, g) ← pairsOf fuel rest g
          return (others ++ own, g)

end

/-- How many pairs the mappings of the table have. -/
def pairCount (g : Graph) : Nat :=
  g.nodes.foldl (fun count node =>
    match node with
    | .mapping _ pairs => count + pairs.length
    | _ => count) 0

/-- How many items the sequences of the table have. -/
def itemCount (g : Graph) : Nat :=
  g.nodes.foldl (fun count node =>
    match node with
    | .sequence _ items => count + items.length
    | _ => count) 0

/-- A mapping's pairs with all that is merged into it.  Between two steps that take a merge
key out there are no more than a list has items. -/
def merge (g : Graph) (id : Nat) : Except Fault Graph :=
  g.mergeInto ((g.pairCount + 1) * (g.itemCount + 5)) id []

end Graph

end MarkupLint.Yaml
