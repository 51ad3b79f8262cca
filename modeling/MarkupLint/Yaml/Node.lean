import MarkupLint.Yaml.Tag
import MarkupLint.Yaml.Time
import MarkupLint.Yaml.Token

/-!
The nodes of a YAML document, in a table.  An alias stands for the very node that carries its
anchor, so nodes are known by their numbers in the table: one may occur in several places, and
a collection even inside itself.
-/
namespace MarkupLint.Yaml

inductive Node where
  | scalar (tag : Tag) (text : String)
  | sequence (tag : Tag) (items : List Nat)
  | mapping (tag : Tag) (pairs : List (Nat × Nat))
  deriving DecidableEq, Repr, Inhabited

/-- The nodes of a document and which of them is the outermost. -/
structure Graph where
  nodes : Array Node
  root : Nat
  deriving Repr

/-- What a scalar is by its spelling, taken as a whole. -/
def Tag.ofWhole? (text : List Char) : Option Tag :=
  let word := String.ofList text
  if Plain.nullWords.contains word then some .null
  else if Plain.truthWords.contains word || Plain.untruthWords.contains word then some .bool
  else if Plain.isFloat text then some .float
  else if Plain.isInt text then some .int
  else if word = "<<" then some .merge
  else if Time.isPlain text then some .time
  else if word = "=" then some .default
  else if Plain.reserved.contains word then some (.other word)
  else none

/-- What a scalar is by its spelling; a newline at its end does not count. -/
def Tag.ofPlain (text : String) : Tag :=
  let chars := text.toList
  let ended := if 1 < chars.length && chars.getLast? == some '\n' then
      Tag.ofWhole? chars.dropLast
    else none
  ((Tag.ofWhole? chars).or ended).getD .str

/-- Where reading stands: the tokens to come and the fault after them, if any; the handles
of tags; the nodes so far, those of open collections being empty; and the anchors. -/
structure Progress where
  tokens : List Token
  fault : Option Fault
  handles : List (String × String) := []
  nodes : Array Node := #[]
  anchors : List (String × Nat) := []

namespace Progress

/-- The next token; none at the end of the text. -/
def peek (r : Progress) : Except Fault (Option Token) :=
  match r.tokens with
  | token :: _ => .ok (some token)
  | [] =>
      match r.fault with
      | some fault => .error fault
      | none => .ok none

def drop (r : Progress) : Progress :=
  { r with tokens := r.tokens.drop 1 }

/-- Whether one of some tokens comes next. -/
def isAt (r : Progress) (tokens : List Token) : Except Fault Bool := do
  match ← r.peek with
  | some token => return tokens.contains token
  | none => return false

def expect (r : Progress) (token : Token) : Except Fault Progress := do
  if ← r.isAt [token] then return r.drop else throw .malformed

/-- Put a node into the table; the answer is its number. -/
def alloc (r : Progress) (node : Node) : Nat × Progress :=
  (r.nodes.size, { r with nodes := r.nodes.push node })

/-- Put a node in the place of another. -/
def put (r : Progress) (id : Nat) (node : Node) : Progress :=
  { r with nodes := r.nodes.setIfInBounds id node }

/-- Declare the anchor of a node; it must be new. -/
def declare (r : Progress) (anchor : Option String) (id : Nat) : Except Fault Progress :=
  match anchor with
  | none => .ok r
  | some name =>
      if (r.anchors.lookup name).isSome then .error .malformed
      else .ok { r with anchors := (name, id) :: r.anchors }

/-- A node that is left out. -/
def allocEmpty (r : Progress) : Nat × Progress :=
  r.alloc (.scalar .null "")

/-- A scalar with its anchor. -/
def addScalar (r : Progress) (anchor : Option String) (tag : Tag) (text : String) :
    Except Fault (Nat × Progress) := do
  let (id, r) := r.alloc (.scalar tag text)
  return (id, ← r.declare anchor id)

/-- A collection whose content is still to be read. -/
def openNode (r : Progress) (anchor : Option String) : Except Fault (Nat × Progress) := do
  let (id, r) := r.allocEmpty
  return (id, ← r.declare anchor id)

end Progress

/-! ### Anchors and tags -/

/-- What stands before a node's content. -/
structure Properties where
  anchor : Option String := none
  tag : Option String := none
  deriving DecidableEq, Repr

def anchorAt (r : Progress) : Except Fault (Option String × Progress) := do
  match ← r.peek with
  | some (.anchor name) => return (some name, r.drop)
  | _ => return (none, r)

def tagAt (r : Progress) : Except Fault (Option (Option String × String) × Progress) := do
  match ← r.peek with
  | some (.tag handle suffix) => return (some (handle, suffix), r.drop)
  | _ => return (none, r)

/-- The full name of a tag. -/
def tagName (r : Progress) : Option (Option String × String) → Except Fault (Option String)
  | none => .ok none
  | some (none, suffix) => .ok (some suffix)
  | some (some handle, suffix) =>
      match r.handles.lookup handle with
      | some expansion => .ok (some (expansion ++ suffix))
      | none => .error .malformed

/-- An anchor and a tag, in either order. -/
def properties (r : Progress) : Except Fault (Properties × Progress) := do
  let (before, r) ← anchorAt r
  let (tag, r) ← tagAt r
  let (anchor, r) ← if before.isSome || tag.isNone then pure (before, r) else anchorAt r
  return (⟨anchor, ← tagName r tag⟩, r)

/-- The tag of a collection: the usual one unless another is given. -/
def collectionTag (given : Option String) (usual : Tag) : Tag :=
  match given with
  | none => usual
  | some "!" => usual
  | some name => Tag.ofName name

/-- The tag of a scalar: a plain one goes by its spelling, as does any under a lone
exclamation mark. -/
def scalarTag (given : Option String) (text : String) (plain : Bool) : Tag :=
  match given with
  | none => if plain then Tag.ofPlain text else .str
  | some "!" => Tag.ofPlain text
  | some name => Tag.ofName name

/-! ### Grammar -/

/-- Where a node stands: in a block collection, which block collections may follow; as the
value of a key, where a sequence needs no indentation; or in a flow collection. -/
inductive Place where
  | block
  | ofKey
  | flow
  deriving DecidableEq, Repr

mutual

/-- A node; the answer is its number. -/
def node : Nat → Place → Progress → Except Fault (Nat × Progress)
  | 0, _, _ => .error .malformed
  | fuel + 1, place, start => do
      match ← start.peek with
      | some (.alias name) =>
          match start.anchors.lookup name with
          | some id => return (id, start.drop)
          | none => throw .malformed
      | _ =>
          let (given, r) ← properties start
          match ← r.peek with
          | some (.scalar text plain) =>
              r.drop.addScalar given.anchor (scalarTag given.tag text plain) text
          | some .flowSequence =>
              let (id, r) ← r.drop.openNode given.anchor
              let (items, r) ← flowItems fuel true r
              return (id, r.put id (.sequence (collectionTag given.tag .sequence) items))
          | some .flowMapping =>
              let (id, r) ← r.drop.openNode given.anchor
              let (pairs, r) ← flowPairs fuel true r
              return (id, r.put id (.mapping (collectionTag given.tag .mapping) pairs))
          | some .blockSequence =>
              if place = .flow then bare given r
              else
                let (id, r) ← r.drop.openNode given.anchor
                let (items, r) ← blockItems fuel r
                return (id, r.put id (.sequence (collectionTag given.tag .sequence) items))
          | some .blockMapping =>
              if place = .flow then bare given r
              else
                let (id, r) ← r.drop.openNode given.anchor
                let (pairs, r) ← blockPairs fuel r
                return (id, r.put id (.mapping (collectionTag given.tag .mapping) pairs))
          | some .blockEntry =>
              if place = .ofKey then
                let (id, r) ← r.openNode given.anchor
                let (items, r) ← flatItems fuel r
                return (id, r.put id (.sequence (collectionTag given.tag .sequence) items))
              else bare given r
          | _ => bare given r

/-- A node without content, which needs an anchor or a tag. -/
def bare (given : Properties) (r : Progress) : Except Fault (Nat × Progress) :=
  if given = {} then .error .malformed
  else r.addScalar given.anchor (scalarTag given.tag "" true) ""

/-- Items of an indented sequence, up to its end. -/
def blockItems : Nat → Progress → Except Fault (List Nat × Progress)
  | 0, _ => .error .malformed
  | fuel + 1, r => do
      if ← r.isAt [.blockEntry] then
        let r := r.drop
        let (item, r) ← if ← r.isAt [.blockEntry, .blockEnd] then pure r.allocEmpty
          else node fuel .block r
        let (items, r) ← blockItems fuel r
        return (item :: items, r)
      else return ([], ← r.expect .blockEnd)

/-- Items of a sequence that is not indented under its key. -/
def flatItems : Nat → Progress → Except Fault (List Nat × Progress)
  | 0, _ => .error .malformed
  | fuel + 1, r => do
      if ← r.isAt [.blockEntry] then
        let r := r.drop
        let (item, r) ← if ← r.isAt [.blockEntry, .key, .value, .blockEnd] then pure r.allocEmpty
          else node fuel .block r
        let (items, r) ← flatItems fuel r
        return (item :: items, r)
      else return ([], r)

/-- A key or a value of a block mapping, which may be left out. -/
def blockPart : Nat → Progress → Except Fault (Nat × Progress)
  | 0, _ => .error .malformed
  | fuel + 1, r => do
      if ← r.isAt [.key, .value, .blockEnd] then return r.allocEmpty else node fuel .ofKey r

def blockPairs : Nat → Progress → Except Fault (List (Nat × Nat) × Progress)
  | 0, _ => .error .malformed
  | fuel + 1, r => do
      if ← r.isAt [.key] then
        let (key, r) ← blockPart fuel r.drop
        let (value, r) ← if ← r.isAt [.value] then blockPart fuel r.drop else pure r.allocEmpty
        let (pairs, r) ← blockPairs fuel r
        return ((key, value) :: pairs, r)
      else return ([], ← r.expect .blockEnd)

/-- A key or a value in a flow collection, which may be left out before one of some tokens. -/
def flowPart : Nat → List Token → Progress → Except Fault (Nat × Progress)
  | 0, _, _ => .error .malformed
  | fuel + 1, ends, r => do
      if ← r.isAt ends then return r.allocEmpty else node fuel .flow r

/-- The value after a key in a flow collection, if a colon comes. -/
def flowValue : Nat → Token → Progress → Except Fault (Nat × Progress)
  | 0, _, _ => .error .malformed
  | fuel + 1, last, r => do
      if ← r.isAt [.value] then flowPart fuel [.flowEntry, last] r.drop else return r.allocEmpty

/-- Items of a flow sequence; a pair among them is a mapping of its own. -/
def flowItems : Nat → Bool → Progress → Except Fault (List Nat × Progress)
  | 0, _, _ => .error .malformed
  | fuel + 1, first, r => do
      if ← r.isAt [.flowSequenceEnd] then return ([], r.drop)
      let r ← if first then pure r else r.expect .flowEntry
      if ← r.isAt [.flowSequenceEnd] then return ([], r.drop)
      let (item, r) ← if ← r.isAt [.key] then do
          let (id, r) := r.drop.allocEmpty
          let (key, r) ← flowPart fuel [.value, .flowEntry, .flowSequenceEnd] r
          let (value, r) ← flowValue fuel .flowSequenceEnd r
          pure (id, r.put id (.mapping .mapping [(key, value)]))
        else node fuel .flow r
      let (items, r) ← flowItems fuel false r
      return (item :: items, r)

def flowPairs : Nat → Bool → Progress → Except Fault (List (Nat × Nat) × Progress)
  | 0, _, _ => .error .malformed
  | fuel + 1, first, r => do
      if ← r.isAt [.flowMappingEnd] then return ([], r.drop)
      let r ← if first then pure r else r.expect .flowEntry
      if ← r.isAt [.flowMappingEnd] then return ([], r.drop)
      let (pair, r) ← if ← r.isAt [.key] then do
          let (key, r) ← flowPart fuel [.value, .flowEntry, .flowMappingEnd] r.drop
          let (value, r) ← flowValue fuel .flowMappingEnd r
          pure ((key, value), r)
        else do
          let (key, r) ← node fuel .flow r
          let (value, r) := r.allocEmpty
          pure ((key, value), r)
      let (pairs, r) ← flowPairs fuel false r
      return (pair :: pairs, r)

end

/-! ### Documents -/

def standardHandles : List (String × String) :=
  [("!", "!"), ("!!", standardPrefix)]

/-- Directives before a document: at most one version, which must be 1, and handles that
differ. -/
def directives (version : Bool) (handles : List (String × String)) :
    List Token → Except Fault (List (String × String) × List Token)
  | .version major :: rest =>
      if version || major != 1 then .error .malformed else directives true handles rest
  | .tagHandle handle expansion :: rest =>
      if (handles.lookup handle).isSome then .error .malformed
      else directives version ((handle, expansion) :: handles) rest
  | .otherDirective :: rest => directives version handles rest
  | rest => .ok (handles ++ standardHandles, rest)

def isDirective : Token → Bool
  | .version _ | .tagHandle _ _ | .otherDirective => true
  | _ => false

/-- The content of a document after its start; nothing is an empty scalar. -/
def content (fuel : Nat) (r : Progress) : Except Fault (Nat × Progress) := do
  match ← r.peek with
  | none | some .documentStart | some .documentEnd => return r.allocEmpty
  | some token => if isDirective token then return r.allocEmpty else node fuel .block r

/-- A document that starts with a marker, after any directives. -/
def markedDocument (fuel : Nat) (r : Progress) : Except Fault (Nat × Progress) := do
  let (handles, rest) ← directives false [] r.tokens
  let r ← ({ r with tokens := rest, handles := handles } : Progress).expect .documentStart
  content fuel r

/-- The only document of a text, if it has any. -/
def Graph.ofTokens (tokens : Array Token) (fault : Option Fault) :
    Except Fault (Option Graph) := do
  let r : Progress := { tokens := tokens.toList, fault := fault, handles := standardHandles }
  let fuel := 3 * tokens.size + 10
  match ← r.peek with
  | none => return none
  | some token =>
      let (root, r) ← if isDirective token || token = .documentStart then markedDocument fuel r
        else node fuel .block r
      let ended : Progress := { r with tokens := r.tokens.dropWhile (· == Token.documentEnd) }
      match ← ended.peek with
      | none => return some ⟨r.nodes, root⟩
      | some _ => throw Fault.malformed

end MarkupLint.Yaml
