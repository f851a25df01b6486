import Gamebook.Yaml.Content
import Gamebook.Yaml.Node

/-!
# From nodes to values

Builds the value of a graph of nodes. Containers are filled one after the other in
the order in which they are met, scalars are read when the container around them is
filled; so of several faults the one in the outer container comes first. Keys that
merge another mapping put its entries in front of their own mapping's entries.
Nodes that hold themselves become knots.
-/

namespace Gamebook.Yaml

/-- What a node has been built into; containers refer to their parts by node. -/
inductive Built where
  | scalar (v : Value)
  /-- A container that has been met and not been filled yet. -/
  | waiting
  | list (items : List Nat)
  | pairs (entries : List (Nat × Nat))
  | map (entries : List (Value × Nat))
  | set (keys : List Value)

/-- The state of a construction. -/
structure Construction where
  graph : Graph
  built : Array (Option Built)
  /-- The containers to be filled next, the last one met first. -/
  queue : List Nat

/-- A step of a construction, which a fault may end. -/
abbrev Construct := StateT Construction (Except Fault)

namespace Construct

/-- Ends the construction with a problem at a place. -/
def fail {α : Type} (context : Option (Text × Mark)) (problem : Text) (mark : Mark) :
    Construct α :=
  throw (.placed ⟨.constructing, context, problem, mark⟩)

/-- What is looked at where a graph has no node of a number. -/
def blankNode : Node := ⟨[], .scalar [], ⟨0, 0, 0⟩⟩

/-- The node with a number. -/
def nodeAt (id : Nat) : Construct Node := return (← get).graph.getD id blankNode

/-- A fault at a node that is of another sort than its tag needs. -/
def wrongSort {α : Type} (sort : String) (n : Node) : Construct α :=
  fail none ("expected a ".toList ++ sort.toList ++ " node, but found ".toList ++ n.content.name)
    n.start

/-- The code points of a scalar. A mapping with the reserved key stands for the value of it. -/
def scalarCodes : Nat → Node → Construct (List Nat)
  | 0, n => wrongSort "scalar" n
  | fuel + 1, n => do
    match n.content with
    | .scalar codes => return codes
    | .sequence _ => wrongSort "scalar" n
    | .mapping entries =>
      let g := (← get).graph
      match entries.find? fun e => (g.getD e.1 blankNode).tag == valueTag with
      | some (_, v) => scalarCodes fuel (← nodeAt v)
      | none => wrongSort "scalar" n

/-- The tags of containers. -/
def containerTags : List Text :=
  ["seq", "map", "set", "omap", "pairs"].map coreTag

/-- The value of a node whose tag is that of a scalar. -/
def scalarValue (n : Node) : Construct Value := do
  let readable := ["null", "bool", "int", "float", "binary", "timestamp", "str"].map coreTag
  if !readable.contains n.tag then
    fail none ("could not determine a constructor for the tag ".toList ++ Text.quoted n.tag) n.start
  else
    let codes ← scalarCodes ((← get).graph.size + 1) n
    let t := Compose.textOf codes
    if n.tag == coreTag "null" then return .null
    else if n.tag == coreTag "bool" then return .bool (← truthContent t)
    else if n.tag == coreTag "int" then return .int (← integerContent t)
    else if n.tag == coreTag "float" then return .real (← floatContent t)
    else if n.tag == coreTag "timestamp" then
      match n.content with
      | .scalar _ => timestampContent t
      | _ => throw .timestampOfMapping
    else if n.tag == coreTag "binary" then
      match bytesContent codes with
      | .ok bs => return .bytes bs
      | .error f => fail none f.message n.start
    else return Value.ofCodes codes

/-- Builds a node: a scalar at once, a container later. The value is told of a scalar only. -/
def build (id : Nat) : Construct (Option Value) := do
  let s ← get
  match s.built[id]? with
  | some (some (.scalar v)) => return some v
  | some (some _) => return none
  | _ =>
    let n ← nodeAt id
    if containerTags.contains n.tag then
      modify fun s => { s with
        built := s.built.setIfInBounds id (some .waiting), queue := id :: s.queue }
      return none
    else
      let v ← scalarValue n
      modify fun s => { s with built := s.built.setIfInBounds id (some (.scalar v)) }
      return some v

/-! ## Merging -/

/-- The entries of a mapping node; other nodes have none. -/
def entriesOf (n : Node) : List (Nat × Nat) :=
  match n.content with
  | .mapping entries => entries
  | _ => []

/-- Replaces the entries of a mapping. -/
def setEntries (id : Nat) (entries : List (Nat × Nat)) : Construct Unit :=
  modify fun s => { s with
    graph := s.graph.modify id fun n => { n with content := .mapping entries } }

/-- Gives a node another tag. -/
def setTag (id : Nat) (tag : Text) : Construct Unit :=
  modify fun s => { s with graph := s.graph.modify id fun n => { n with tag := tag } }

/-- A fault at a node that cannot be merged into the mapping `around`. -/
def mergeFault {α : Type} (around : Node) (expected : String) (found : Node) : Construct α :=
  fail (some ("while constructing a mapping".toList, around.start))
    ("expected ".toList ++ expected.toList ++ " for merging, but found ".toList ++
      found.content.name) found.start

/-- Whether a node is a merge key. -/
def isMergeKey (g : Graph) (id : Nat) : Bool := (g.getD id blankNode).tag == mergeTag

/-- How many merge keys the mappings of a graph have. -/
def mergeKeys (g : Graph) : Nat := (g.toList.flatMap entriesOf).countP fun e => isMergeKey g e.1

/-- Finds the next merge key among entries, the first of which has number `index`: its number and
the node that it merges. A key on the way that stands for the value of its mapping is plain text
from then on. -/
def nextMerge? (index : Nat) : List (Nat × Nat) → Construct (Option (Nat × Nat))
  | [] => return none
  | (key, value) :: entries => do
    let keyTag := (← nodeAt key).tag
    if keyTag == mergeTag then return some (index, value)
    else
      if keyTag == valueTag then setTag key strTag
      nextMerge? (index + 1) entries

/-- Puts entries in front of those of a mapping. -/
def prepend (id : Nat) (entries : List (Nat × Nat)) : Construct Unit := do
  if !entries.isEmpty then
    let n ← nodeAt id
    setEntries id (entries ++ entriesOf n)

/-- The entries of several mappings that are merged into the node `around`. -/
def flattenAll (flatten : Nat → Construct Unit) (around : Node) :
    List Nat → Construct (List (List (Nat × Nat)))
  | [] => return []
  | id :: ids => do
    let n ← nodeAt id
    match n.content with
    | .mapping _ =>
      flatten id
      let entries := entriesOf (← nodeAt id)
      return entries :: (← flattenAll flatten around ids)
    | _ => mergeFault around "a mapping" n

/-- What a merge key of the node `around` merges: the entries of a mapping, or those of several,
the last mapping first. They are flattened before. -/
def mergedBy (flatten : Nat → Construct Unit) (around : Node) (value : Nat) :
    Construct (List (Nat × Nat)) := do
  let v ← nodeAt value
  match v.content with
  | .mapping _ =>
    flatten value
    return entriesOf (← nodeAt value)
  | .sequence items => return (← flattenAll flatten around items).reverse.flatten
  | .scalar _ => mergeFault around "a mapping or list of mappings" v

/-- Takes the merge keys out of the entries from a position on, and gathers what they merge. A
step takes one merge key, so there need be no more steps than merge keys in the graph. -/
def takeMerges : Nat → Nat → Nat → List (Nat × Nat) → Construct (List (Nat × Nat))
  | 0, _, _, merged => return merged
  | fuel + 1, id, index, merged => do
    let n ← nodeAt id
    match ← nextMerge? index ((entriesOf n).drop index) with
    | none => return merged
    | some (index, value) =>
      setEntries id ((entriesOf n).eraseIdx index)
      let inner (id : Nat) : Construct Unit := do prepend id (← takeMerges fuel id 0 [])
      let more ← mergedBy inner n value
      takeMerges fuel id index (merged ++ more)

/-- Replaces the merge keys of a mapping by the entries they merge, in front of all others. -/
def flatten (fuel id : Nat) : Construct Unit := do
  prepend id (← takeMerges fuel id 0 [])

/-! ## Containers -/

/-- Builds the entries of a mapping. A later entry with the same key replaces the value. -/
def buildEntries (n : Node) (built : List (Value × Nat)) :
    List (Nat × Nat) → Construct (List (Value × Nat))
  | [] => return built
  | (key, value) :: rest => do
    match ← build key with
    | none =>
      fail (some ("while constructing a mapping".toList, n.start)) "found unhashable key".toList
        (← nodeAt key).start
    | some k =>
      let _ ← build value
      buildEntries n (put k value built) rest
where
  put (k : Value) (id : Nat) : List (Value × Nat) → List (Value × Nat)
    | [] => [(k, id)]
    | (k', id') :: rest => if k'.sameKey k then (k', id) :: rest else (k', id') :: put k id rest

/-- Builds a mapping of one entry for each node. -/
def buildPairs (what : Text) (n : Node) : List Nat → Construct (List (Nat × Nat))
  | [] => return []
  | id :: ids => do
    let m ← nodeAt id
    let mismatch (problem : Text) : Construct (List (Nat × Nat)) :=
      fail (some (what, n.start)) problem m.start
    match m.content with
    | .mapping [(key, value)] =>
      let _ ← build key
      let _ ← build value
      return (key, value) :: (← buildPairs what n ids)
    | .mapping entries =>
      mismatch ("expected a single mapping item, but found ".toList ++
        Number.writeNat entries.length ++ " items".toList)
    | c => mismatch ("expected a mapping of length 1, but found ".toList ++ c.name)

/-- Does something to each of some nodes, in their order. -/
def forEach (act : Nat → Construct Unit) : List Nat → Construct Unit
  | [] => return ()
  | id :: ids => do
    act id
    forEach act ids

/-- The entries of a mapping node after merging. -/
def mappingEntries (fuel id : Nat) : Construct (List (Value × Nat)) := do
  let n ← nodeAt id
  match n.content with
  | .mapping _ =>
    flatten fuel id
    let n ← nodeAt id
    buildEntries n [] (entriesOf n)
  | _ => wrongSort "mapping" n

/-- The pairs of an ordered mapping. -/
def pairEntries (what : Text) (n : Node) : Construct (List (Nat × Nat)) :=
  match n.content with
  | .sequence items => buildPairs what n items
  | c => fail (some (what, n.start)) ("expected a sequence, but found ".toList ++ c.name) n.start

/-- Fills a container that has been met. -/
def fill (fuel id : Nat) : Construct Unit := do
  let n ← nodeAt id
  let contents ←
    if n.tag == coreTag "seq" then
      match n.content with
      | .sequence items => do
        forEach (fun id => do let _ ← build id) items
        pure (Built.list items)
      | _ => wrongSort "sequence" n
    else if n.tag == coreTag "map" then Built.map <$> mappingEntries fuel id
    else if n.tag == coreTag "set" then
      (fun entries => Built.set (entries.map (·.1))) <$> mappingEntries fuel id
    else if n.tag == coreTag "omap" then
      Built.pairs <$> pairEntries "while constructing an ordered map".toList n
    else Built.pairs <$> pairEntries "while constructing pairs".toList n
  modify fun s => { s with built := s.built.setIfInBounds id (some contents) }

/-- Fills the containers in the queue, then those met on the way, until none is left. -/
def fillAll (fuel : Nat) : Nat → Construct Unit
  | 0 => return ()
  | rounds + 1 => do
    let s ← get
    if s.queue.isEmpty then return ()
    else
      set { s with queue := [] }
      forEach (fill fuel) s.queue.reverse
      fillAll fuel rounds

end Construct

/-! ## Values -/

mutual

/-- Whether a value refers to the knot with a label from inside. -/
def refersTo (label : Nat) : Value → Bool
  | .loop l _ => l == label
  | .list items => anyRefersTo label items
  | .pair a b => refersTo label a || refersTo label b
  | .map entries => anyEntryRefersTo label entries
  | .set items => anyRefersTo label items
  | .knot _ content => refersTo label content
  | _ => false

/-- Whether one of some values refers to a container. -/
def anyRefersTo (label : Nat) : List Value → Bool
  | [] => false
  | v :: vs => refersTo label v || anyRefersTo label vs

/-- Whether one of some entries refers to a container, in its key or its value. -/
def anyEntryRefersTo (label : Nat) : List (Value × Value) → Bool
  | [] => false
  | (k, v) :: es => refersTo label k || refersTo label v || anyEntryRefersTo label es

end

/-- The value of a built node that lies inside the nodes `around`. -/
def valueOf (built : Array (Option Built)) : Nat → List Nat → Nat → Value
  | 0, _, _ => .null
  | fuel + 1, around, id =>
    let inside := valueOf built fuel (id :: around)
    let tied (v : Value) : Value := if refersTo id v then .knot id v else v
    match built.getD id none with
    | some (.scalar v) => v
    | some (.list items) =>
      if around.contains id then .loop id false else tied (.list (items.map inside))
    | some (.pairs entries) =>
      if around.contains id then .loop id false
      else tied (.list (entries.map fun e => .pair (inside e.1) (inside e.2)))
    | some (.map entries) =>
      if around.contains id then .loop id true
      else tied (.map (entries.map fun e => (e.1, inside e.2)))
    | some (.set keys) => .set keys
    | _ => .null

/-- The value of the outermost node of a graph. -/
def construct (root : Nat) (g : Graph) : Except Fault Value := do
  let steps := Construct.mergeKeys g + 1
  let start : Construction := ⟨g, Array.replicate g.size none, []⟩
  let (_, s) ← (do
    let _ ← Construct.build root
    Construct.fillAll steps (g.size + 1)).run start
  return valueOf s.built (g.size + 1) [] root

end Gamebook.Yaml
