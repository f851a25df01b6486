import Gamebook.Entries
import Gamebook.Yaml.Resolve
import Gamebook.Yaml.Scan

/-!
# The nodes of a block

Composes the tokens of a block into a graph of nodes. Nodes are numbered in the
order in which they begin; an alias is the number of the node it recalls, so a node
may have several places and may even hold itself. The tokens are taken one by one,
and the fault of the scan is met only when a token beyond it is asked for.
-/

namespace Gamebook.Yaml

/-- What a node holds: characters, or other nodes by their numbers. -/
inductive NodeContent where
  | scalar (codes : List Nat)
  | sequence (items : List Nat)
  | mapping (entries : List (Nat × Nat))

/-- A node: its tag, what it holds, and where it begins. -/
structure Node where
  tag : Text
  content : NodeContent
  start : Mark

/-- What a node is called in a message. -/
def NodeContent.name : NodeContent → Text
  | scalar _ => "scalar".toList
  | sequence _ => "sequence".toList
  | mapping _ => "mapping".toList

/-- The nodes of a block by number. -/
abbrev Graph := Array Node

/-- What is known while a block is composed. -/
structure Composition where
  tokens : List Token
  /-- What is met when the tokens are used up. -/
  ending : Fault
  graph : Graph
  anchors : List (Text × Nat)
  handles : List (Text × Text)

/-- A step of a composition, which a fault may end. -/
abbrev Compose := StateT Composition (Except Fault)

namespace Compose

/-- The next token, which stays. -/
def peek : Compose Token := do
  let s ← get
  match s.tokens with
  | t :: _ => return t
  | [] => throw s.ending

/-- The next token, which is taken. -/
def take : Compose Token := do
  let t ← peek
  modify fun s => { s with tokens := s.tokens.tail }
  return t

/-- Whether the next token passes the test. -/
def at? (p : TokenKind → Bool) : Compose Bool := return p (← peek).kind

/-- Ends the composition with a problem at a place. -/
def fail {α : Type} (stage : Stage) (context : Option (Text × Mark)) (problem : Text)
    (mark : Mark) : Compose α :=
  throw (.placed ⟨stage, context, problem, mark⟩)

/-- A fault at a token that is not the expected one. -/
def unexpectedToken {α : Type} (what : Text) (began : Mark) (expected : Text) : Compose α := do
  let t ← peek
  fail .parsing (some (what, began)) (expected ++ Text.quoted t.kind.name) t.start

/-! ## Tests on tokens -/

/-- Whether a token begins the key of an entry. -/
def isKey : TokenKind → Bool
  | .key => true
  | _ => false

/-- Whether a token begins the value of an entry. -/
def isValue : TokenKind → Bool
  | .value => true
  | _ => false

/-- Whether a token ends a block collection. -/
def isBlockEnd : TokenKind → Bool
  | .blockEnd => true
  | _ => false

/-- Whether a token begins an item of a block sequence. -/
def isBlockEntry : TokenKind → Bool
  | .blockEntry => true
  | _ => false

/-- Whether a token separates the items within brackets. -/
def isFlowEntry : TokenKind → Bool
  | .flowEntry => true
  | _ => false

/-- Whether a token closes a sequence in brackets. -/
def isSequenceEnd : TokenKind → Bool
  | .flowSequenceEnd => true
  | _ => false

/-- Whether a token closes a mapping in braces. -/
def isMappingEnd : TokenKind → Bool
  | .flowMappingEnd => true
  | _ => false

/-- Whether a token stands where a node of a block mapping was left out. -/
def endsKey (k : TokenKind) : Bool := isKey k || isValue k || isBlockEnd k

/-! ## Nodes -/

/-- Adds a node and gives it its number. -/
def addNode (n : Node) : Compose Nat := do
  let s ← get
  set { s with graph := s.graph.push n }
  return s.graph.size

/-- Notes the number of an anchored node. -/
def noteAnchor (anchor : Option Text) (id : Nat) : Compose Unit :=
  match anchor with
  | none => return ()
  | some name => modify fun s => { s with anchors := (name, id) :: s.anchors }

/-- Gives a node its contents, which were not known when its number was given. -/
def setContent (id : Nat) (content : NodeContent) : Compose Unit :=
  modify fun s => { s with graph := s.graph.modify id fun n => { n with content := content } }

/-- A node with no characters, which is nothing. -/
def emptyNode (mark : Mark) : Compose Nat := addNode ⟨plainTag [], .scalar [], mark⟩

/-- The anchor, the tag and the place where a node begins. -/
structure Properties where
  anchor : Option Text
  /-- The tag as it is written, with the place of the mark. -/
  tag : Option (Option Text × Text × Mark)
  start : Option Mark
  stop : Option Mark

/-- The anchor and the tag before a node, in either order. -/
def properties : Compose Properties := do
  let t ← peek
  match t.kind with
  | .anchor name =>
    let _ ← take
    let u ← peek
    match u.kind with
    | .tag handle suffix =>
      let _ ← take
      return ⟨some name, some (handle, suffix, u.start), some t.start, some u.stop⟩
    | _ => return ⟨some name, none, some t.start, some t.stop⟩
  | .tag handle suffix =>
    let _ ← take
    let u ← peek
    match u.kind with
    | .anchor name =>
      let _ ← take
      return ⟨some name, some (handle, suffix, t.start), some t.start, some u.stop⟩
    | _ => return ⟨none, some (handle, suffix, t.start), some t.start, some t.stop⟩
  | _ => return ⟨none, none, none, none⟩

/-- The tag with what its handle stands for. -/
def wholeTag (p : Properties) : Compose (Option Text) := do
  match p.tag with
  | none => return none
  | some (none, suffix, _) => return some suffix
  | some (some handle, suffix, mark) =>
    match entryOf? handle (← get).handles with
    | some start => return some (start ++ suffix)
    | none =>
      fail .parsing (some ("while parsing a node".toList, p.start.getD mark))
        ("found undefined tag handle ".toList ++ Text.quoted handle) mark

/-- Refuses an anchor that has been used. -/
def checkAnchor (anchor : Option Text) (start : Mark) : Compose Unit := do
  match anchor with
  | none => return ()
  | some name =>
    let s ← get
    match s.anchors.find? fun a => a.1 == name with
    | none => return ()
    | some (_, id) =>
      let first := (s.graph[id]?.map Node.start).getD start
      fail .composing
        (some ("found duplicate anchor ".toList ++ Text.quoted name ++ "; first occurrence".toList,
          first))
        "second occurrence".toList start

/-- The tag of a collection: its own, or the default one. -/
def collectionTag (tag : Option Text) (default : Text) : Text :=
  match tag with
  | none => default
  | some t => if t == ['!'] then default else t

/-- The tag of a scalar. One without a tag of its own, or with the bare mark, is told by its form
if it is plain or has the mark. -/
def scalarTag (tag : Option Text) (style : ScalarStyle) (value : Text) : Text :=
  match tag with
  | none => if style == .plain then plainTag value else strTag
  | some t => if t == ['!'] then plainTag value else t

/-- What may stand at the place of a node. -/
inductive Setting where
  | flow
  | block
  /-- A block, or the entries of a sequence at the indentation of the mapping around it. -/
  | blockOrEntries
deriving DecidableEq

/-- The text of code points. -/
def textOf (codes : List Nat) : Text := codes.map Char.ofNat

/-- The end of a block collection, if the next token `t` is one. Nothing more belongs to it. -/
def endBlock {α : Type} (t : Token) (what : Text) (began : Mark) : Compose (List α) := do
  if isBlockEnd t.kind then
    let _ ← take
    return []
  else unexpectedToken what began "expected <block end>, but found ".toList

mutual

/-- A node, or the number of the node that an alias recalls. -/
def node (setting : Setting) : Nat → Compose Nat
  | 0 => do throw (← get).ending
  | fuel + 1 => do
    let t ← peek
    match t.kind with
    | .aliasMark name =>
      let _ ← take
      match (← get).anchors.find? fun a => a.1 == name with
      | some (_, id) => return id
      | none => fail .composing none ("found undefined alias ".toList ++ Text.quoted name) t.start
    | _ =>
      let p ← properties
      let tag ← wholeTag p
      let u ← peek
      let start := p.start.getD u.start
      let begin_ (content : NodeContent) (default : Text) : Compose Nat := do
        checkAnchor p.anchor start
        let id ← addNode ⟨collectionTag tag default, content, start⟩
        noteAnchor p.anchor id
        return id
      match u.kind with
      | .scalar codes style =>
        let _ ← take
        checkAnchor p.anchor start
        let id ← addNode ⟨scalarTag tag style (textOf codes), .scalar codes, start⟩
        noteAnchor p.anchor id
        return id
      | .flowSequenceStart =>
        let id ← begin_ (.sequence []) seqTag
        let open_ ← take
        setContent id (.sequence (← flowItems open_.start true fuel))
        return id
      | .flowMappingStart =>
        let id ← begin_ (.mapping []) mapTag
        let open_ ← take
        setContent id (.mapping (← flowEntries open_.start true fuel))
        return id
      | k =>
        if setting == .blockOrEntries && isBlockEntry k then
          let id ← begin_ (.sequence []) seqTag
          setContent id (.sequence (← looseItems fuel))
          return id
        else
          match k, setting == .flow with
          | .blockSequenceStart, false =>
            let id ← begin_ (.sequence []) seqTag
            let open_ ← take
            setContent id (.sequence (← blockItems open_.start fuel))
            return id
          | .blockMappingStart, false =>
            let id ← begin_ (.mapping []) mapTag
            let open_ ← take
            setContent id (.mapping (← blockEntries open_.start fuel))
            return id
          | _, _ =>
            if p.anchor.isSome || p.tag.isSome then
              checkAnchor p.anchor start
              let id ← addNode ⟨scalarTag tag .plain [], .scalar [], start⟩
              noteAnchor p.anchor id
              return id
            else
              let what := if setting == .flow then "while parsing a flow node"
                else "while parsing a block node"
              unexpectedToken what.toList start "expected the node content, but found ".toList

/-- The items of a block sequence up to its end. -/
def blockItems (began : Mark) : Nat → Compose (List Nat)
  | 0 => do throw (← get).ending
  | fuel + 1 => do
    let t ← peek
    if isBlockEntry t.kind then
      let _ ← take
      let item ← if ← at? fun k => isBlockEntry k || isBlockEnd k then emptyNode t.stop
        else node .block fuel
      return item :: (← blockItems began fuel)
    else endBlock t "while parsing a block collection".toList began

/-- The items of a block sequence that no indentation closes. -/
def looseItems : Nat → Compose (List Nat)
  | 0 => do throw (← get).ending
  | fuel + 1 => do
    let t ← peek
    if isBlockEntry t.kind then
      let _ ← take
      let item ← if ← at? fun k => isBlockEntry k || endsKey k then emptyNode t.stop
        else node .block fuel
      return item :: (← looseItems fuel)
    else return []

/-- The entries of a block mapping up to its end. -/
def blockEntries (began : Mark) : Nat → Compose (List (Nat × Nat))
  | 0 => do throw (← get).ending
  | fuel + 1 => do
    let t ← peek
    if isKey t.kind then
      let _ ← take
      let key ← if ← at? endsKey then emptyNode t.stop else node .blockOrEntries fuel
      let u ← peek
      let value ←
        if isValue u.kind then do
          let _ ← take
          if ← at? endsKey then emptyNode u.stop else node .blockOrEntries fuel
        else emptyNode u.start
      return (key, value) :: (← blockEntries began fuel)
    else endBlock t "while parsing a block mapping".toList began

/-- The items of a flow sequence up to its bracket. -/
def flowItems (began : Mark) (first : Bool) : Nat → Compose (List Nat)
  | 0 => do throw (← get).ending
  | fuel + 1 => do
    if ← at? isSequenceEnd then
      let _ ← take
      return []
    else
      if !first then
        if ← at? isFlowEntry then
          let _ ← take
        else
          unexpectedToken "while parsing a flow sequence".toList began
            "expected ',' or ']', but got ".toList
      if ← at? isSequenceEnd then
        let _ ← take
        return []
      else
        let item ← if ← at? isKey then soloMapping fuel else node .flow fuel
        return item :: (← flowItems began false fuel)

/-- A mapping of one entry that stands in a flow sequence without brackets. -/
def soloMapping : Nat → Compose Nat
  | 0 => do throw (← get).ending
  | fuel + 1 => do
    let t ← take
    let id ← addNode ⟨mapTag, .mapping [], t.start⟩
    let key ← if ← at? fun k => isValue k || isFlowEntry k || isSequenceEnd k then
        emptyNode t.stop
      else node .flow fuel
    let u ← peek
    let value ←
      if isValue u.kind then do
        let _ ← take
        if ← at? fun k => isFlowEntry k || isSequenceEnd k then emptyNode u.stop
        else node .flow fuel
      else emptyNode u.start
    setContent id (.mapping [(key, value)])
    return id

/-- The entries of a flow mapping up to its bracket. -/
def flowEntries (began : Mark) (first : Bool) : Nat → Compose (List (Nat × Nat))
  | 0 => do throw (← get).ending
  | fuel + 1 => do
    if ← at? isMappingEnd then
      let _ ← take
      return []
    else
      if !first then
        if ← at? isFlowEntry then
          let _ ← take
        else
          unexpectedToken "while parsing a flow mapping".toList began
            "expected ',' or '\x7d', but got ".toList
      if ← at? isMappingEnd then
        let _ ← take
        return []
      else
        let t ← peek
        let entry ←
          if isKey t.kind then do
            let _ ← take
            let key ← if ← at? fun k => isValue k || isFlowEntry k || isMappingEnd k then
                emptyNode t.stop
              else node .flow fuel
            let u ← peek
            let value ←
              if isValue u.kind then do
                let _ ← take
                if ← at? fun k => isFlowEntry k || isMappingEnd k then emptyNode u.stop
                else node .flow fuel
              else emptyNode u.start
            pure (key, value)
          else do
            let key ← node .flow fuel
            let value ← emptyNode (← peek).start
            pure (key, value)
        return entry :: (← flowEntries began false fuel)

end

/-! ## Documents -/

/-- Whether a token ends a document. -/
def isDocumentEnd : TokenKind → Bool
  | .documentEnd => true
  | _ => false

/-- Whether a token begins a document. -/
def isDocumentStart : TokenKind → Bool
  | .documentStart => true
  | _ => false

/-- Whether a token ends the block. -/
def isStreamEnd : TokenKind → Bool
  | .streamEnd => true
  | _ => false

/-- Whether a token is a directive. -/
def isDirective : TokenKind → Bool
  | .directive _ => true
  | _ => false

/-- The handles of tags that need no directive. -/
def defaultHandles : List (Text × Text) :=
  [(['!'], ['!']), ("!!".toList, "tag:yaml.org,2002:".toList)]

/-- The directives before a document. `versionSeen` tells that a version has been given. -/
def directives (versionSeen : Bool) : Nat → Compose Unit
  | 0 => return ()
  | fuel + 1 => do
    let t ← peek
    match t.kind with
    | .directive d =>
      let _ ← take
      match d with
      | .version major _ =>
        if versionSeen then fail .parsing none "found duplicate YAML directive".toList t.start
        else if major != 1 then
          fail .parsing none
            "found incompatible YAML document (version 1.* is required)".toList t.start
        else directives true fuel
      | .tagHandle handle start =>
        let s ← get
        if s.handles.any fun h => h.1 == handle then
          fail .parsing none ("duplicate tag handle ".toList ++ Text.quoted handle) t.start
        else
          set { s with handles := s.handles ++ [(handle, start)] }
          directives versionSeen fuel
      | .reserved => directives versionSeen fuel
    | _ => return ()

/-- Skips document ends. -/
def skipDocumentEnds : Nat → Compose Unit
  | 0 => return ()
  | fuel + 1 => do
    if ← at? isDocumentEnd then
      let _ ← take
      skipDocumentEnds fuel

/-- The handles of a document and the default ones that it does not redefine. -/
def withDefaults (handles : List (Text × Text)) : List (Text × Text) :=
  handles ++ defaultHandles.filter fun h => !handles.any fun g => g.1 == h.1

/-- The beginning of a document that is marked as one: where it begins, or nothing at the end of
the stream. -/
def documentStart (fuel : Nat) : Compose (Option Mark) := do
  skipDocumentEnds fuel
  let t ← peek
  if isStreamEnd t.kind then return none
  else
    modify fun s => { s with handles := [] }
    directives false fuel
    let u ← peek
    if isDocumentStart u.kind then
      let _ ← take
      modify fun s => { s with handles := withDefaults s.handles }
      return some t.start
    else
      fail .parsing none
        ("expected '<document start>', but found ".toList ++ Text.quoted u.kind.name) u.start

/-- The contents of a document that is marked as one. -/
def documentContent (fuel : Nat) : Compose Nat := do
  let t ← peek
  if isDirective t.kind || isDocumentStart t.kind || isDocumentEnd t.kind || isStreamEnd t.kind
  then emptyNode t.start
  else node .block fuel

/-- The node of the only document; nothing if there is none. -/
def singleDocument (fuel : Nat) : Compose (Option Nat) := do
  let t ← peek
  let root ←
    if isDirective t.kind || isDocumentStart t.kind || isStreamEnd t.kind then do
      match ← documentStart fuel with
      | none => pure none
      | some _ => some <$> documentContent fuel
    else some <$> node .block fuel
  match root with
  | none => return none
  | some id =>
    match ← documentStart fuel with
    | none => return some id
    | some second =>
      let first := ((← get).graph[id]?.map Node.start).getD second
      fail .composing (some ("expected a single document in the stream".toList, first))
        "but found another document".toList second

end Compose

/-- The nodes of a block and the number of the outermost one, if there is any. -/
def Graph.ofScan (s : Scan) : Except Fault (Option Nat × Graph) :=
  let start : Composition := ⟨s.tokens, s.fault.getD .emptyNumber, #[], [], Compose.defaultHandles⟩
  match (Compose.singleDocument (3 * s.tokens.length + 3)).run start with
  | .ok (root, c) => .ok (root, c.graph)
  | .error f => .error f

end Gamebook.Yaml
