import Gamebook.Yaml.Property

/-!
# Scanning a block

Cuts a whole block into tokens. Indentation opens and closes collections. A scalar
or a bracket may turn out to be the key of a mapping when a colon follows on its
line; until then it is a possible key, and the key token goes in front of it later.

A scan that fails still has tokens: those before the fault that no later colon can
change. A reader takes them first, so a fault in an early token is met before a
fault in a later one.
-/

namespace Gamebook.Yaml

/-- A place where a key may have begun. -/
structure PossibleKey where
  /-- The bracket depth of the key. -/
  level : Int
  /-- How many tokens stand before it. -/
  position : Nat
  /-- Nothing but a key may stand at this indentation. -/
  required : Bool
  mark : Mark

/-- The state of a scan. -/
structure ScanState where
  cursor : Cursor
  tokens : Array Token
  /-- How deep in brackets the place is. -/
  level : Int
  /-- The indentation of the innermost collection, -1 outside of all. -/
  indent : Int
  outerIndents : List Int
  keyAllowed : Bool
  possibleKeys : List PossibleKey
  done : Bool

/-- The tokens that can be relied on, and the fault that ended the scan, if one did. -/
structure Scan where
  tokens : List Token
  fault : Option Fault

namespace ScanState

/-- The state before the first token: outside of all collections, where a key may begin. -/
def start (source : Text) : ScanState :=
  ⟨Cursor.start source, #[], 0, -1, [], true, [], false⟩

/-- Whether the place is outside of all brackets. -/
def inBlock (s : ScanState) : Bool := s.level == 0

/-- Adds a token. -/
def push (kind : TokenKind) (start stop : Mark) (s : ScanState) : ScanState :=
  { s with tokens := s.tokens.push ⟨kind, start, stop⟩ }

/-- Adds a token without characters. -/
def pushEmpty (kind : TokenKind) (s : ScanState) : ScanState :=
  s.push kind s.cursor.mark s.cursor.mark

/-- Adds a token of `width` characters. -/
def pushMark (kind : TokenKind) (width : Nat) (s : ScanState) : ScanState :=
  let c := s.cursor.forward width
  { s.push kind s.cursor.mark c.mark with cursor := c }

/-- The fault of a key without a colon that had to have one. -/
def keyFault {α : Type} (k : PossibleKey) (s : ScanState) : Reading α :=
  scanFault "while scanning a simple key".toList k.mark "could not find expected ':'".toList
    s.cursor.mark

/-- Gives up the possible keys of earlier lines and those too far back. -/
def dropStaleKeys (s : ScanState) : Reading ScanState :=
  let m := s.cursor.mark
  let stale (k : PossibleKey) : Bool := k.mark.line != m.line || m.index - k.mark.index > 1024
  match s.possibleKeys.find? fun k => stale k && k.required with
  | some k => keyFault k s
  | none => .ok { s with possibleKeys := s.possibleKeys.filter fun k => !stale k }

/-- Gives up the possible key at the present depth. -/
def dropKey (s : ScanState) : Reading ScanState :=
  match s.possibleKeys.find? fun k => k.level == s.level with
  | none => .ok s
  | some k =>
    if k.required then keyFault k s
    else .ok { s with possibleKeys := s.possibleKeys.filter fun k => k.level != s.level }

/-- Notes that a key may begin here. -/
def saveKey (s : ScanState) : Reading ScanState :=
  if s.keyAllowed then do
    let required := s.inBlock && s.indent == s.cursor.column
    let s ← s.dropKey
    return { s with
      possibleKeys := s.possibleKeys ++ [⟨s.level, s.tokens.size, required, s.cursor.mark⟩] }
  else .ok s

/-- Closes the collections that are indented deeper than a column. -/
def unwind (column : Int) : List Int → ScanState → ScanState
  | [], s => s
  | outer :: rest, s =>
    if s.inBlock && column < s.indent then
      unwind column rest { s.pushEmpty .blockEnd with indent := outer, outerIndents := rest }
    else s

/-- Closes the block collections that are indented deeper than a column. -/
def unwindTo (column : Int) (s : ScanState) : ScanState := s.unwind column s.outerIndents

/-- Opens a collection at a column, unless one is open there. -/
def openAt (column : Int) (s : ScanState) : Option ScanState :=
  if s.indent < column then
    some { s with outerIndents := s.indent :: s.outerIndents, indent := column }
  else none

/-- Skips spaces, comments and line breaks. -/
def skipToToken : Nat → ScanState → ScanState
  | 0, s => s
  | fuel + 1, s =>
    let c := skipSpaces s.cursor
    let c := if c.peek == '#' then c.skipWhile fun x => !isBreak x else c
    match c.lineBreak with
    | ([], _) => { s with cursor := c }
    | (_, c) => skipToToken fuel { s with cursor := c, keyAllowed := s.keyAllowed || s.inBlock }

/-- Skips a byte order mark at the very start of the block, and all that is no token. -/
def skipBlanks (s : ScanState) : ScanState :=
  let c := s.cursor
  let c := if c.mark.index == 0 && c.peek == '\ufeff' then c.next else c
  skipToToken (c.rest.length + 1) { s with cursor := c }

/-! ## Tokens by their first character -/

/-- The end of the block, which ends all collections. -/
def fetchStreamEnd (s : ScanState) : Reading ScanState := do
  let s ← (s.unwindTo (-1)).dropKey
  return { s.pushEmpty .streamEnd with keyAllowed := false, possibleKeys := [], done := true }

/-- Adds a token that a reader made at the place. -/
def pushRead (read : Cursor → Reading (Token × Cursor)) (s : ScanState) : Reading ScanState := do
  let (t, c) ← read s.cursor
  return { s with tokens := s.tokens.push t, cursor := c }

/-- A directive, which stands before a document. -/
def fetchDirective (s : ScanState) : Reading ScanState := do
  let s ← (s.unwindTo (-1)).dropKey
  { s with keyAllowed := false }.pushRead directive

/-- A mark at the start or the end of a document, which ends all collections. -/
def fetchDocumentMark (kind : TokenKind) (s : ScanState) : Reading ScanState := do
  let s ← (s.unwindTo (-1)).dropKey
  return { s with keyAllowed := false }.pushMark kind 3

/-- An opening bracket, behind which a key may begin. -/
def fetchFlowStart (kind : TokenKind) (s : ScanState) : Reading ScanState := do
  let s ← s.saveKey
  return { s with level := s.level + 1, keyAllowed := true }.pushMark kind 1

/-- A closing bracket, behind which no key may begin. -/
def fetchFlowEnd (kind : TokenKind) (s : ScanState) : Reading ScanState := do
  let s ← s.dropKey
  return { s with level := s.level - 1, keyAllowed := false }.pushMark kind 1

/-- A comma, behind which a key may begin. -/
def fetchFlowEntry (s : ScanState) : Reading ScanState := do
  let s ← { s with keyAllowed := true }.dropKey
  return s.pushMark .flowEntry 1

/-- A fault for a mark that may only stand where a key may. -/
def misplaced {α : Type} (problem : Text) (s : ScanState) : Reading α :=
  .error (.placed ⟨.scanning, none, problem, s.cursor.mark⟩)

/-- Opens a block collection at the place, unless one is open there; within brackets nothing. -/
def openBlock (kind : TokenKind) (problem : Text) (s : ScanState) : Reading ScanState :=
  if s.inBlock then
    if !s.keyAllowed then misplaced problem s
    else
      match s.openAt s.cursor.column with
      | some s => .ok (s.pushEmpty kind)
      | none => .ok s
  else .ok s

/-- A dash before an item, the first of which opens a sequence. -/
def fetchBlockEntry (s : ScanState) : Reading ScanState := do
  let s ← s.openBlock .blockSequenceStart "sequence entries are not allowed here".toList
  let s ← { s with keyAllowed := true }.dropKey
  return s.pushMark .blockEntry 1

/-- A question mark before a key, the first of which opens a mapping. -/
def fetchKey (s : ScanState) : Reading ScanState := do
  let s ← s.openBlock .blockMappingStart "mapping keys are not allowed here".toList
  let s ← { s with keyAllowed := s.inBlock }.dropKey
  return s.pushMark .key 1

/-- Puts a token before those that were read since a key might have begun. -/
def insertToken (position : Nat) (kind : TokenKind) (mark : Mark) (s : ScanState) : ScanState :=
  { s with tokens := s.tokens.insertIdxIfInBounds position ⟨kind, mark, mark⟩ }

/-- A colon. What was a possible key at this depth is one now. -/
def fetchValue (s : ScanState) : Reading ScanState :=
  match s.possibleKeys.find? fun k => k.level == s.level with
  | some k =>
    let s := { s with possibleKeys := s.possibleKeys.filter fun k => k.level != s.level }
    let s := s.insertToken k.position .key k.mark
    let s := if s.inBlock then
        match s.openAt k.mark.column with
        | some s => s.insertToken k.position .blockMappingStart k.mark
        | none => s
      else s
    .ok ({ s with keyAllowed := false }.pushMark .value 1)
  | none => do
    let s ← s.openBlock .blockMappingStart "mapping values are not allowed here".toList
    let s ← { s with keyAllowed := s.inBlock }.dropKey
    return s.pushMark .value 1

/-- An anchor, an alias, a tag or a quoted scalar, each of which may begin a key. -/
def fetchNode (read : Cursor → Reading (Token × Cursor)) (s : ScanState) : Reading ScanState := do
  let s ← s.saveKey
  { s with keyAllowed := false }.pushRead read

/-- A literal or folded scalar, behind which a key may begin. -/
def fetchBlockScalar (folded : Bool) (s : ScanState) : Reading ScanState := do
  let s ← { s with keyAllowed := true }.dropKey
  s.pushRead (blockScalar folded s.indent)

/-- A scalar without quotes, which may be a key. -/
def fetchPlain (s : ScanState) : Reading ScanState := do
  let s ← s.saveKey
  let (t, c, keyAllowed) := plainScalar (!s.inBlock) s.indent s.cursor
  return { s with tokens := s.tokens.push t, cursor := c, keyAllowed := keyAllowed }

/-- Whether a character begins something else than a plain scalar. -/
def isIndicator (x : Char) : Bool := "-?:,[]\x7b\x7d#&*!|>'\"%@\x60".toList.contains x

/-- Whether a plain scalar begins at the place. -/
def atPlain (s : ScanState) : Bool :=
  let x := s.cursor.peek
  let dense := !Cursor.isBlankOrEnd (s.cursor.peekAt 1)
  !(Cursor.isBlankOrEnd x || isIndicator x) ||
    (dense && (x == '-' || (s.inBlock && (x == '?' || x == ':'))))

/-- Adds the next token, and those that its indentation brings about. -/
def fetch (s : ScanState) : Reading ScanState := do
  let s ← s.skipBlanks.dropStaleKeys
  let s := s.unwindTo s.cursor.column
  let c := s.cursor
  let x := c.peek
  let separated := Cursor.isBlankOrEnd (c.peekAt 1)
  let atMargin := c.mark.column == 0
  if c.rest.isEmpty then s.fetchStreamEnd
  else if x == '%' && atMargin then s.fetchDirective
  else if atMargin && c.atMarker "---".toList then s.fetchDocumentMark .documentStart
  else if atMargin && c.atMarker "...".toList then s.fetchDocumentMark .documentEnd
  else if x == '[' then s.fetchFlowStart .flowSequenceStart
  else if x == '\x7b' then s.fetchFlowStart .flowMappingStart
  else if x == ']' then s.fetchFlowEnd .flowSequenceEnd
  else if x == '\x7d' then s.fetchFlowEnd .flowMappingEnd
  else if x == ',' then s.fetchFlowEntry
  else if x == '-' && separated then s.fetchBlockEntry
  else if x == '?' && (!s.inBlock || separated) then s.fetchKey
  else if x == ':' && (!s.inBlock || separated) then s.fetchValue
  else if x == '*' then s.fetchNode aliasMark
  else if x == '&' then s.fetchNode anchor
  else if x == '!' then s.fetchNode tag
  else if x == '|' && s.inBlock then s.fetchBlockScalar false
  else if x == '>' && s.inBlock then s.fetchBlockScalar true
  else if x == '\'' then s.fetchNode (quotedScalar '\'')
  else if x == '"' then s.fetchNode (quotedScalar '"')
  else if s.atPlain then s.fetchPlain
  else
    unstartable ("found character ".toList ++ Text.quoted [x] ++
      " that cannot start any token".toList) c.mark
where
  unstartable (problem : Text) (mark : Mark) : Reading ScanState :=
    .error (.placed ⟨.scanning, some ("while scanning for the next token".toList, mark), problem,
      mark⟩)

/-- The tokens before the first possible key. -/
def settled (s : ScanState) : List Token :=
  match (s.possibleKeys.map PossibleKey.position).min? with
  | some n => s.tokens.toList.take n
  | none => s.tokens.toList

/-- Adds tokens up to the end of the block. -/
def runScan : Nat → ScanState → Scan
  | 0, s => ⟨s.settled, none⟩
  | fuel + 1, s =>
    if s.done then ⟨s.tokens.toList, none⟩
    else
      match s.fetch with
      | .error f => ⟨s.settled, some f⟩
      | .ok next =>
        if next.done then ⟨next.tokens.toList, none⟩
        else
          match next.dropStaleKeys with
          | .error f => ⟨s.settled, some f⟩
          | .ok next => runScan fuel next

end ScanState

/-- The tokens of a block. -/
def Scan.ofText (source : Text) : Scan :=
  (ScanState.start source).runScan (source.length + 2)

end Gamebook.Yaml
