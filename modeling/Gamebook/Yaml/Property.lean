import Gamebook.Yaml.Scalar

/-!
# Directives, anchors and tags

The marks that stand before a document or a node: directives, the names of anchors
and aliases, and tags, which are a handle with a suffix or a whole address.
-/

namespace Gamebook.Yaml

/-- Whether a character may stand in the name of an anchor, a handle or a directive. -/
def isNameChar (x : Char) : Bool := x.isAlphanum || x == '-' || x == '_'

/-! ## Addresses -/

/-- Whether a character may stand in an address as it is. -/
def isAddressChar (x : Char) : Bool :=
  x.isAlphanum || "-;/?:@&=+$,_.!~*'()[]".toList.contains x

/-- The bytes of a run of escapes of two hexadecimal digits each. -/
def escapedBytes (name : Text) (began : Mark) : Nat → Cursor → Reading (List Nat × Cursor)
  | 0, c => .ok ([], c)
  | fuel + 1, c =>
    if c.peek == '%' then
      let c := c.next
      let digits := c.rest.take 2
      let good := digits.takeWhile Text.isHexDigit
      if good.length < 2 then
        scanFault ("while scanning a ".toList ++ name) began
          ("expected URI escape sequence of 2 hexadecimal numbers, but found ".toList ++
            Text.quoted [c.peekAt good.length]) c.mark
      else do
        let byte := digits.foldl (fun n x => 16 * n + hexDigitValue x) 0
        let (more, c) ← escapedBytes name began fuel (c.forward 2)
        return (byte :: more, c)
    else .ok ([], c)

/-- The characters of an address and of its escapes. -/
def addressText (name : Text) (began : Mark) : Nat → Cursor → Reading (Text × Cursor)
  | 0, c => .ok ([], c)
  | fuel + 1, c => do
    let (run, c) := c.takeWhile isAddressChar
    if c.peek == '%' then
      let place := c.mark
      let (bytes, c) ← escapedBytes name began (c.rest.length + 1) c
      match Text.readUtf8 bytes with
      | .error e => scanFault ("while scanning a ".toList ++ name) began e.message place
      | .ok t =>
        let (more, c) ← addressText name began fuel c
        return (run ++ t ++ more, c)
    else return (run, c)

/-- An address with at least one character or escape. -/
def address (name : Text) (began : Mark) (c : Cursor) : Reading (Text × Cursor) := do
  let (t, after) ← addressText name began (c.rest.length + 1) c
  if after.mark.index == c.mark.index then
    unexpected ("while parsing a ".toList ++ name) began "URI".toList c
  else return (t, after)

/-- A handle: one exclamation mark, or a name between two. -/
def tagHandle (name : Text) (began : Mark) (c : Cursor) : Reading (Text × Cursor) :=
  let what := "while scanning a ".toList ++ name
  if c.peek != '!' then unexpected what began "'!'".toList c
  else if c.peekAt 1 == ' ' then .ok (['!'], c.next)
  else
    let (handle, after) := c.next.takeWhile isNameChar
    if after.peek != '!' then unexpected what began "'!'".toList after
    else .ok ('!' :: handle ++ ['!'], after.next)

/-! ## Tags -/

/-- Whether an exclamation mark stands in the text before the next space or break. -/
def hasHandle (t : Text) : Bool :=
  (t.takeWhile fun x => !Cursor.isSpaceOrEnd x).contains '!'

/-- A tag, from its exclamation mark on. -/
def tag (c : Cursor) : Reading (Token × Cursor) := do
  let began := c.mark
  let x := c.peekAt 1
  let (handle, suffix, c) ←
    if x == '<' then do
      let (suffix, c) ← address "tag".toList began (c.forward 2)
      if c.peek != '>' then unexpected "while parsing a tag".toList began "'>'".toList c
      else pure (none, suffix, c.next)
    else if Cursor.isBlankOrEnd x then pure (none, ['!'], c.next)
    else if hasHandle c.rest.tail then do
      let (handle, c) ← tagHandle "tag".toList began c
      let (suffix, c) ← address "tag".toList began c
      pure (some handle, suffix, c)
    else do
      let (suffix, c) ← address "tag".toList began c.next
      pure (some ['!'], suffix, c)
  if Cursor.isSpaceOrEnd c.peek then return (⟨.tag handle suffix, began, c.mark⟩, c)
  else unexpected "while scanning a tag".toList began "' '".toList c

/-! ## Anchors -/

/-- The name of an anchor or an alias, from its indicator on. -/
def anchorName (name : Text) (c : Cursor) : Reading (Text × Cursor) :=
  let began := c.mark
  let what := "while scanning an ".toList ++ name
  let (t, after) := c.next.takeWhile isNameChar
  if t.isEmpty || !(Cursor.isBlankOrEnd after.peek || "?:,]\x7d%@\x60".toList.contains after.peek)
  then unexpected what began "alphabetic or numeric character".toList after
  else .ok (t, after)

/-- An anchor or an alias as a token. -/
def anchorToken (what : Text) (kind : Text → TokenKind) (c : Cursor) :
    Reading (Token × Cursor) := do
  let (name, after) ← anchorName what c
  return (⟨kind name, c.mark, after.mark⟩, after)

/-- The name of a node, for aliases further on. -/
def anchor (c : Cursor) : Reading (Token × Cursor) := anchorToken "anchor".toList .anchor c

/-- A reference to a node by its name. -/
def aliasMark (c : Cursor) : Reading (Token × Cursor) := anchorToken "alias".toList .aliasMark c

/-! ## Directives -/

/-- What a fault in a directive says it was at. -/
def directiveName : Text := "while scanning a directive".toList

/-- A number of a version. -/
def versionNumber (began : Mark) (c : Cursor) : Reading (Nat × Cursor) :=
  let (ds, after) := c.takeWhile Text.isAsciiDigit
  if ds.isEmpty then unexpected directiveName began "a digit".toList c
  else
    match Number.read ds with
    | .ok n => .ok (n, after)
    | .error e => .error (.numeral e)

/-- The place behind the spaces of a line. -/
def skipSpaces (c : Cursor) : Cursor := c.skipWhile (· == ' ')

/-- The two numbers of a version. -/
def versionDirective (began : Mark) (c : Cursor) : Reading (Directive × Cursor) := do
  let (major, c) ← versionNumber began (skipSpaces c)
  if c.peek != '.' then unexpected directiveName began "a digit or '.'".toList c
  else
    let (minor, c) ← versionNumber began c.next
    if Cursor.isSpaceOrEnd c.peek then return (.version major minor, c)
    else unexpected directiveName began "a digit or ' '".toList c

/-- A handle and what it stands for. -/
def handleDirective (began : Mark) (c : Cursor) : Reading (Directive × Cursor) := do
  let (handle, c) ← tagHandle "directive".toList began (skipSpaces c)
  if c.peek != ' ' then unexpected directiveName began "' '".toList c
  else
    let (start, c) ← address "directive".toList began (skipSpaces c)
    if Cursor.isSpaceOrEnd c.peek then return (.tagHandle handle start, c)
    else unexpected directiveName began "' '".toList c

/-- A directive, from its percent sign to the end of its line. -/
def directive (c : Cursor) : Reading (Token × Cursor) := do
  let began := c.mark
  let (name, c) := c.next.takeWhile isNameChar
  if name.isEmpty || !Cursor.isSpaceOrEnd c.peek then
    unexpected directiveName began "alphabetic or numeric character".toList c
  else
    let (d, stop, c) ←
      if name == "YAML".toList then do
        let (d, c) ← versionDirective began c
        pure (d, c.mark, c)
      else if name == "TAG".toList then do
        let (d, c) ← handleDirective began c
        pure (d, c.mark, c)
      else pure (.reserved, c.mark, c.skipWhile fun x => !isBreak x)
    let c ← ignoredLine directiveName began c
    return (⟨.directive d, began, stop⟩, c)

end Gamebook.Yaml
