import Gamebook.Yaml.Token

/-!
# Scalars as they are written

The four ways to write a scalar: plain, between quotes, and as a block of indented
lines that are kept or folded. Line breaks inside a scalar fold to a space, or to
one break less than were written, except in a kept block.
-/

namespace Gamebook.Yaml

/-- The value of a digit to base sixteen. -/
def hexDigitValue (c : Char) : Nat :=
  if '0' ≤ c && c ≤ '9' then c.toNat - '0'.toNat
  else if 'a' ≤ c && c ≤ 'f' then c.toNat - 'a'.toNat + 10
  else c.toNat - 'A'.toNat + 10

/-- The code points of a text. -/
def codesOf (t : Text) : List Nat := t.map Char.toNat

/-- The break of a line and the empty lines after it, folded. -/
def foldBreaks (first : Text) (more : Text) : Text :=
  if first != ['\n'] then first ++ more else if more.isEmpty then [' '] else more

/-! ## Quoted scalars -/

/-- What a one-letter escape stands for. -/
def escapeTable : List (Char × Nat) :=
  [('0', 0), ('a', 7), ('b', 8), ('t', 9), ('\t', 9), ('n', 10), ('v', 11), ('f', 12), ('r', 13),
    ('e', 0x1b), (' ', 0x20), ('"', 0x22), ('\\', 0x5c), ('/', 0x2f), ('N', 0x85), ('_', 0xa0),
    ('L', 0x2028), ('P', 0x2029)]

/-- How many hexadecimal digits follow the letter of an escape. -/
def escapeWidth? : Char → Option Nat
  | 'x' => some 2
  | 'u' => some 4
  | 'U' => some 8
  | _ => none

/-- What a fault in a quoted scalar says it was at. -/
def quotedName (double : Bool) : Text :=
  (if double then "while scanning a double-quoted scalar"
    else "while scanning a quoted scalar").toList

/-- The empty lines after a line break inside quotes. No document marker may stand there. -/
def quotedBreaks (began : Mark) : Nat → Cursor → Reading (Text × Cursor)
  | 0, c => .ok ([], c)
  | fuel + 1, c =>
    if c.atDocumentMarker then
      scanFault "while scanning a quoted scalar".toList began
        "found unexpected document separator".toList c.mark
    else
      let c := c.skipWhile fun x => x == ' ' || x == '\t'
      match c.lineBreak with
      | ([], _) => .ok ([], c)
      | (b, c) => do
        let (more, c) ← quotedBreaks began fuel c
        return (b ++ more, c)

/-- The code point of an escape of `width` hexadecimal digits. -/
def hexEscape (began : Mark) (width : Nat) (c : Cursor) : Reading (Nat × Cursor) :=
  let digits := c.rest.take width
  let good := digits.takeWhile Text.isHexDigit
  if good.length < width then
    scanFault (quotedName true) began
      ("expected escape sequence of ".toList ++ Number.writeNat width ++
        " hexadecimal numbers, but found ".toList ++ Text.quoted [c.peekAt good.length]) c.mark
  else
    let code := digits.foldl (fun n x => 16 * n + hexDigitValue x) 0
    if 0x80000000 ≤ code then .error .oversizedCharacter
    else if 0x110000 ≤ code then .error .notCharacter
    else .ok (code, c.forward width)

/-- Whether a character ends a plain run inside quotes. -/
def endsQuotedRun (x : Char) : Bool :=
  x == '\'' || x == '"' || x == '\\' || Cursor.isBlankOrEnd x

/-- The part of a quoted scalar up to the next space, break or closing quote. -/
def quotedRun (double : Bool) (began : Mark) : Nat → Cursor → Reading (List Nat × Cursor)
  | 0, c => .ok ([], c)
  | fuel + 1, c => do
    let (run, c) := c.takeWhile fun x => !endsQuotedRun x
    let x := c.peek
    let (codes, c, goOn) ←
      if !double && x == '\'' && c.peekAt 1 == '\'' then pure ([x.toNat], c.forward 2, true)
      else if (double && x == '\'') || (!double && (x == '"' || x == '\\')) then
        pure ([x.toNat], c.next, true)
      else if double && x == '\\' then do
        let c := c.next
        let letter := c.peek
        match escapeTable.find? fun e => e.1 == letter with
        | some e => pure ([e.2], c.next, true)
        | none =>
          match escapeWidth? letter with
          | some width =>
            let (code, c) ← hexEscape began width c.next
            pure ([code], c, true)
          | none =>
            if isBreak letter then
              let (more, c) ← quotedBreaks began (c.rest.length + 1) c.lineBreak.2
              pure (codesOf more, c, true)
            else
              scanFault (quotedName true) began
                ("found unknown escape character ".toList ++ Text.quoted [letter]) c.mark
      else pure ([], c, false)
    if goOn then
      let (more, c) ← quotedRun double began fuel c
      return (codesOf run ++ codes ++ more, c)
    else return (codesOf run, c)

/-- The spaces, or the folded line breaks, between two runs of a quoted scalar. -/
def quotedSpaces (began : Mark) (c : Cursor) : Reading (Text × Cursor) :=
  let (spaces, c) := c.takeWhile fun x => x == ' ' || x == '\t'
  if c.rest.isEmpty then
    scanFault "while scanning a quoted scalar".toList began
      "found unexpected end of stream".toList c.mark
  else
    match c.lineBreak with
    | ([], _) => .ok (spaces, c)
    | (b, c) => do
      let (more, c) ← quotedBreaks began (c.rest.length + 1) c
      return (foldBreaks b more, c)

/-- The runs of a quoted scalar up to its closing quote. -/
def quotedRuns (quote : Char) (began : Mark) : Nat → Cursor → Reading (List Nat × Cursor)
  | 0, c => .ok ([], c)
  | fuel + 1, c => do
    let (codes, c) ← quotedRun (quote == '"') began (c.rest.length + 1) c
    if c.peek == quote then return (codes, c)
    else
      let (spaces, c) ← quotedSpaces began c
      let (more, c) ← quotedRuns quote began fuel c
      return (codes ++ codesOf spaces ++ more, c)

/-- A quoted scalar, from its opening quote on. -/
def quotedScalar (quote : Char) (c : Cursor) : Reading (Token × Cursor) := do
  let began := c.mark
  let (codes, c) ← quotedRuns quote began (c.rest.length + 1) c.next
  let c := c.next
  return (⟨.scalar codes .quoted, began, c.mark⟩, c)

/-! ## Plain scalars -/

/-- The characters that end a plain scalar inside brackets. -/
def isFlowIndicator (x : Char) : Bool :=
  x == ',' || x == '[' || x == ']' || x == '\x7b' || x == '\x7d'

/-- How many characters from the start of the text on belong to a run of a plain scalar. -/
def plainRunLength (inFlow : Bool) : Text → Nat
  | [] => 0
  | x :: rest =>
    let after := rest.headD Cursor.endMark
    if Cursor.isBlankOrEnd x ||
        (x == ':' && (Cursor.isBlankOrEnd after || (inFlow && isFlowIndicator after))) ||
        (inFlow && (x == '?' || isFlowIndicator x)) then 0
    else plainRunLength inFlow rest + 1

/-- The empty lines after a line break of a plain scalar; nothing when a document marker ends it. -/
def plainBreaks : Nat → Cursor → Option Text × Cursor
  | 0, c => (some [], c)
  | fuel + 1, c =>
    let c := c.skipWhile (· == ' ')
    match c.lineBreak with
    | ([], _) => (some [], c)
    | (b, c) =>
      if c.atDocumentMarker then (none, c)
      else
        let (more, c) := plainBreaks fuel c
        (more.map (b ++ ·), c)

/-- The spaces or the folded line breaks after a run of a plain scalar, whether a line break was
passed, and the place after them. Nothing when the scalar ends there for certain. -/
def plainSpaces (c : Cursor) : Option Text × Bool × Cursor :=
  let (spaces, c) := c.takeWhile (· == ' ')
  match c.lineBreak with
  | ([], _) => (if spaces.isEmpty then none else some spaces, false, c)
  | (b, c) =>
    if c.atDocumentMarker then (none, true, c)
    else
      match plainBreaks (c.rest.length + 1) c with
      | (none, c) => (none, true, c)
      | (some more, c) => (some (foldBreaks b more), true, c)

/-- What a plain scalar leaves behind: its text, its end, the place reached, and whether a simple
key may follow there. -/
structure PlainRun where
  text : Text
  stop : Mark
  cursor : Cursor
  keyMayFollow : Bool

/-- The runs of a plain scalar. `spaces` stand before the next run if there is one. -/
def plainRuns (inFlow : Bool) (indent : Int) (spaces : Text) : Nat → PlainRun → PlainRun
  | 0, p => p
  | fuel + 1, p =>
    let c := p.cursor
    if c.peek == '#' then p
    else
      let length := plainRunLength inFlow c.rest
      if length == 0 then p
      else
        let run := c.rest.take length
        let c := c.forward length
        let text := p.text ++ spaces ++ run
        match plainSpaces c with
        | (none, broke, after) => ⟨text, c.mark, after, broke⟩
        | (some spaces, broke, after) =>
          let p : PlainRun := ⟨text, c.mark, after, broke⟩
          if after.peek == '#' || (!inFlow && after.column < indent) then p
          else plainRuns inFlow indent spaces fuel p

/-- A plain scalar of a collection indented by `indent`, and whether a simple key may follow. -/
def plainScalar (inFlow : Bool) (indent : Int) (c : Cursor) : Token × Cursor × Bool :=
  let p := plainRuns inFlow (indent + 1) [] (c.rest.length + 1) ⟨[], c.mark, c, false⟩
  (⟨.scalar (codesOf p.text) .plain, c.mark, p.stop⟩, p.cursor, p.keyMayFollow)

/-! ## Block scalars -/

/-- What becomes of the line breaks at the end of a block scalar. -/
inductive Chomping where
  | strip
  | clip
  | keep
deriving DecidableEq

/-- What a fault in a block scalar says it was at. -/
def blockName : Text := "while scanning a block scalar".toList

/-- The sign that tells the chomping, if one stands at the place. -/
def takeChomping (c : Cursor) : Option Chomping × Cursor :=
  if c.peek == '+' then (some .keep, c.next)
  else if c.peek == '-' then (some .strip, c.next)
  else (none, c)

/-- The digit that tells the indentation, if one stands at the place. -/
def takeIncrement (began : Mark) (c : Cursor) : Reading (Option Nat × Cursor) :=
  let x := c.peek
  if x == '0' then
    scanFault blockName began
      "expected indentation indicator in the range 1-9, but found 0".toList c.mark
  else if '1' ≤ x && x ≤ '9' then .ok (some (x.toNat - '0'.toNat), c.next)
  else .ok (none, c)

/-- The indicators after the first character of a block scalar, in either order. -/
def blockIndicators (began : Mark) (c : Cursor) :
    Reading (Chomping × Option Nat × Cursor) := do
  let (first, c) := takeChomping c
  let (increment, c) ← takeIncrement began c
  let (chomping, c) := match first, increment with
    | none, some _ => takeChomping c
    | _, _ => (first, c)
  if Cursor.isSpaceOrEnd c.peek then return (chomping.getD .clip, increment, c)
  else unexpected blockName began "chomping or indentation indicators".toList c

/-- The rest of a line that may hold nothing but a comment. -/
def ignoredLine (what : Text) (began : Mark) (c : Cursor) : Reading Cursor :=
  let c := c.skipWhile (· == ' ')
  let c := if c.peek == '#' then c.skipWhile fun x => !isBreak x else c
  if Cursor.isBreakOrEnd c.peek then .ok c.lineBreak.2
  else unexpected what began "a comment or a line break".toList c

/-- The empty lines before the first line with contents, the widest of their indentations, and the
end of the last of them. -/
def blockIndentation (widest : Nat) (stop : Mark) : Nat → Cursor → Text × Nat × Mark × Cursor
  | 0, c => ([], widest, stop, c)
  | fuel + 1, c =>
    if c.peek == ' ' then
      let c := c.next
      blockIndentation (max widest c.mark.column) stop fuel c
    else
      match c.lineBreak with
      | ([], _) => ([], widest, stop, c)
      | (b, c) =>
        let (more, r) := blockIndentation widest c.mark fuel c
        (b ++ more, r)

/-- Skips spaces up to a column. -/
def skipIndent (indent : Int) : Nat → Cursor → Cursor
  | 0, c => c
  | fuel + 1, c =>
    if c.column < indent && c.peek == ' ' then skipIndent indent fuel c.next else c

/-- The empty lines between two lines of a block scalar, and the end of the last of them. -/
def blockBreaks (indent : Int) (stop : Mark) : Nat → Cursor → Text × Mark × Cursor
  | 0, c => ([], stop, c)
  | fuel + 1, c =>
    let c := skipIndent indent (c.rest.length + 1) c
    match c.lineBreak with
    | ([], _) => ([], stop, c)
    | (b, c) =>
      let (more, r) := blockBreaks indent c.mark fuel c
      (b ++ more, r)

/-- The blanks within a line. -/
def isSpaceOrTab (x : Char) : Bool := x == ' ' || x == '\t'

/-- What the lines of a block scalar leave behind: its text so far, the last line break, the empty
lines after it, the end, and the place reached. -/
structure BlockRun where
  text : Text
  lastBreak : Text
  breaks : Text
  stop : Mark
  cursor : Cursor

/-- The lines of a block scalar that begin at the column `indent`. -/
def blockLines (folded : Bool) (indent : Int) : Nat → BlockRun → BlockRun
  | 0, b => b
  | fuel + 1, b =>
    let c := b.cursor
    if c.column == indent && !c.rest.isEmpty then
      let startsDense := !isSpaceOrTab c.peek
      let (line, c) := c.takeWhile fun x => !isBreak x
      let (lineBreak, c) := c.lineBreak
      let (breaks, stop, c) := blockBreaks indent c.mark (c.rest.length + 1) c
      let text := b.text ++ b.breaks ++ line
      if c.column == indent && !c.rest.isEmpty then
        let joined :=
          if folded && lineBreak == ['\n'] && startsDense && !isSpaceOrTab c.peek then
            if breaks.isEmpty then [' '] else []
          else lineBreak
        blockLines folded indent fuel ⟨text ++ joined, lineBreak, breaks, stop, c⟩
      else ⟨text, lineBreak, breaks, stop, c⟩
    else b

/-- A block scalar of a collection indented by `outer`, from its first character on. -/
def blockScalar (folded : Bool) (outer : Int) (c : Cursor) : Reading (Token × Cursor) := do
  let began := c.mark
  let (chomping, increment, c) ← blockIndicators began c.next
  let c ← ignoredLine blockName began c
  let least := max (outer + 1) 1
  let (indent, breaks, stop, c) := match increment with
    | none =>
      let (breaks, widest, stop, c) := blockIndentation 0 c.mark (c.rest.length + 1) c
      (max least widest, breaks, stop, c)
    | some n =>
      let indent := least + n - 1
      let (breaks, stop, c) := blockBreaks indent c.mark (c.rest.length + 1) c
      (indent, breaks, stop, c)
  let b := blockLines folded indent (c.rest.length + 1) ⟨[], [], breaks, stop, c⟩
  let text := match chomping with
    | .strip => b.text
    | .clip => b.text ++ b.lastBreak
    | .keep => b.text ++ b.lastBreak ++ b.breaks
  return (⟨.scalar (codesOf text) .quoted, began, b.stop⟩, b.cursor)

end Gamebook.Yaml
