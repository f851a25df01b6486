import Gamebook.Html.Event
import Gamebook.Html.StartTag
import Gamebook.Markdown.BlockTag
import Gamebook.Markdown.Mark

/-!
# Raw HTML in a source

Elements that stand apart from running text, written as HTML at the start of a line,
are kept as they are up to their end tag, together with comments, declarations and
instructions there. Each such piece is set aside, and a mark stands for it between
empty lines. Tags inside of running text stay in it.

Markup that the end of the source cuts off is not known to be cut off until all of it
has been seen, so a source is read in two goes. The second go has only what the first
left over, while lines are still counted from the start; places found before are not
found anew.
-/

namespace Gamebook.Markdown.RawBlock

open Gamebook.Html (StartTag TagRules)

/-- The state of a reading. -/
structure Reader where
  /-- What this go reads. -/
  source : Text
  line : Nat
  column : Nat
  /-- The starts of the first lines, as far as they have been looked for. -/
  starts : List Nat
  /-- Whether the place is inside of a piece. -/
  inPiece : Bool
  /-- Whether the place is behind a piece on its last line. -/
  inTail : Bool
  /-- The open elements of the piece, the innermost first. -/
  stack : List Text
  /-- What the piece holds so far. -/
  held : Text
  /-- The running text and the marks in it, the last first. -/
  kept : List Text
  /-- The number of the next piece. -/
  number : Nat
  /-- The pieces, the last first. -/
  pieces : List Text

namespace Reader

/-- A reader at the start of a source, which numbers its pieces from a number on. -/
def start (number : Nat) (source : Text) : Reader :=
  ⟨source, 0, 0, [0], false, false, [], [], [], number, []⟩

/-! ## Places -/

/-- The starts of the lines up to a number, from the known ones on. -/
def extendStarts (source : Text) : Nat → List Nat → List Nat
  | 0, starts => starts
  | more + 1, starts =>
    let last := starts.getLastD 0
    let line := (source.drop last).takeWhile (· != '\n')
    extendStarts source more (starts ++ [min (last + line.length) source.length + 1])

/-- The place of the reading, as far as lines tell it. -/
def place (r : Reader) : Nat × Reader :=
  let r := { r with starts := extendStarts r.source (r.line + 1 - r.starts.length) r.starts }
  (r.starts.getD r.line 0 + r.column, r)

/-- Moves the place over a text. -/
def advance (passed : Text) (r : Reader) : Reader :=
  let lines := passed.count '\n'
  if lines == 0 then { r with column := r.column + passed.length }
  else
    { r with line := r.line + lines, column := (passed.reverse.takeWhile (· != '\n')).length }

/-- Whether the place is at the start of a line, after three spaces at most. -/
def atLineStart (r : Reader) : Bool × Reader :=
  if r.column == 0 then (true, r)
  else if r.column > 3 then (false, r)
  else
    let (place, r) := r.place
    (((r.source.drop (place - r.column)).take r.column).all Text.isBlank, r)

/-- Whether the rest of a line and the line after it are empty. -/
def emptyLineFollows (t : Text) : Bool :=
  match Text.dropSpaces t with
  | '\n' :: rest => (Text.dropSpaces rest).head? == some '\n'
  | _ => false

/-! ## What is read -/

/-- Adds running text, or a mark in it. -/
def keep (t : Text) (r : Reader) : Reader := { r with kept := t :: r.kept }

/-- Adds a text to the piece that is open. -/
def hold (t : Text) (r : Reader) : Reader := { r with held := r.held ++ t }

/-- Sets a piece aside, with an empty line after its mark. -/
def setAside (html : Text) (r : Reader) : Reader :=
  { r with
    kept := ['\n', '\n'] :: mark r.number :: r.kept
    pieces := html :: r.pieces
    number := r.number + 1 }

/-- Running text. -/
def addText (t : Text) (r : Reader) : Reader :=
  let r := if t.contains '\n' then { r with inTail := false } else r
  if r.inPiece then r.hold t else r.keep t

/-- Markup without contents: part of a piece, a piece of its own, or part of the text. -/
def addEmpty (markup : Text) (standsApart : Bool) (r : Reader) : Reader :=
  if r.inPiece || r.inTail then r.hold markup
  else
    let (atStart, r) := r.atLineStart
    if atStart && standsApart then
      let (place, r) := r.place
      let emptyLine := emptyLineFollows (r.source.drop (place + markup.length))
      let r := if emptyLine then r else { r with inTail := true }
      let last := r.kept.headD []
      let r :=
        if last.getLast? == some '\n' && last.dropLast.getLast? != some '\n' then r.keep ['\n']
        else r
      r.setAside (if emptyLine then markup ++ ['\n'] else markup)
    else r.keep markup

/-- A start tag; also tells whether its contents are text up to its end tag. -/
def addStartTag (name written : Text) (r : Reader) : Bool × Reader :=
  if name == "hr".toList then (false, r.addEmpty written true)
  else
    let (opens, r) :=
      if isBlockTag name then
        if r.inTail then (true, r) else r.atLineStart
      else (false, r)
    let r := if opens then { r with inPiece := true }.keep ['\n'] else r
    if r.inPiece then (Html.isRawElement name, { r with stack := name :: r.stack }.hold written)
    else (false, r.keep written)

/-- The text of an end tag, from its place to the next closing bracket. -/
def endTagText (name : Text) (r : Reader) : Text × Reader :=
  let (place, r) := r.place
  match (r.source.drop place).span (· != '>') with
  | (text, _ :: _) => (text ++ ['>'], r)
  | (_, []) => ("</".toList ++ name ++ ['>'], r)

/-- An end tag. It closes the nearest open element of its name and all inside of it; a piece ends
where its outermost element does. -/
def addEndTag (name : Text) (r : Reader) : Reader :=
  let (text, r) := r.endTagText name
  if r.inPiece then
    let r := r.hold text
    let r :=
      if r.stack.contains name then { r with stack := (r.stack.dropWhile (· != name)).tail } else r
    if r.stack.isEmpty then
      let (place, r) := r.place
      let emptyLine := emptyLineFollows (r.source.drop (place + text.length))
      let r := if emptyLine then r.hold ['\n'] else { r with inTail := true }
      { r with inPiece := false, held := [] }.setAside r.held
    else r
  else r.keep text

/-! ## What stands at a place -/

/-- What a step does: it takes part of the text, or the go ends here. -/
inductive Step where
  | read (r : Reader) (rest : Text)
  /-- The contents of an element are text up to its end tag. -/
  | readRaw (name : Text) (r : Reader) (rest : Text)
  /-- Markup that the text does not finish. -/
  | unfinished (r : Reader)
  | stop (r : Reader) (rest : Text)

/-- Takes the first characters of a text as text. -/
def textStep (length : Nat) (t : Text) (r : Reader) : Step :=
  .read (r.addText (t.take length)) (t.drop length)

/-- Takes markup up to a place, if it has an end. -/
def emptyStep (t : Text) (rest : Option Text) (standsApart : Bool) (r : Reader) : Step :=
  match rest with
  | some rest => .read (r.addEmpty (t.take (t.length - rest.length)) standsApart) rest
  | none => .unfinished r

/-- What follows a word in the text. -/
def afterWord? (word t : Text) : Option Text := (Text.cutAt? word t).map (·.2)

/-- What follows the end of a comment. -/
def comment (t : Text) (r : Reader) : Step :=
  match Html.afterComment? (t.drop 4) with
  | none => .unfinished r
  | some after =>
    let length := t.length - after.length
    if (t.take length).drop (length - 3) == "-->".toList && 7 ≤ length then
      .read (r.addEmpty (t.take length) true) after
    else textStep 1 t r

/-- A section of plain characters, marked as such. -/
def characterSection (t : Text) (r : Reader) : Step :=
  match Html.takeSection? true (t.drop 3) with
  | some (content, rest) =>
    .read (r.addEmpty ("<![".toList ++ content ++ "]]>".toList) true) rest
  | none => .unfinished r

/-- A declaration, a comment or a marked section. -/
def declaration (t : Text) (r : Reader) : Step :=
  let (atStart, r) := r.atLineStart
  if !(atStart || r.inTail) then textStep 2 t r
  else
    let toBracket := Html.afterFirst? '>' (t.drop 2)
    if Text.startsWith "<![CDATA[".toList t then characterSection t r
    else if Text.startsWith "<![".toList t then
      match toBracket with
      | some rest => emptyStep t (some rest) false r
      | none => textStep 1 t r
    else if Text.lower (t.take 9) == "<!doctype".toList then
      emptyStep t (Html.afterFirst? '>' (t.drop 9)) true r
    else emptyStep t toBracket false r

/-- An instruction ends with a question mark and a bracket. -/
def instruction (t : Text) (r : Reader) : Step :=
  let (atStart, r) := r.atLineStart
  if atStart || r.inTail then emptyStep t (afterWord? "?>".toList (t.drop 2)) true r
  else textStep 2 t r

/-- A step at an end tag; one that the source cuts off is not finished. -/
def endTag (t : Text) (r : Reader) : Step :=
  let inside := t.drop 2
  match Html.afterFirst? '>' inside with
  | none => .unfinished r
  | some afterEnd =>
    match Html.plainEndTag? inside with
    | some (name, rest) => .read (r.addEndTag (Text.lower name)) rest
    | none =>
      match inside with
      | '>' :: rest => .read r rest
      | c :: _ =>
        if Html.isLetter c then
          let (name, after) := inside.span fun x => !Html.endsTagName x
          let after := (Html.dropGaps true c after).2
          .read (r.addEndTag (Text.lower name)) ((Html.afterFirst? '>' after).getD [])
        else emptyStep t (some afterEnd) false r
      | [] => .unfinished r

/-- Names and bare values of a tag hold no backtick, so that a tag does not reach into code. -/
def tagRules : TagRules := ⟨false⟩

/-- A step at a start tag, which opens a piece, goes on with one or is text. -/
def startTag (t : Text) (r : Reader) : Except NumeralError Step := do
  match ← StartTag.read tagRules true t.tail with
  | .incomplete => return textStep 1 t r
  | .junk rest => return textStep (t.length - rest.length) t r
  | .tag tag rest =>
    let written := t.take (t.length - rest.length)
    if tag.selfClosing then return .read (r.addEmpty written (isBlockTag tag.name)) rest
    else
      match r.addStartTag tag.name written with
      | (true, r) => return .readRaw tag.name r rest
      | (false, r) => return .read r rest

/-- A reference with a number; it is written with a semicolon even if it has none. -/
def numberReference (t : Text) (r : Reader) : Step :=
  let body := t.drop 2
  let (sign, digits) := match body with
    | x :: rest => if x == 'x' || x == 'X' then ([x], rest) else ([], body)
    | [] => ([], body)
  let isDigit := if sign.isEmpty then Text.isAsciiDigit else Text.isHexDigit
  let (figures, after) := digits.span isDigit
  match figures, after with
  | _ :: _, next :: more =>
    if Text.isHexDigit next then bail
    else
      .read (r.addEmpty ("&#".toList ++ sign ++ figures ++ [';']) false)
        (if next == ';' then more else next :: more)
  | _, _ => bail
where
  bail : Step :=
    if t.contains ';' then .stop (r.addText (t.take 2)) (t.drop 2) else .stop r t

/-- A reference with a name needs its semicolon. -/
def nameReference (t : Text) (r : Reader) : Step :=
  match t.tail with
  | [] => .stop r t
  | c :: _ =>
    match t.tail.span Html.isNameChar with
    | (name, ';' :: rest) =>
      if Html.isLetter c then .read (r.addEmpty ('&' :: name ++ [';']) false) rest
      else textStep 1 t r
    | _ => textStep 1 t r

/-- What stands at an angle bracket or an ampersand. -/
def markup (t : Text) (r : Reader) : Except NumeralError Step :=
  match t with
  | '&' :: '#' :: _ => .ok (numberReference t r)
  | '&' :: _ => .ok (nameReference t r)
  | '<' :: '/' :: _ => .ok (endTag t r)
  | '<' :: '!' :: '-' :: '-' :: _ => .ok (comment t r)
  | '<' :: '?' :: _ => .ok (instruction t r)
  | '<' :: '!' :: _ => .ok (declaration t r)
  | _ :: c :: _ => if Html.isLetter c then startTag t r else .ok (textStep 1 t r)
  | _ => .ok (.stop r t)

/-! ## The two goes -/

/-- The state after a step that took a text up to a rest. -/
def passed (t rest : Text) (r : Reader) : Reader := r.advance (t.take (t.length - rest.length))

/-- Reads a text, in the second go if `final`. -/
def goOn (final : Bool) : Nat → Reader → Text → Except NumeralError Reader
  | 0, r, _ => .ok r
  | fuel + 1, r, t => do
    let (plain, here) := t.span fun c => c != '<' && c != '&'
    let r := if plain.isEmpty then r else (r.addText plain).advance plain
    if here.isEmpty then return r
    match ← markup here r with
    | .read r rest => goOn final fuel (passed here rest r) rest
    | .readRaw name r rest =>
      let r := passed here rest r
      match Html.takeRaw? name rest with
      | some (_, after) =>
        let taken := rest.take (rest.length - after.length)
        let content := contentOf taken
        let r := if content.isEmpty then r else (r.addText content).advance content
        goOn final fuel (passed (taken.drop content.length) [] (r.addEndTag name)) after
      | none => return r.addText rest
    | .unfinished r =>
      if final then
        let rest := (Html.asText here.tail).2
        goOn true fuel (passed here rest (r.addText (here.take (here.length - rest.length)))) rest
      else goOn true fuel { r with source := here } here
    | .stop r rest =>
      let r := passed here rest r
      if final then return if rest.isEmpty then r else r.addText rest
      else goOn true fuel { r with source := rest } rest
where
  /-- The text without the end tag at its end. -/
  contentOf (taken : Text) : Text :=
    ((taken.reverse.dropWhile (· != '<')).drop 1).reverse

/-- Ends a reading: what is still held is a piece. -/
def finish (r : Reader) : Text × List Text :=
  let (kept, pieces) :=
    if r.held.isEmpty then (r.kept, r.pieces) else (mark r.number :: r.kept, r.held :: r.pieces)
  (kept.reverse.flatten, pieces.reverse)

end Reader

/-- The running text of a source with marks for its pieces, numbered from `number` on, and the
pieces. -/
def setAside (number : Nat) (source : Text) : Except NumeralError (Text × List Text) :=
  (Reader.goOn false (2 * source.length + 4) (Reader.start number source) source).map Reader.finish

end Gamebook.Markdown.RawBlock
