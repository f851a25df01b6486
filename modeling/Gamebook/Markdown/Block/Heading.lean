import Gamebook.Markdown.Block.Basic
import Gamebook.Text.Blank

/-!
# Headings and rules

A heading is a line that opens with number signs, anywhere in a paragraph, or the
first line of a paragraph above a line of hyphens or equals signs. A line of hyphens,
underscores or stars, with little space between them, is a rule.
-/

namespace Gamebook.Markdown

/-- A heading of a level, from one on. -/
def Block.ofHeading (level : Nat) (text : Text) : Block :=
  { ofText "h" (Text.trim text) with tag := 'h' :: Nat.toDigits 10 level }

/-! ## Headings with signs -/

/-- Whether closing number signs end the line here, and what follows it. -/
def afterHeading? (t : Text) : Option Text :=
  match t.dropWhile (· == '#') with
  | [] => some []
  | '\n' :: rest => some rest
  | _ => none

/-- The text of a heading after its opening signs, and what follows its line. A backslash keeps
the character after it from closing the heading, and none may end its line. -/
def takeHeading? : Text → Option (Text × Text)
  | [] => some ([], [])
  | c :: t =>
    match afterHeading? (c :: t) with
    | some rest => some ([], rest)
    | none =>
      if c == '\\' then
        match t with
        | [] => none
        | '\n' :: _ => none
        | x :: rest => (takeHeading? rest).map fun r => (c :: x :: r.1, r.2)
      else (takeHeading? t).map fun r => (c :: r.1, r.2)

/-- A heading among lines: the lines before it, its level and text, and the text after it. -/
structure SignedHeading where
  before : List Text
  level : Nat
  text : Text
  after : Text

/-- The heading that the first of some lines makes. -/
def SignedHeading.ofFirst? (lines : List Text) : Option SignedHeading :=
  let text := ofLines lines
  let level := min (text.takeWhile (· == '#')).length 6
  if level == 0 then none
  else (takeHeading? (text.drop level)).map fun (text, after) => ⟨[], level, text, after⟩

/-- The first heading among lines. -/
def SignedHeading.find? : List Text → Option SignedHeading
  | [] => none
  | line :: lines =>
    match ofFirst? (line :: lines) with
    | some h => some h
    | none => (find? lines).map fun h => { h with before := line :: h.before }

/-- A paragraph with a heading: what stands before it is read first, what stands after it next. -/
def headingRule : Rule := fun read setting paragraph others g =>
  match SignedHeading.find? (linesOf paragraph) with
  | some h =>
    let before := ofLines h.before
    let g := if before.isEmpty then g else read setting [before] g
    let after := if setting == .looseItem then outdent 1 h.after else h.after
    some (leave after others, g.map (·.append (Block.ofHeading h.level h.text)))
  | none => none

/-! ## Underlined headings -/

/-- Whether a line underlines a heading. -/
def isUnderline (line : Text) : Bool :=
  let strokes := Text.dropEndWhile (· == ' ') line
  !strokes.isEmpty && strokes.all fun c => c == '=' || c == '-'

/-- A paragraph whose second line underlines the first. -/
def underlineRule : Rule := fun _ _ paragraph others g =>
  match linesOf paragraph with
  | title :: line :: lines =>
    if isUnderline line then
      let level := if line.head? == some '=' then 1 else 2
      some (leave (ofLines lines) others, g.map (·.append (Block.ofHeading level title)))
    else none
  | _ => none

/-! ## Rules across the page -/

/-- Whether at most two spaces stand between neighbours among the strokes. -/
def areClose : Nat → Text → Bool
  | _, [] => true
  | gap, c :: t => if c == ' ' then gap < 2 && areClose (gap + 1) t else areClose 0 t

/-- Whether a line is a rule: three or more of one stroke. -/
def isRuleLine (line : Text) : Bool :=
  match afterMargin? line with
  | some strokes =>
    let strokes := Text.dropEndWhile (· == ' ') strokes
    match strokes with
    | c :: _ =>
      (c == '-' || c == '_' || c == '*') && strokes.all (fun x => x == c || x == ' ') &&
        3 ≤ strokes.count c && areClose 0 strokes
    | [] => false
  | none => false

/-- What follows the line feeds in front. -/
def dropLineFeeds (t : Text) : Text := t.dropWhile (· == '\n')

/-- A paragraph with a rule: what stands before it is read first, what stands after it next. -/
def pageRule : Rule := fun read setting paragraph others g =>
  match (linesOf paragraph).span fun line => !isRuleLine line with
  | (before, _ :: after) =>
    let before := Text.dropEndWhile (· == '\n') (ofLines before)
    let g := if before.isEmpty then g else read setting [before] g
    some (leave (dropLineFeeds (ofLines after)) others,
      g.map (·.append (Block.ofText "hr" [])))
  | (_, []) => none

end Gamebook.Markdown
