import Gamebook.Table.DieSize
import Gamebook.Text.Line

/-!
# Tables in a narrative

A table is a header row, a separator and at least one more row, each a line of its
own that begins and ends with a pipe. Where the header names a die the table can be
rolled, and it is put between two marks that survive the rendering as paragraphs of
their own.
-/

namespace Gamebook.TableBlock

/-- The blanks that may stand around a row. -/
def isTabOrSpace (c : Char) : Bool := c == ' ' || c == '\t'

/-- A line without one carriage return at its end. -/
def dropReturn (line : Text) : Text := if line.getLast? == some '\r' then line.dropLast else line

/-- Whether a text begins with one pipe and ends with another. -/
def isFramed (t : Text) : Bool := t.head? == some '|' && t.getLast? == some '|' && 2 ≤ t.length

/-- Whether a line is a row: it is framed by pipes, blanks at the end apart. -/
def isRow (line : Text) : Bool :=
  let t := dropReturn line
  isFramed (Text.dropEndWhile isTabOrSpace t) && !t.contains '\r'

/-- The characters between the bars of a separator. -/
def isSeparatorChar (c : Char) : Bool := c == '-' || c == ':' || c == '|' || isTabOrSpace c

/-- Whether a line is a separator: it is framed by pipes and holds something between them. -/
def isSeparator (line : Text) : Bool :=
  let t := Text.dropEndWhile isTabOrSpace (dropReturn line)
  isFramed t && 3 ≤ t.length && t.all isSeparatorChar

/-- The number of lines of the table that the lines begin with; zero if they begin with none. -/
def blockLength : List Text → Nat
  | header :: separator :: row :: rest =>
    if isRow header && isSeparator separator && isRow row then
      3 + (rest.takeWhile isRow).length
    else 0
  | _ => 0

/-- A stretch of a narrative: a line outside of tables, or the lines of a table. -/
inductive Segment where
  | line (t : Text)
  | block (lines : List Text)
deriving DecidableEq

/-- The segments of lines of which the first `skip` belong to a table that has been taken. -/
def segmentsFrom : Nat → List Text → List Segment
  | _, [] => []
  | skip + 1, _ :: ls => segmentsFrom skip ls
  | 0, l :: ls =>
    match blockLength (l :: ls) with
    | 0 => .line l :: segmentsFrom 0 ls
    | n + 1 => .block ((l :: ls).take (n + 1)) :: segmentsFrom n ls

/-- The segments of a narrative. -/
def segments (narrative : Text) : List Segment := segmentsFrom 0 (Text.splitOn '\n' narrative)

/-- Lines put together with line feeds between them. -/
def joinLines (ls : List Text) : Text := Text.joinWith ['\n'] ls

/-- The mark before a table with a die, and the mark after it. -/
def openMark (size : Nat) : Text :=
  "\x7b\x7bROLLTABLE::d".toList ++ Number.writeNat size ++ "\x7d\x7d".toList
/-- The mark behind a table, the same for every die. -/
def closeMark : Text := "\x7b\x7b/ROLLTABLE\x7d\x7d".toList

/-- The first line of a table, up to any line boundary. -/
def headerOf (block : Text) : Text := ((Text.lines block).head?).getD []

/-- A table between its marks, if its header names a die. -/
def tagBlock (ls : List Text) : Except NumeralError Text := do
  let block := joinLines ls
  match ← Table.dieSize? (headerOf block) with
  | none => return block
  | some size =>
    return "\n\n".toList ++ openMark size ++ "\n\n".toList ++ block ++ "\n\n".toList ++
      closeMark ++ "\n\n".toList

/-- A segment of a narrative with its tables marked; running text stays as it is. -/
def tagSegment : Segment → Except NumeralError Text
  | .line t => .ok t
  | .block ls => tagBlock ls

/-- A narrative with marks around its tables that name a die. -/
def tagTables (narrative : Text) : Except NumeralError Text := do
  let parts ← (segments narrative).mapM tagSegment
  return joinLines parts

end Gamebook.TableBlock
