import Gamebook.Markdown.Block.Basic

/-!
# Tables

A paragraph is a table if its first line has cells and its second line separates them
from the rows below: as many cells, of hyphens with colons for the alignment. Cells
end at bars; a bar in code or behind a backslash is part of a cell. A single column
needs a border on each of its lines.
-/

namespace Gamebook.Markdown

/-! ## Cells of a row -/

/-- A part of a row. -/
inductive RowPart where
  | text (t : Text)
  | bar
  /-- A run of backticks; a backslash may stand before it. -/
  | ticks (count : Nat) (escaped : Bool)

/-- The part of a row as it was written. -/
def RowPart.spell : RowPart → Text
  | text t => t
  | bar => ['|']
  | ticks count escaped => (if escaped then ['\\'] else []) ++ List.replicate count '\x60'

/-- The parts of a row. A backslash keeps the character after it from being more than text, but
for backticks it only counts as one of them less. -/
def rowParts : Nat → Text → List RowPart
  | 0, _ => []
  | fuel + 1, t =>
    let ticksAt (t : Text) : Nat := (t.takeWhile (· == '\x60')).length
    match t with
    | [] => []
    | '\\' :: '\\' :: rest => .text ['\\', '\\'] :: rowParts fuel rest
    | '\\' :: '|' :: rest => .text ['\\', '|'] :: rowParts fuel rest
    | '|' :: rest => .bar :: rowParts fuel rest
    | c :: rest =>
      let escaped := c == '\\'
      let count := ticksAt (if escaped then rest else t)
      if count == 0 then .text [c] :: rowParts fuel rest
      else .ticks count escaped :: rowParts fuel ((if escaped then rest else t).drop count)

/-- How many parts belong to the code that a part opens: those up to the next run of as many
backticks. -/
def codeLength (part : RowPart) (rest : List RowPart) : Nat :=
  match part with
  | .ticks count escaped =>
    let size := if escaped then count - 1 else count
    let closes : RowPart → Bool
      | .ticks n _ => n == size
      | _ => false
    if size == 0 then 0
    else
      match rest.findIdx? closes with
      | some i => i + 1
      | none => 0
  | _ => 0

/-- Puts a text in front of the first cell. -/
def joinCell (t : Text) : List Text → List Text
  | [] => [t]
  | cell :: cells => (t ++ cell) :: cells

/-- The cells of some parts, of which the first `skip` ones are code. -/
def cellsFrom : Nat → List RowPart → List Text
  | _, [] => [[]]
  | skip + 1, part :: rest => joinCell part.spell (cellsFrom skip rest)
  | 0, part :: rest =>
    match part with
    | .bar => [] :: cellsFrom 0 rest
    | _ => joinCell part.spell (cellsFrom (codeLength part rest) rest)

/-- A text without the spaces at its ends. -/
def stripSpaces (t : Text) : Text := Text.stripBy (· == ' ') t

/-- A row without the bar at its end, if it has one: a bar that no backslash escapes. Pairs of
backslashes before the bar go with it. -/
def dropEndBorder? (row : Text) : Option Text :=
  match row.reverse with
  | '|' :: rest =>
    let (slashes, before) := rest.span (· == '\\')
    if slashes.length % 2 == 0 then some before.reverse else none
  | _ => none

/-- The cells of a row, without its borders if the table has some. -/
def rowCells (bordered : Bool) (row : Text) : List Text :=
  let row :=
    if bordered then
      let row := match row with
        | '|' :: rest => rest
        | _ => row
      (dropEndBorder? row).getD row
    else row
  cellsFrom 0 (rowParts row.length row)

/-! ## Tables -/

/-- What the first two lines of a table say: whether rows have borders, and the separators. -/
structure GridHead where
  bordered : Bool
  separators : List Text

/-- Whether a row begins or ends with a bar. -/
def hasBorder (row : Text) : Bool := row.head? == some '|' || (dropEndBorder? row).isSome

/-- Reads the lines of a paragraph as those of a table. -/
def GridHead.read? (rows : List Text) : Option GridHead :=
  match rows with
  | header :: separator :: more =>
    let bordered := hasBorder header
    let width := (rowCells bordered header).length
    let wide :=
      1 < width || (width == 1 && bordered && (separator :: more).all hasBorder)
    let separators := rowCells bordered separator
    let plain := separators.all fun s => s.all fun c => c == '|' || c == ':' || c == '-' || c == ' '
    if wide && separators.length == width && plain then some ⟨bordered, separators⟩ else none
  | _ => none

/-- The alignment that a separator gives to its column. -/
def alignment? (separator : Text) : Option String :=
  let s := stripSpaces separator
  match s.head? == some ':', s.getLast? == some ':' with
  | true, true => some "center"
  | true, false => some "left"
  | false, true => some "right"
  | false, false => none

/-- A row with a cell for each column; what a row lacks is empty, and what it has too much is
dropped. -/
def gridRow (cellTag : String) (columns : List (Option String)) (cells : List Text) : Block :=
  let cell (column : Option String) (text : Text) : Block :=
    let attributes := match column with
      | some side => [("style".toList, "text-align: ".toList ++ side.toList ++ [';'])]
      | none => []
    { Block.ofText cellTag (stripSpaces text) with attributes := attributes }
  let cells := cells ++ List.replicate (columns.length - cells.length) []
  { Block.ofText "tr" [] with children := List.zipWith cell columns cells }

/-- A paragraph that is a table. -/
def gridRule : Rule := fun _ _ paragraph others g =>
  let rows := (linesOf paragraph).map stripSpaces
  match GridHead.read? rows with
  | none => none
  | some head =>
    let columns := head.separators.map alignment?
    let row (cellTag : String) (r : Text) : Block :=
      gridRow cellTag columns (rowCells head.bordered r)
    let header := { Block.ofText "thead" [] with children := [row "th" (rows.headD [])] }
    let body :=
      match rows.drop 2 with
      | [] => [gridRow "td" (columns.map fun _ => none) []]
      | data => data.map (row "td")
    let body := { Block.ofText "tbody" [] with children := body }
    some (others, g.map (·.append { Block.ofText "table" [] with children := [header, body] }))

end Gamebook.Markdown
