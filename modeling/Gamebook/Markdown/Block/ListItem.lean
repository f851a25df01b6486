import Gamebook.Markdown.Block.Basic
import Gamebook.Text.Blank
import Gamebook.Text.Digit

/-!
# Lists

A line that opens with a stroke, or with a number and a point, begins an item of a
list. Lines without such an opening belong to the item before them, and so do the
paragraphs after it that are indented. An item after an empty line has paragraphs;
the items of a list without empty lines have plain text.
-/

namespace Gamebook.Markdown

/-- A kind of list. -/
structure ListKind where
  numbered : Bool
  /-- Whether the kind is kept apart from the other one: lists of both kinds do not mix, and the
  first number counts. -/
  strict : Bool

namespace ListKind

/-- The element of a list. -/
def tag (kind : ListKind) : String := if kind.numbered then "ol" else "ul"

/-- The lists that a paragraph of this kind goes on with. -/
def siblings (kind : ListKind) : List String := if kind.strict then [kind.tag] else ["ol", "ul"]

end ListKind

/-- The elements of lists of either kind. -/
def listTags : List String := ["ul", "ol"]

/-! ## Openings of items -/

/-- How an item opens: with a number, or with a stroke. -/
inductive Opening where
  | number (digits : Text)
  | stroke

/-- The opening of an item, and the text after it. -/
def takeOpening? (t : Text) : Option (Opening × Text) :=
  let opened : Option (Opening × Text) :=
    match t.span Text.isDigit with
    | ([], c :: rest) => if c == '*' || c == '+' || c == '-' then some (.stroke, rest) else none
    | (digits, '.' :: rest) => some (.number digits, rest)
    | _ => none
  match opened with
  | some (opening, ' ' :: rest) => some (opening, Text.dropSpaces rest)
  | _ => none

/-- Whether an opening begins an item in a list of a kind. -/
def ListKind.takes (kind : ListKind) : Opening → Bool
  | .number _ => kind.numbered
  | .stroke => !kind.numbered

/-- The item that a line begins, in a list of a kind or of any kind. -/
def takeItem? (kind : ListKind) (line : Text) : Option (Opening × Text) :=
  match (afterMargin? line).bind takeOpening? with
  | some (opening, text) =>
    if kind.strict && !kind.takes opening then none else some (opening, text)
  | none => none

/-- Whether a line begins an item of a list inside of an item. -/
def isNestedItem (line : Text) : Bool :=
  match afterSpaces? tabWidth line with
  | some rest => ((afterMargin? rest).bind takeOpening?).isSome
  | none => false

/-- The items of some lines, of which `items` has the ones so far, the last first. An item that is
indented stands for a list inside of the item before it. -/
def itemsFrom (kind : ListKind) : List Text → List Text → List Text
  | items, [] => items.reverse
  | items, line :: lines =>
    let joined : List Text :=
      match items with
      | item :: before => (item ++ '\n' :: line) :: before
      | [] => [line]
    match takeItem? kind line with
    | some (_, text) => itemsFrom kind (text :: items) lines
    | none =>
      if isNestedItem line && !(items.headD []).take tabWidth == List.replicate tabWidth ' ' then
        itemsFrom kind (line :: items) lines
      else itemsFrom kind joined lines

/-- Whether a paragraph begins with an item of a kind, and how the item opens. -/
def openingOf? (kind : ListKind) (paragraph : Text) : Option Opening :=
  match (afterMargin? paragraph).bind takeOpening? with
  | some (opening, _) => if kind.takes opening then some opening else none
  | none => none

/-! ## Items of a list -/

/-- Makes the last item of a list loose: its text and the text behind its last child become
paragraphs. -/
def loosenLast (list : Block) : Block :=
  match list.last? with
  | none => list
  | some item =>
    let item := item.wrapText
    let item := match item.last? with
      | some child =>
        if child.tail.isEmpty then item
        else
          (item.setLast { child with tail := [] }).append
            (Block.ofText "p" (Text.trimStart child.tail))
      | none => item
    list.setLast item

/-- Reads an item into a list: into a new item, or into the last one if the text is indented. -/
def addItem (read : Reading) (setting : Setting) (list : Block) (item : Text) (g : Growth) :
    Block × Growth :=
  match isIndented item, list.last? with
  | true, some last =>
    let (last, g) := read.inside setting [item] last g
    (list.setLast last, g)
  | _, _ =>
    let (new, g) := read.inside setting [item] (Block.ofText "li" []) g
    (list.append new, g)

/-- Reads the items of a list without empty lines. -/
def addItems (read : Reading) (items : List Text) (list : Block) (g : Growth) : Block × Growth :=
  items.foldl (fun (list, g) item => addItem read .tightItem list item g) (list, g)

/-- A new list; the first number of a strict one counts if it is not one. -/
def newList (kind : ListKind) (opening : Opening) : Block :=
  let list := Block.ofText kind.tag []
  match opening with
  | .number digits =>
    if kind.strict && digits != ['1'] then
      { list with attributes := [("start".toList, digits)] }
    else list
  | .stroke => list

/-- A paragraph of items. It goes on with the list before it, or with the list it stands in, or
begins a new list. -/
def listRule (kind : ListKind) : Rule := fun read _ paragraph others g =>
  match openingOf? kind paragraph with
  | none => none
  | some opening =>
    let items := itemsFrom kind [] (linesOf paragraph)
    match g.block.last?, g.block.endsWith kind.siblings with
    | some list, true =>
      let (first, g) := read.inside .looseItem [items.headD []] (Block.ofText "li" []) g
      let (list, g) := addItems read items.tail ((loosenLast list).append first) g
      some (others, g.map (·.setLast list))
    | _, _ =>
      if g.block.isNamed listTags then
        let (list, g) := addItems read items g.block g
        some (others, g.map fun _ => list)
      else
        let (list, g) := addItems read items (newList kind opening) g
        some (others, g.map (·.append list))

/-! ## Indented paragraphs of items -/

/-- How many steps a text is indented by. -/
def indentation (t : Text) : Nat := (t.takeWhile (· == ' ')).length / tabWidth

/-- The block that an indented paragraph belongs to: how many last children down it is, and how
many lists are passed on the way, counted from `level`. -/
def descend (indent : Nat) : Nat → Nat → Block → Nat × Nat
  | 0, level, _ => (0, level)
  | fuel + 1, level, b =>
    if level < indent then
      match b.last? with
      | some child =>
        if child.isNamed listTags then
          let (depth, level) := descend indent fuel (level + 1) child
          (depth + 1, level)
        else if child.isNamed ["li"] then
          let (depth, level) := descend indent fuel level child
          (depth + 1, level)
        else (0, level)
      | none => (0, level)
    else (0, level)

/-- The last child of the last child and so on. -/
def Block.lastAt? : Nat → Block → Option Block
  | 0, b => some b
  | depth + 1, b => b.last?.bind (lastAt? depth)

/-- Puts another block in the place of the last child of the last child and so on. -/
def Block.setLastAt (new : Block) : Nat → Block → Block
  | 0, _ => new
  | depth + 1, b =>
    match b.last? with
    | some child => b.setLast (setLastAt new depth child)
    | none => b

/-- An indented paragraph after a list, or inside of an item. -/
def indentRule : Rule := fun read setting paragraph others g =>
  let inItem := g.block.isNamed ["li"]
  if !isIndented paragraph || setting == .outdented || !(inItem || g.block.endsWith listTags) then
    none
  else
    let start := if setting == .tightItem then 1 else 0
    let indent := indentation paragraph
    let (depth, level) := descend indent (2 * indent + 2) start g.block
    let text := outdent level paragraph
    let readInto (paragraphs : List Text) (b : Block) := read.inside .outdented paragraphs b g
    if inItem then
      match g.block.last?, g.block.endsWith listTags with
      | some list, true =>
        let (list, g) := readInto [text] list
        some (others, g.map (·.setLast list))
      | _, _ => some (others, read .outdented [text] g)
    else
      let target := (g.block.lastAt? depth).getD g.block
      let (target, g) :=
        if target.isNamed ["li"] then readInto [text] target
        else
          match target.last?, target.endsWith ["li"] with
          | some item, true =>
            let (item, g) := readInto (paragraphs text) item.wrapText
            (target.setLast item, g)
          | _, _ =>
            let (item, g) := readInto [text] (Block.ofText "li" [])
            (target.append item, g)
      some (others, g.map (Block.setLastAt target depth))

end Gamebook.Markdown
