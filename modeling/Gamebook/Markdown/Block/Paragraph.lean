import Gamebook.Markdown.Block.Basic
import Gamebook.Text.Blank
import Gamebook.Text.Case

/-!
# Definitions of links, and plain paragraphs

A line with a name in square brackets and a colon defines where links of that name
lead. What no other rule takes is a paragraph of plain text; in an item of a list
without empty lines it is text of the item.
-/

namespace Gamebook.Markdown

/-! ## Definitions of links -/

/-- Whether a line ends here. -/
def atLineEnd (t : Text) : Bool := t.isEmpty || t.head? == some '\n'

/-- A title in quotes or round brackets up to the end of its line, and what follows it. -/
def takeTitle? (t : Text) : Option (Text × Text) :=
  let (line, after) := t.span (· != '\n')
  let closed (close : Char) : Option (Text × Text) :=
    match (Text.dropEndWhile (· == ' ') line.tail).reverse with
    | c :: title => if c == close then some (title.reverse, after) else none
    | [] => none
  match line.head? with
  | some '"' => closed '"'
  | some '\'' => closed '\''
  | some '(' => closed ')'
  | _ => none

/-- The end of a definition after its address: a title or nothing, on the same line or on the
next. -/
def takeDefinitionEnd? (t : Text) : Option (Text × Text) :=
  let here := Text.dropSpaces t
  let next : Option (Text × Text) :=
    match here with
    | '\n' :: rest =>
      let rest := Text.dropSpaces rest
      match takeTitle? rest with
      | some found => some found
      | none => if atLineEnd rest then some ([], rest) else none
    | _ => none
  match next with
  | some found => some found
  | none =>
    match takeTitle? here with
    | some found => some found
    | none => if atLineEnd here then some ([], here) else none

/-- The longest address of at most `length` characters that the rest of a definition fits to. -/
def takeAddress? (t : Text) : Nat → Option (LinkDefinition × Text)
  | 0 => none
  | length + 1 =>
    match takeDefinitionEnd? (t.drop (length + 1)) with
    | some (title, rest) =>
      let address := (t.take (length + 1)).dropWhile (· == '<')
      some (⟨Text.dropEndWhile (· == '>') address, title⟩, rest)
    | none => takeAddress? t length

/-- The definition that begins at the start of a line: its name, what it says, and the text after
it. -/
def takeDefinition? (t : Text) : Option (Text × LinkDefinition × Text) := do
  let rest ← Text.after? ['['] (← afterMargin? t)
  let (name, rest) := rest.span fun c => c != '[' && c != ']'
  let rest := Text.dropSpaces (← Text.after? "]:".toList rest)
  let rest := match rest with
    | '\n' :: next => Text.dropSpaces next
    | _ => rest
  let (definition, after) ← takeAddress? rest (rest.takeWhile fun c => !Text.isBlank c).length
  return (Text.lower (Text.trim name), definition, after)

/-- The first definition among lines: the lines before it, and what it says. -/
def findDefinition? : List Text → Option (List Text × Text × LinkDefinition × Text)
  | [] => none
  | line :: lines =>
    match takeDefinition? (ofLines (line :: lines)) with
    | some found => some ([], found)
    | none => (findDefinition? lines).map fun r => (line :: r.1, r.2)

/-- A paragraph with a definition; what stands before and after it is left. -/
def definitionRule : Rule := fun _ _ paragraph others g =>
  match findDefinition? (linesOf paragraph) with
  | none => none
  | some (before, name, definition, after) =>
    let others := if after.all Text.isBlank then others else after.dropWhile (· == '\n') :: others
    let before := ofLines before
    let others :=
      if before.all Text.isBlank then others else Text.dropEndWhile (· == '\n') before :: others
    some (others, { g with definitions := (name, definition) :: g.definitions })

/-! ## Plain paragraphs -/

/-- Adds a line of text to an item: behind its last child, or to its own text. -/
def addToItem (text : Text) (item : Block) : Block :=
  match item.last? with
  | some child =>
    let tail := child.tail ++ '\n' :: text
    item.setLast { child with tail := tail }
  | none =>
    let text := Text.trimStart text
    { item with text := if item.text.isEmpty then text else item.text ++ '\n' :: text }

/-- Any other paragraph. -/
def paragraphRule : Rule := fun _ setting paragraph others g =>
  if paragraph.all Text.isBlank then some (others, g)
  else if setting == .tightItem then some (others, g.map (addToItem paragraph))
  else some (others, g.map (·.append (Block.ofText "p" (Text.trimStart paragraph))))

end Gamebook.Markdown
