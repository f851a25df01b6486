import Gamebook.Markdown.Inline.Address
import Gamebook.Markdown.Inline.Code
import Gamebook.Markdown.Inline.Emphasis
import Gamebook.Markdown.Inline.Link
import Gamebook.Markdown.Inline.RawTag

/-!
# Reading running text

The rules for running text have an order. Each one is applied from the start of a
text until it finds nothing more, and then the next. The text of an element that a
rule makes is read by the later rules only, so that a link stands in no link.

Once a text is read, the elements in it become children. Since text between children
may only now stand by itself, the children of an element are read once more with
their parent.
-/

namespace Gamebook.Markdown

/-- The rules for running text, in their order. -/
def inlineRules (definitions : LinkDefinitions) (pieces : List Text) (escapes : List Char)
    (breaksLines : Bool) : List InlineRule :=
  [codeSpanRule, escapeRule escapes,
    namedRule definitions pieces afterLinkOpening? linkElement,
    addressRule afterLinkOpening? linkElement,
    addressRule afterImageOpening? imageElement,
    namedRule definitions pieces afterImageOpening? imageElement,
    shortRule definitions pieces afterLinkOpening? linkElement,
    shortRule definitions pieces afterImageOpening? imageElement,
    pageAddressRule, mailAddressRule, spacedBreakRule, rawTagRule, referenceRule,
    looseMarkerRule, emphasisRule starForms, emphasisRule underscoreForms] ++
    (if breaksLines then [lineEndRule] else [])

/-! ## Text -/

/-- Applies rules to a text, one after the other. -/
def readMarkup : Nat → List InlineRule → Markup → Markup
  | 0, _, m => m
  | _ + 1, [], m => m
  | fuel + 1, rule :: later, m =>
    match firstReplacement? rule 0 none m with
    | none => readMarkup fuel later m
    | some (front, new, rest) =>
      let readElement (e : Element) : Element :=
        if e.literal then e
        else
          { e with
            text := readMarkup fuel later e.text
            children := e.children.map fun child =>
              { child with
                text := readMarkup fuel later child.text
                tail := readMarkup fuel (rule :: later) child.tail } }
      let new := new.map fun
        | .node e => .node (readElement e)
        | g => g
      readMarkup fuel (rule :: later) (front ++ new ++ rest)

/-- How often rules are applied at most: each time, a rule is done or a character is replaced. -/
def readingLimit (rules : List InlineRule) (m : Markup) : Nat :=
  (rules.length + 1) * (m.length + 2) * (m.length + 2)

/-- Reads a text by the rules. -/
def readAll (rules : List InlineRule) (m : Markup) : Markup :=
  readMarkup (readingLimit rules m) rules m

/-! ## Elements in a text -/

/-- A text without elements, and the elements behind it, each with the text up to the next as its
tail. -/
def splitAtElements : Markup → Markup × List Element
  | [] => ([], [])
  | .node e :: m =>
    let (tail, more) := splitAtElements m
    ([], { e with tail := tail } :: more)
  | .aside signs :: m =>
    let (text, more) := splitAtElements m
    (signs.map Glyph.sign ++ text, more)
  | g :: m =>
    let (text, more) := splitAtElements m
    (g :: text, more)

/-- Whether a text is made of signs alone. -/
def isSettled (m : Markup) : Bool :=
  m.all fun
    | .sign _ => true
    | _ => false

/-- Makes the elements in the text of an element and in the texts of its children to children of
their own; what is deeper is left for later. -/
def Element.unfold : Nat → Element → Element
  | 0, e => e
  | fuel + 1, e =>
    let split (m : Markup) : Markup × List Element :=
      let (text, found) := splitAtElements m
      (text, found.map (unfold fuel))
    let children := e.children.flatMap fun child =>
      let (tail, after) := split child.tail
      let (text, inside) := split child.text
      { child with
        text := text
        literal := child.literal && isSettled child.text
        children := inside ++ child.children
        tail := tail } :: after
    let (text, inside) := split e.text
    { e with
      text := text
      literal := e.literal && isSettled e.text
      children := inside ++ children }

mutual

/-- How many elements a glyph holds inside of each other. -/
def Glyph.depth : Glyph → Nat
  | .node e => e.depth + 1
  | _ => 0

/-- How deep elements are nested in an element. -/
def Element.depth : Element → Nat
  | ⟨_, _, text, _, children, tail⟩ =>
    max (depthOfGlyphs text) (max (depthOfChildren children) (depthOfGlyphs tail))

/-- How deep elements are nested in glyphs. -/
def depthOfGlyphs : List Glyph → Nat
  | [] => 0
  | g :: gs => max g.depth (depthOfGlyphs gs)

/-- How deep elements are nested in elements in a row, these included. -/
def depthOfChildren : List Element → Nat
  | [] => 0
  | e :: es => max (e.depth + 1) (depthOfChildren es)

end

/-- A text without elements, and the elements behind it as elements of the result. -/
def unfoldMarkup (m : Markup) : Markup × List Element :=
  let (text, found) := splitAtElements m
  (text, found.map (Element.unfold (depthOfGlyphs m + 1)))

/-! ## Trees -/

/-- Reads the texts and the tails of some children of an element, and the children inside of
them. Elements that are found in a tail are read like the child that the tail belongs to. -/
def readChildren (rules : List InlineRule) : Nat → List Element → List Element
  | 0, es => es
  | _ + 1, [] => []
  | fuel + 1, e :: es =>
    let (text, found) :=
      if e.literal then (e.text, []) else unfoldMarkup (readAll rules e.text)
    let (tail, after) := unfoldMarkup (readAll rules e.tail)
    let children :=
      if e.children.isEmpty then
        found.map fun child => { child with children := readChildren rules fuel child.children }
      else readChildren rules fuel (found ++ e.children)
    { e with text := text, children := children, tail := tail } ::
      readChildren rules fuel (after ++ es)

mutual

/-- The number of glyphs and elements in an element. -/
def Element.size : Element → Nat
  | ⟨_, _, text, _, children, tail⟩ => text.length + tail.length + 2 + sizeOfChildren children

/-- The size of elements in a row. -/
def sizeOfChildren : List Element → Nat
  | [] => 0
  | e :: es => e.size + sizeOfChildren es

end

/-- Reads all texts inside of an element. -/
def Element.readInside (rules : List InlineRule) (e : Element) : Element :=
  { e with children := readChildren rules (2 * e.size + 4) e.children }

end Gamebook.Markdown
