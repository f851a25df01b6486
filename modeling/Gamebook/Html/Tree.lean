import Gamebook.Html.Event

/-!
# The elements of a fragment

Builds the tree of elements from the events of a fragment. An end tag closes the
nearest open element of its name and all elements inside; without one it closes
nothing. Elements that never have contents are closed at once, and an end tag that
belongs to one of them is passed over. What is open at the end is closed there.

Text that is not for readers, such as that of a style, is left out. A text of nothing but blanks
is read as a single blank, except where blanks have a meaning.
-/

namespace Gamebook.Html

/-- A node of a page: an element with its attributes and children, or a text. -/
inductive Node where
  | element (name : Text) (attributes : List (Text × Text)) (children : List Node)
  | text (t : Text)

/-- An element that is not closed yet; the last child comes first. -/
structure OpenElement where
  name : Text
  attributes : List (Text × Text)
  children : List Node

/-- The state of a building: the open elements, the innermost first; the children of the fragment
itself, last one first; the text since the last tag; and the names of elements that were closed
at once. -/
structure Builder where
  stack : List OpenElement
  top : List Node
  pending : Text
  closedAtOnce : List Text

/-- The elements that never have contents. -/
def voidElements : List Text :=
  ["area", "base", "br", "col", "embed", "hr", "img", "input", "keygen", "link", "menuitem",
    "meta", "param", "source", "track", "wbr", "basefont", "bgsound", "command", "frame", "image",
    "isindex", "nextid", "spacer"].map String.toList

/-- The elements whose text is not for readers. -/
def silentElements : List Text := ["style", "script", "template", "rt", "rp"].map String.toList

/-- The elements in which blanks have a meaning. -/
def verbatimElements : List Text := ["pre", "textarea"].map String.toList

/-- Whether a blank is folded with its neighbours; those beyond ASCII are not. -/
def isFoldable (c : Char) : Bool := [' ', '\n', '\t', '\x0c', '\r'].contains c

/-- A text of nothing but such blanks becomes a single one, a line break if it holds one. -/
def foldBlanks (t : Text) : Text :=
  if t ≠ [] ∧ t.all isFoldable then if t.contains '\n' then ['\n'] else [' '] else t

namespace Builder

/-- A builder that has met nothing. -/
def empty : Builder := ⟨[], [], [], []⟩

/-- Adds a node to the innermost open element. -/
def add (n : Node) (b : Builder) : Builder :=
  match b.stack with
  | [] => { b with top := n :: b.top }
  | e :: rest => { b with stack := { e with children := n :: e.children } :: rest }

/-- Whether the place is inside of an element whose text is not for readers. -/
def isSilent (b : Builder) : Bool := b.stack.any fun e => silentElements.contains e.name

/-- Whether the place is inside of an element in which blanks have a meaning. -/
def isVerbatim (b : Builder) : Bool := b.stack.any fun e => verbatimElements.contains e.name

/-- A text as it is read at the place. -/
def readText (t : Text) (b : Builder) : Text := if b.isVerbatim then t else foldBlanks t

/-- Ends the text since the last tag. -/
def endText (b : Builder) : Builder :=
  if b.pending.isEmpty then b
  else
    let t := b.readText b.pending
    let b := { b with pending := [] }
    if b.isSilent then b else b.add (.text t)

/-- Closes the innermost open element. -/
def close (b : Builder) : Builder :=
  match b.stack with
  | [] => b
  | e :: rest => { b with stack := rest }.add (.element e.name e.attributes e.children.reverse)

/-- Closes the `count` innermost open elements. -/
def closeMany : Nat → Builder → Builder
  | 0, b => b
  | n + 1, b => closeMany n b.close

/-- Closes the nearest open element of a name and all inside it. -/
def closeNamed (name : Text) (b : Builder) : Builder :=
  let b := b.endText
  match b.stack.findIdx? fun e => e.name == name with
  | some i => b.closeMany (i + 1)
  | none => b

/-- Sets an attribute: the last value of a repeated one counts, at its first place. -/
def setAttribute (name value : Text) : List (Text × Text) → List (Text × Text)
  | [] => [(name, value)]
  | (n, v) :: rest =>
    if n == name then (n, value) :: rest else (n, v) :: setAttribute name value rest

/-- The attributes of a tag, each once. -/
def attributesOf (attributes : List (Text × Text)) : List (Text × Text) :=
  attributes.foldl (fun as a => setAttribute a.1 a.2 as) []

/-- Opens an element inside of the innermost open one. -/
def push (t : StartTag) (b : Builder) : Builder :=
  let b := b.endText
  { b with stack := ⟨t.name, attributesOf t.attributes, []⟩ :: b.stack }

/-- An end tag; one of an element that was closed at once is passed over. -/
def endTag (name : Text) (b : Builder) : Builder :=
  if b.closedAtOnce.contains name then { b with closedAtOnce := b.closedAtOnce.erase name }
  else b.closeNamed name

/-- What one event adds to the tree. -/
def step (b : Builder) : Event → Builder
  | .text t => { b with pending := b.pending ++ t }
  | .section t =>
    let b := b.endText
    -- a section without any text leaves a blank, which blanks in a text would be folded to
    b.add (.text (if t.isEmpty && !b.isVerbatim then [' '] else b.readText t))
  | .gap => b.endText
  | .endTag name => b.endTag name
  | .startTag t =>
    let b := b.push t
    if t.selfClosing then b.endTag t.name
    else if voidElements.contains t.name then
      let b := b.closeNamed t.name
      { b with closedAtOnce := t.name :: b.closedAtOnce }
    else b

/-- The nodes of the fragment, with what is still open closed. -/
def finish (b : Builder) : List Node :=
  let b := b.endText
  (b.closeMany b.stack.length).top.reverse

end Builder

/-- The nodes of a fragment. -/
def parse (fragment : Text) : Except HtmlError (List Node) :=
  (events fragment).map fun es => (es.foldl Builder.step Builder.empty).finish

namespace Node

mutual

/-- The nodes inside of a node, in the order in which they begin. -/
def descendants : Node → List Node
  | element _ _ children => descendantsOf children
  | text _ => []

/-- Nodes and the nodes inside of them. -/
def descendantsOf : List Node → List Node
  | [] => []
  | n :: ns => n :: descendants n ++ descendantsOf ns

end

/-- Whether a node is an element with one of the names. -/
def isNamed (names : List Text) : Node → Bool
  | element name _ _ => names.contains name
  | text _ => false

/-- The value of an attribute. -/
def attribute? (name : Text) : Node → Option Text
  | element _ attributes _ => (attributes.find? fun a => a.1 == name).map (·.2)
  | text _ => none

/-- The classes of an element. -/
def classes (n : Node) : List Text :=
  (Text.splitBy Text.isBlank ((n.attribute? "class".toList).getD [])).filter (· ≠ [])

/-- Whether a class is among those of a node. -/
def hasClass (name : Text) (n : Node) : Bool := n.classes.contains name

/-- The first element inside with one of the names. -/
def find? (names : List Text) (n : Node) : Option Node := n.descendants.find? (isNamed names)

/-- All elements inside with one of the names. -/
def findAll (names : List Text) (n : Node) : List Node := n.descendants.filter (isNamed names)

/-- The texts inside, each trimmed, put together. -/
def trimmedText (n : Node) : Text :=
  n.descendants.flatMap fun
    | text t => Text.trim t
    | element .. => []

end Node

end Gamebook.Html
