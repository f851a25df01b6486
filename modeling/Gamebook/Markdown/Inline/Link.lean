import Gamebook.Markdown.Inline.Rule
import Gamebook.Text.Case

/-!
# Links and images

A link is a text in square brackets, and behind it an address in round brackets or
the name of a definition in square ones; the text itself may be that name. An image
has an exclamation mark in front. Brackets inside of a text or an address count if
they come in pairs.
-/

namespace Gamebook.Markdown

/-! ## The text -/

/-- The text up to the bracket that closes it, when so many more brackets are open, and what
follows it. -/
def takeBracketed? : Nat → Markup → Option (Markup × Markup)
  | _, [] => none
  | depth, g :: m =>
    if g.isChar ']' then
      match depth with
      | 0 => some ([], m)
      | depth + 1 => (takeBracketed? depth m).map fun r => (g :: r.1, r.2)
    else
      (takeBracketed? (if g.isChar '[' then depth + 1 else depth) m).map fun r =>
        (g :: r.1, r.2)

/-- What follows the opening bracket of a link, which no exclamation mark precedes. -/
def afterLinkOpening? (before : Option Glyph) (m : Markup) : Option Markup :=
  if before.any (·.isChar '!') then none else Markup.after? ['['] m

/-- What follows the opening of an image. -/
def afterImageOpening? (_ : Option Glyph) (m : Markup) : Option Markup :=
  Markup.after? "![".toList m

/-! ## The address -/

/-- The state of a walk to the bracket that closes an address. Quotes may open a title: the first
quote of one kind, and the first of the other kind. Places are counted from the start of the
address. -/
structure AddressWalk where
  /-- How many brackets are not closed yet. -/
  unclosed : Nat
  /-- How many were open before the first quote and are not closed since. -/
  unclosedOutside : Nat
  /-- The place after the bracket that closes all if the first quote opens no title. -/
  outsideEnd : Option Nat
  quote : Option Char
  quoteStart : Nat
  quoteEnd : Option Nat
  otherQuote : Option Char
  otherStart : Nat
  otherEnd : Option Nat
  /-- The last glyph that is no space. -/
  last : Option Glyph

namespace AddressWalk

/-- The walk before the first character: the bracket that opens the address is open. -/
def start : AddressWalk := ⟨1, 1, none, none, 0, none, none, 0, none, none⟩

/-- Whether a title in one kind of quotes, the last of which stands at `stop`, ends right here. -/
def endsTitle (quote : Option Char) (stop : Option Nat) (w : AddressWalk) : Bool :=
  stop.isSome &&
    match quote, w.last with
    | some q, some g => g.isChar q
    | _, _ => false

/-- Whether the title in the first kind of quotes ends right here. -/
def endsQuote (w : AddressWalk) : Bool := w.endsTitle w.quote w.quoteEnd

/-- Whether the title in the other kind of quotes ends right here. -/
def endsOther (w : AddressWalk) : Bool := w.endsTitle w.otherQuote w.otherEnd

/-- One bracket less of those that were open before the first quote; `place` is behind it. -/
def closeOutside (place : Nat) (w : AddressWalk) : AddressWalk :=
  match w.unclosedOutside with
  | 0 => w
  | n + 1 =>
    { w with unclosedOutside := n, outsideEnd := if n == 0 then some place else w.outsideEnd }

/-- A quote, with the place behind it. -/
def addQuote (q : Char) (place : Nat) (w : AddressWalk) : AddressWalk :=
  match w.quote with
  | none =>
    { w with unclosedOutside := w.unclosed, unclosed := 1, quote := some q, quoteStart := place }
  | some first =>
    if q == first then { w with quoteEnd := some place }
    else
      match w.otherQuote with
      | none => { w with otherQuote := some q, otherStart := place }
      | some _ => { w with otherEnd := some place }

/-- A glyph, with the place behind it. -/
def step (g : Glyph) (place : Nat) (w : AddressWalk) : AddressWalk :=
  match g with
  | .char '(' =>
    if w.quote.isNone then { w with unclosed := w.unclosed + 1 }
    else { w with unclosedOutside := w.unclosedOutside - 1 }
  | .char ')' =>
    if w.endsQuote || w.endsOther then { w with unclosed := 0 }
    else if w.quote.isNone then { w with unclosed := w.unclosed - 1 }
    else w.closeOutside place
  | .char '\'' => w.addQuote '\'' place
  | .char '"' => w.addQuote '"' place
  | _ => w

/-- Walks until all brackets are closed: the state, and the place behind the last glyph. -/
def run : AddressWalk → Nat → Markup → AddressWalk × Nat
  | w, place, [] => (w, place)
  | w, place, g :: m =>
    let w := w.step g (place + 1)
    if w.unclosed == 0 then (w, place + 1)
    else run (if g.isChar ' ' then w else { w with last := some g }) (place + 1) m

end AddressWalk

/-- A link's address, its title, and what follows the link. -/
structure Destination where
  address : List Sign
  title : Option (List Sign)
  rest : Markup

/-- The glyphs from one place to another. -/
def between (start stop : Nat) (m : Markup) : Markup := (m.take stop).drop start

/-- A title without quotes around it, in one line. -/
def cleanTitle (m : Markup) : List Sign :=
  let signs := Markup.signs (stripWhile Glyph.isBlank m)
  let isQuote (q : Char) : Bool :=
    (signs.head?.any (·.isChar q)) && (signs.getLast?.any (·.isChar q))
  let inside := if isQuote '"' || isQuote '\'' then signs.tail.dropLast else signs
  inside.map fun s => if s.isBlank then .plain ' ' else s

/-- The signs of an address, without the blanks at its ends. -/
def cleanAddress (m : Markup) : List Sign := stripWhile Sign.isBlank (Markup.signs m)

/-- A title in quotes, which are taken off, and what follows it. -/
def takeQuotedTitle? (m : Markup) : Option (Markup × Markup) :=
  match m with
  | .char '\'' :: rest => Markup.takeUpTo? '\'' rest
  | .char '"' :: rest => Markup.takeUpTo? '"' rest
  | _ => none

/-- A destination whose address stands in angle brackets; `m` follows the round bracket. -/
def takeAngled? (m : Markup) : Option Destination :=
  match m with
  | .char '<' :: rest =>
    match rest.span fun g => !(g.isChar '<' || g.isChar '>') with
    | (address, .char '>' :: rest) =>
      let rest := rest.dropWhile Glyph.isBlank
      let address := cleanAddress (stripWhile Glyph.isBlank address)
      match takeQuotedTitle? rest with
      | some (title, after) =>
        match after.dropWhile Glyph.isBlank with
        | .char ')' :: after => some ⟨address, some (cleanTitle title), after⟩
        | _ => none
      | none =>
        match rest with
        | .char ')' :: after => some ⟨address, none, after⟩
        | _ => none
    | _ => none
  | _ => none

/-- A destination whose address runs up to the bracket that closes it or to a title. -/
def takeOpen? (m : Markup) : Option Destination :=
  let (w, place) := AddressWalk.start.run 0 m
  if w.unclosed == 0 then
    let found (addressEnd : Nat) (title : Option Markup) : Option Destination :=
      some ⟨cleanAddress (m.take addressEnd), title.map cleanTitle, m.drop place⟩
    match w.endsQuote, w.quoteEnd, w.endsOther, w.otherEnd with
    | true, some stop, _, _ => found (w.quoteStart - 1) (some (between w.quoteStart (stop - 1) m))
    | _, _, true, some stop =>
      found (w.otherStart - 1) (some (between w.otherStart (stop - 1) m))
    | _, _, _, _ => found (place - 1) none
  else if w.unclosedOutside == 0 then
    -- an opening bracket behind the quote may have taken the place of the last closing one
    match w.outsideEnd with
    | some stop => some ⟨cleanAddress (m.take (stop - 1)), none, m.drop stop⟩
    | none => some ⟨cleanAddress (m.take (m.length - 2)), none, m.drop (m.length - 1)⟩
  else none

/-- The destination in round brackets at the start of a text. -/
def takeDestination? (m : Markup) : Option Destination :=
  match m with
  | .char '(' :: rest =>
    let rest := rest.dropWhile Glyph.isBlank
    match takeAngled? rest with
    | some d => some d
    | none => takeOpen? rest
  | _ => none

/-! ## Elements -/

/-- A link on a text. -/
def linkElement (text : Markup) (address : List Sign) (title : Option (List Sign)) : Element :=
  { Element.ofMarkup "a" text with
    attributes := ("href".toList, address) :: (title.map fun t => ("title".toList, t)).toList }

/-- An image with a text in its place. -/
def imageElement (text : Markup) (address : List Sign) (title : Option (List Sign)) : Element :=
  { Element.ofMarkup "img" [] with
    attributes :=
      ("src".toList, address) :: ("alt".toList, text.signs) ::
        (title.map fun t => ("title".toList, t)).toList }

/-- What makes an element of a text and a destination. -/
abbrev Maker := Markup → List Sign → Option (List Sign) → Element

/-- How a link or an image opens: what follows the opening at a place. -/
abbrev OpeningTest := Option Glyph → Markup → Option Markup

/-! ## Rules -/

/-- A text with an address behind it. -/
def addressRule (opening : OpeningTest) (make : Maker) : InlineRule := fun before m => do
  let (text, rest) ← takeBracketed? 0 (← opening before m)
  let d ← takeDestination? rest
  return replaceUpTo m d.rest [.node (make text d.address d.title)]

/-- A name in one line. -/
def joinBlanks : Text → Text
  | [] => []
  | c :: t =>
    if Text.isBlank c then
      match joinBlanks t with
      | ' ' :: rest => ' ' :: rest
      | rest => ' ' :: rest
    else c :: joinBlanks t

/-- What running text is as the name of a definition. -/
def nameOf? (m : Markup) : Option Text := m.text?.map fun t => joinBlanks (Text.lower t)

/-- The definition of a name. -/
def definitionOf? (definitions : LinkDefinitions) (name : Text) : Option LinkDefinition :=
  (definitions.find? fun d => d.1 == name).map (·.2)

/-- What the definitions of a document make of a text and a name; a name that is not defined is
passed over. -/
def definedFinding (definitions : LinkDefinitions) (pieces : List Text) (make : Maker)
    (m text name rest : Markup) : Finding :=
  match (nameOf? name).bind (definitionOf? definitions) with
  | some d =>
    let title := if d.title.isEmpty then none else some (Markup.signsOf pieces d.title)
    replaceUpTo m rest [.node (make text (Markup.signsOf pieces d.address) title)]
  | none => .pass (m.length - rest.length)

/-- A text with the name of a definition behind it; an empty name stands for the text. -/
def namedRule (definitions : LinkDefinitions) (pieces : List Text) (opening : OpeningTest)
    (make : Maker) : InlineRule := fun before m => do
  let (text, rest) ← takeBracketed? 0 (← opening before m)
  let rest := match rest with
    | g :: more => if g.isBlank then more else rest
    | [] => rest
  let (name, rest) ← Markup.takeUpTo? ']' (← Markup.after? ['['] rest)
  return definedFinding definitions pieces make m text (if name.isEmpty then text else name) rest

/-- A text that is the name of a definition. -/
def shortRule (definitions : LinkDefinitions) (pieces : List Text) (opening : OpeningTest)
    (make : Maker) : InlineRule := fun before m => do
  let (text, rest) ← takeBracketed? 0 (← opening before m)
  return definedFinding definitions pieces make m text text rest

end Gamebook.Markdown
