import Gamebook.Markdown.Inline.Rule
import Gamebook.Text.Word

/-!
# Emphasis

Text between stars or underscores is emphasised: between single ones a little, between
double ones strongly, between triple ones both. The forms are tried in an order; a
form inside of another has to come later in it. Underscores inside of words are no
markup.
-/

namespace Gamebook.Markdown

/-- What a form finds: the emphasised texts, and what follows. -/
structure Emphasised where
  first : Markup
  second : Markup
  rest : Markup

/-- How the texts of a form become elements. -/
inductive Build where
  /-- The first text in one element. -/
  | single (tag : String)
  /-- The first text in an element inside of another, with the second text behind it. -/
  | innerFirst (outer inner : String)
  /-- The first text in an element, and behind it the second in an element inside. -/
  | innerLast (outer inner : String)

/-- A form of emphasis. -/
structure Form where
  read : Option Glyph → Markup → Option Emphasised
  build : Build

/-! ## The forms -/

/-- What follows so many of a character. -/
def afterRun? (c : Char) (count : Nat) (m : Markup) : Option Markup :=
  Markup.after? (List.replicate count c) m

/-- Whether a glyph is a character of a word. -/
def isWordGlyph (g : Glyph) : Bool := g.passes Text.isWord

/-- Whether a text does not go on with such a glyph. -/
def endsBefore (p : Glyph → Bool) (m : Markup) : Bool := !m.head?.any p

/-- A text between runs, a second one up to another run. -/
def readTwo (c : Char) (middle last : Nat) : Option Glyph → Markup → Option Emphasised :=
  fun _ m => do
    let inside ← afterRun? c 3 m
    let afterMiddle (before : Option Glyph) (m : Markup) : Option (Markup × Markup) := do
      takeFewest? (fun _ m => afterRun? c last m) 0 before (← afterRun? c middle m)
    let (first, second, rest) ← takeFewest? afterMiddle 1 none inside
    return ⟨first, second, rest⟩

/-- What follows exactly so many of a character. -/
def afterExactly? (c : Char) (count : Nat) (m : Markup) : Option Markup := do
  let rest ← afterRun? c count m
  if endsBefore (·.isChar c) rest then some rest else none

/-- Strong text of no stars that goes on with emphasised text up to three stars. -/
def readStarsInside : Option Glyph → Markup → Option Emphasised := fun _ m => do
  let inside ← afterExactly? '*' 2 m
  let (first, rest) := inside.span fun g => !g.isChar '*'
  if first.isEmpty then none
  else
    let rest ← afterExactly? '*' 1 rest
    let (second, rest) ← takeFewest? (fun _ m => afterRun? '*' 3 m) 1 none rest
    return ⟨first, second, rest⟩

/-- Text between two runs of stars. -/
def readStrongStars : Option Glyph → Markup → Option Emphasised := fun _ m => do
  let (first, rest) ← takeFewest? (fun _ m => afterRun? '*' 2 m) 1 none (← afterRun? '*' 2 m)
  return ⟨first, [], rest⟩

/-- Text of no stars between two stars. -/
def readStars : Option Glyph → Markup → Option Emphasised := fun _ m => do
  let (first, rest) := (← afterRun? '*' 1 m).span fun g => !g.isChar '*'
  if first.isEmpty then none else return ⟨first, [], ← afterRun? '*' 1 rest⟩

/-- Strong text that goes on with emphasised text up to three underscores. -/
def readUnderscoresInside : Option Glyph → Markup → Option Emphasised := fun before m => do
  if before.any isWordGlyph then none
  else
    let inside ← afterExactly? '_' 2 m
    let afterSecond (_ : Option Glyph) (m : Markup) : Option Markup := do
      let rest ← afterRun? '_' 3 m
      if endsBefore isWordGlyph rest then some rest else none
    let afterFirst (before : Option Glyph) (m : Markup) : Option (Markup × Markup) := do
      if before.any isWordGlyph then none
      else takeFewest? afterSecond 1 none (← afterExactly? '_' 1 m)
    let (first, second, rest) ← takeFewest? afterFirst 1 none inside
    return ⟨first, second, rest⟩

/-- Text between two runs of so many underscores, which stand at the edges of words. -/
def readUnderscores (count : Nat) : Option Glyph → Markup → Option Emphasised := fun before m => do
  if before.any isWordGlyph then none
  else
    let after (before : Option Glyph) (m : Markup) : Option Markup := do
      let rest ← afterRun? '_' count m
      if !before.any (·.isChar '_') && endsBefore isWordGlyph rest then some rest else none
    let (first, rest) ← takeFewest? after 1 none (← afterExactly? '_' count m)
    return ⟨first, [], rest⟩

/-- The forms with stars, in the order in which they are tried. -/
def starForms : List Form :=
  [⟨readTwo '*' 1 2, .innerFirst "strong" "em"⟩, ⟨readTwo '*' 2 1, .innerFirst "em" "strong"⟩,
    ⟨readStarsInside, .innerLast "strong" "em"⟩, ⟨readStrongStars, .single "strong"⟩,
    ⟨readStars, .single "em"⟩]

/-- The forms with underscores, in the order in which they are tried. -/
def underscoreForms : List Form :=
  [⟨readTwo '_' 1 2, .innerFirst "strong" "em"⟩, ⟨readTwo '_' 2 1, .innerFirst "em" "strong"⟩,
    ⟨readUnderscoresInside, .innerLast "strong" "em"⟩, ⟨readUnderscores 2, .single "strong"⟩,
    ⟨readUnderscores 1, .single "em"⟩]

/-! ## Elements -/

/-- Puts text behind the last child of an element, or before its children if there are none. -/
def Element.addText (text : Markup) (e : Element) : Element :=
  if text.isEmpty then e
  else
    match e.children.getLast? with
    | some child => { e with children := e.children.dropLast ++ [{ child with tail := text }] }
    | none => { e with text := text }

/-- An element with one more child, behind the others. -/
def Element.addChild (e child : Element) : Element :=
  { e with children := e.children ++ [child] }

/-- The first form that finds something, what it finds, and the forms that may stand inside. -/
def firstForm? (before : Option Glyph) (m : Markup) :
    List Form → Option (Form × Emphasised × List Form)
  | [] => none
  | form :: later =>
    match form.read before m with
    | some found => some (form, found, later)
    | none => firstForm? before m later

/-- The glyph before a rest of a text. -/
def lastOf (m rest : Markup) : Option Glyph := m[m.length - rest.length - 1]?

mutual

/-- The element that a form makes of what it found. -/
def buildElement : Nat → Form → Emphasised → List Form → Element
  | 0, _, found, _ => Element.ofMarkup "em" found.first
  | fuel + 1, form, found, inside =>
    let fill (text : Markup) (e : Element) : Element :=
      fillElement fuel inside inside false none [] text e
    match form.build with
    | .single tag => fill found.first (Element.ofMarkup tag [])
    | .innerFirst outer inner =>
      let first := fill found.first (Element.ofMarkup inner [])
      fill found.second ((Element.ofMarkup outer []).addChild first)
    | .innerLast outer inner =>
      let second := fill found.second (Element.ofMarkup inner [])
      (fill found.first (Element.ofMarkup outer [])).addChild second

/-- Puts text into an element, with the forms inside of it as children. Right behind a form, those
that come later in the order are tried first: `now` has the forms to try, and `behind` tells that
the place is behind a form. `held` is the text since the last child, its last glyph first. -/
def fillElement : Nat → List Form → List Form → Bool → Option Glyph → Markup → Markup → Element →
    Element
  | 0, _, _, _, _, held, m, e => e.addText (held.reverse ++ m)
  | fuel + 1, forms, now, behind, before, held, m, e =>
    match firstForm? before m now with
    | some (form, found, later) =>
      let child := buildElement fuel form found later
      fillElement fuel forms later true (lastOf m found.rest) [] found.rest
        ((e.addText held.reverse).addChild child)
    | none =>
      if behind then fillElement fuel forms forms false before held m e
      else
        match m with
        | [] => e.addText held.reverse
        | g :: rest => fillElement fuel forms forms false (some g) (g :: held) rest e

end

/-- Emphasised text in some forms. -/
def emphasisRule (forms : List Form) : InlineRule := fun before m =>
  (firstForm? before m forms).map fun (form, found, later) =>
    replaceUpTo m found.rest [.node (buildElement (2 * m.length + 4) form found later)]

/-- Markers between blanks, which are no emphasis. -/
def looseMarkerRule : InlineRule := fun before m =>
  let run (c : Char) : Option Finding :=
    let length := (m.takeWhile fun g => g.isChar c).length
    let rest := m.drop length
    if 0 < length && length ≤ 3 && endsBefore (fun g => !g.isBlank) rest then
      some (.replace length [.aside (List.replicate length (.plain c))])
    else none
  if before.any fun g => !g.isBlank then none
  else
    match run '*' with
    | some finding => some finding
    | none => run '_'

end Gamebook.Markdown
