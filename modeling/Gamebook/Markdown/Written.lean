import Gamebook.Markdown.BlockTag
import Gamebook.Markdown.Escape
import Gamebook.Markdown.Inline.Glyph

/-!
# The written result

Elements are written with their attributes in the order of their names. A paragraph
that holds nothing but a piece of raw HTML is no paragraph if the piece stands apart
from running text by itself.

An ampersand is written as it is where it begins a character reference, so a sign is
written in view of what follows it. The view is a function: only an ampersand looks.
-/

namespace Gamebook.Markdown

/-! ## Signs -/

/-- A character in front of a text, as it is written between tags. -/
def writeChar (c : Char) (following : Unit → Text) : Text :=
  if c == '&' && beginsReference (following ()) then ['&'] else escapeText [c]

/-- The characters at the start of some signs. -/
def leadingText : List Sign → Text
  | .plain c :: rest => c :: leadingText rest
  | .escaped c :: rest => c :: leadingText rest
  | _ => []

/-- A sign in front of other signs, as it is written between tags. -/
def writeSign (s : Sign) (following : Unit → List Sign) : Text :=
  match s with
  | .plain c => writeChar c fun _ => leadingText (following ())
  | .escaped c => writeChar c fun _ => leadingText (following ())
  | .ampersand => ['&']
  | .raw html => html

/-- Signs in front of other signs, as they are written between tags. -/
def writeSigns (following : List Sign) : List Sign → Text
  | [] => []
  | s :: rest => writeSign s (fun _ => rest ++ following) ++ writeSigns following rest

/-- The value of an attribute as it is written. -/
def writeValue : List Sign → Text
  | [] => []
  | s :: rest =>
    (if s.isChar '"' then "&quot;".toList else writeSign s fun _ => rest) ++ writeValue rest

/-- The signs at the start of running text. -/
def leadingSigns : Markup → List Sign
  | .sign s :: rest => s :: leadingSigns rest
  | .aside ss :: rest => ss ++ leadingSigns rest
  | _ => []

/-! ## Elements -/

/-- The elements without contents. -/
def emptyTags : List Text := ["br", "hr", "img"].map String.toList

/-- The attributes of an element as they are written. -/
def writeAttributes (attributes : List (Text × List Sign)) : Text :=
  (attributes.mergeSort fun a b => Text.isUpTo a.1 b.1).flatMap fun a =>
    ' ' :: a.1 ++ "=\"".toList ++ writeValue a.2 ++ ['"']

/-- Whether a piece of HTML stands apart from running text: by its first tag, or as a comment, a
declaration or an instruction. -/
def isBlockHtml (html : Text) : Bool :=
  match html with
  | '<' :: rest =>
    let inside := match rest with
      | '/' :: more => more
      | _ => rest
    match inside.takeWhile fun c => c != ' ' && c != '>' with
    | c :: name => c == '!' || c == '?' || c == '@' || c == '%' || isBlockTag (c :: name)
    | [] => false
  | _ => false

/-- The piece of HTML that stands in the place of an element. -/
def Element.replacement? (e : Element) : Option Text :=
  match e.text, e.children, e.attributes with
  | [.sign (.raw html)], [], [] =>
    if e.isNamed "p" && isBlockHtml html then some html else none
  | _, _, _ => none

/-- An element around its written contents. -/
def Element.writeAround (contents : Text) (e : Element) : Text :=
  match e.replacement? with
  | some html => html
  | none =>
    '<' :: e.tag ++ writeAttributes e.attributes ++
      (if emptyTags.contains e.tag then " />".toList
        else '>' :: contents ++ "</".toList ++ e.tag ++ ['>'])

mutual

/-- Running text as it is written. -/
def writeMarkup : List Glyph → Text
  | [] => []
  | .sign s :: rest => writeSign s (fun _ => leadingSigns rest) ++ writeMarkup rest
  | .aside ss :: rest => writeSigns (leadingSigns rest) ss ++ writeMarkup rest
  | .node ⟨tag, attributes, text, literal, children, tail⟩ :: rest =>
    Element.writeAround (writeMarkup text ++ writeElements children)
      ⟨tag, attributes, text, literal, children, tail⟩ ++ writeMarkup rest

/-- Elements as they are written, each with its tail. -/
def writeElements : List Element → Text
  | [] => []
  | ⟨tag, attributes, text, literal, children, tail⟩ :: rest =>
    Element.writeAround (writeMarkup text ++ writeElements children)
      ⟨tag, attributes, text, literal, children, tail⟩ ++ writeMarkup tail ++ writeElements rest

end

/-- An element as it is written, without its tail. -/
def Element.write (e : Element) : Text :=
  e.writeAround (writeMarkup e.text ++ writeElements e.children)

end Gamebook.Markdown
