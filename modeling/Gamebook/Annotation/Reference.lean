import Gamebook.Html.Escape
import Gamebook.Number.Decimal
import Gamebook.Text.Blank
import Gamebook.Text.Scan

/-!
# References to terms

An author refers to a term by writing it between double brackets. Before a narrative
is rendered each reference to a known term gives way to a numbered placeholder, which
the rendering leaves alone; afterwards the placeholders become links. A reference to
an unknown term only loses its brackets.
-/

namespace Gamebook.Reference

/-! ## In the narrative -/

/-- Whether the content of a reference goes on with a character. -/
def isNoCloser (c : Char) : Bool := c != ']'

/-- Recognises a reference: what stands between the brackets, which holds no closing one. -/
def recognise : Text.Recogniser Text := fun _ t =>
  match t with
  | '[' :: '[' :: rest =>
    match rest.span isNoCloser with
    | ([], _) => none
    | (content, ']' :: ']' :: _) => some (content, content.length + 4)
    | _ => none
  | _ => none

/-- A narrative cut at its references. -/
def pieces (t : Text) : List (Text.Piece Text) := Text.scan recognise t

/-- What opens and closes a placeholder. -/
def opening : Text := "\x7b\x7bWIKILINK::".toList
/-- What closes a placeholder. -/
def closing : Text := "\x7d\x7d".toList

/-- The placeholder of a number. -/
def placeholder (n : Nat) : Text := opening ++ Number.writeNat n ++ closing

/-- Puts placeholders for the references to known terms, the first of which gets the number
`next`; the terms come out in the order of their placeholders. -/
def protectFrom (isKnown : Text → Bool) (next : Nat) : List (Text.Piece Text) → Text × List Text
  | [] => ([], [])
  | .plain c :: ps =>
    let (t, terms) := protectFrom isKnown next ps
    (c :: t, terms)
  | .found content :: ps =>
    let term := Text.trim content
    if isKnown term then
      let (t, terms) := protectFrom isKnown (next + 1) ps
      (placeholder next ++ t, term :: terms)
    else
      let (t, terms) := protectFrom isKnown next ps
      (term ++ t, terms)

/-- A narrative with placeholders for its references to known terms, and those terms. -/
def protect (isKnown : Text → Bool) (narrative : Text) : Text × List Text :=
  protectFrom isKnown 0 (pieces narrative)

/-! ## In the rendered text -/

/-- The link that shows a term and carries it. -/
def link (term : Text) : Text :=
  let escaped := Html.escape term
  "<span class=\"wiki-link\" data-term=\"".toList ++ escaped ++ "\">".toList ++ escaped ++
    "</span>".toList

/-- A placeholder as it is found: its digits, which may be of any script. -/
def recognisePlaceholder : Text.Recogniser Text := fun _ t =>
  match Text.after? opening t with
  | none => none
  | some rest =>
    match Text.takeDigits? rest with
    | none => none
    | some (ds, rest) =>
      if Text.startsWith closing rest then
        some (ds, opening.length + ds.length + closing.length)
      else none

/-- What becomes of a placeholder: the link of its term, or what it was if it has none. -/
def linkOf (terms : List Text) (ds : Text) : Except NumeralError Text := do
  let n ← Number.read ds
  match terms[n]? with
  | some term => return link term
  | none => return opening ++ ds ++ closing

/-- Writes the pieces of a rendered text with links for placeholders. -/
def materializePieces (terms : List Text) : List (Text.Piece Text) → Except NumeralError Text
  | [] => .ok []
  | .plain c :: ps => (materializePieces terms ps).map (c :: ·)
  | .found ds :: ps => do
    let l ← linkOf terms ds
    let rest ← materializePieces terms ps
    return l ++ rest

/-- A rendered text with links for placeholders. -/
def materialize (rendered : Text) (terms : List Text) : Except NumeralError Text :=
  materializePieces terms (Text.scan recognisePlaceholder rendered)

end Gamebook.Reference
