import Gamebook.Dice.Mention

/-!
# Formulas in the rendered text

Every formula that the text of a fragment mentions becomes a span that can be
clicked. Tags are left alone: the text is cut at them, and a formula never reaches
across one.
-/

namespace Gamebook.DiceSpan

/-- Whether a tag goes on with a character. -/
def isNoTagEnd (c : Char) : Bool := c != '>'

/-- Recognises a tag: from an opening angle bracket to the next closing one. -/
def tag : Text.Recogniser Text := fun _ t =>
  match t with
  | '<' :: rest =>
    match rest.span isNoTagEnd with
    | (inner, _ :: _) => some ('<' :: inner ++ ['>'], inner.length + 2)
    | (_, []) => none
  | _ => none

/-- The span of a formula. -/
def span (formula : Text) : Text :=
  "<span class=\"dice-roll\" data-formula=\"".toList ++ formula ++ "\">".toList ++ formula ++
    "</span>".toList

/-- A stretch of text with its formulas in spans. -/
def markText (t : Text) : Text := Text.Piece.render span (Dice.mentionPieces t)

/-- Marks the text between tags; `pending` is the text since the last tag, backwards. -/
def markFrom (pending : Text) : List (Text.Piece Text) → Text
  | [] => markText pending.reverse
  | .plain c :: ps => markFrom (c :: pending) ps
  | .found tag :: ps => markText pending.reverse ++ tag ++ markFrom [] ps

/-- A rendered text with the formulas outside of its tags in spans. -/
def mark (rendered : Text) : Text := markFrom [] (Text.scan tag rendered)

end Gamebook.DiceSpan
