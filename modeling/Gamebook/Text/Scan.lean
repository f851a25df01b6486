import Gamebook.Text.Basic

/-!
# Scanning for marks

A scan walks a text from the left and asks a recogniser at every place. Where the
recogniser answers with what it read and how many characters it took, the scan
records it and goes on behind those characters; elsewhere the character stays as it
is. So what is found never overlaps, and nothing outside what is found is lost.

The recogniser also sees the character before the place, for rules about word
boundaries.
-/

namespace Gamebook.Text

/-- A stretch of a scanned text: a character that was passed over, or something found. -/
inductive Piece (α : Type) where
  | plain (c : Char)
  | found (a : α)

namespace Piece

/-- What was found, in order. -/
def findings {α : Type} (ps : List (Piece α)) : List α :=
  ps.filterMap fun
    | plain _ => none
    | found a => some a

/-- Writes passed characters as they are and findings by `f`. -/
def render {α : Type} (f : α → Text) (ps : List (Piece α)) : Text :=
  ps.flatMap fun
    | plain c => [c]
    | found a => f a

/-- Writes passed characters as they are and the k-th finding by `f k`, counting from `k`. -/
def renderFrom {α : Type} (f : Nat → α → Text) (k : Nat) : List (Piece α) → Text
  | [] => []
  | plain c :: ps => c :: renderFrom f k ps
  | found a :: ps => f k a ++ renderFrom f (k + 1) ps

end Piece

/-- A recogniser: from the character before a place and the text from there on, what is read
there and how many characters it takes. -/
abbrev Recogniser (α : Type) := Option Char → Text → Option (α × Nat)

/-- The pieces of a text of which `skip` more characters belong to the last finding. -/
def scanFrom {α : Type} (find : Recogniser α) (before : Option Char) : Nat → Text → List (Piece α)
  | _, [] => []
  | skip + 1, c :: t => scanFrom find (some c) skip t
  | 0, c :: t =>
    match find before (c :: t) with
    | some (a, n) => .found a :: scanFrom find (some c) (n - 1) t
    | none => .plain c :: scanFrom find (some c) 0 t

/-- The pieces of a text. -/
def scan {α : Type} (find : Recogniser α) (t : Text) : List (Piece α) := scanFrom find none 0 t

end Gamebook.Text
