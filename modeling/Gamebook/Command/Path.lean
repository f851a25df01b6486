import Gamebook.Text.Basic

/-!
# Paths

A path is a beginning and the names on the way. Repeated slashes count as one, a slash
at the end and the names that stay in place count for nothing; only a path that begins
with exactly two slashes keeps both.
-/

namespace Gamebook

/-- A path: where it starts from, and the names on the way. -/
structure Path where
  /-- The slashes in front; none where the way starts in the working folder. -/
  root : Text
  names : List Text
deriving DecidableEq

namespace Path

/-- The path that a text writes. Exactly two slashes in front are kept, any other number is one. -/
def ofText (t : Text) : Path :=
  let way := t.dropWhile (· == '/')
  let root := match t.length - way.length with
    | 0 => []
    | 2 => ['/', '/']
    | _ => ['/']
  ⟨root, (Text.splitOn '/' way).filter fun name => name != [] && name != ['.']⟩

/-- The path as it is shown; the working folder itself is a point. -/
def toText (p : Path) : Text :=
  match p.root ++ Text.joinWith ['/'] p.names with
  | [] => ['.']
  | t => t

end Path

end Gamebook
