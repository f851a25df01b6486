/-!
# Texts

Every text a cartridge holds is read character by character, so a text is the list
of its characters. This file has the operations that name no particular set of
characters: trimming by a test, splitting at a first place, searching for a fixed
word and replacing it.
-/

namespace Gamebook

/-- A text, as the list of its characters. -/
abbrev Text := List Char

namespace Text

/-- Whether a code point lies in one of the ranges, ends included. -/
def inRanges (ranges : List (Nat × Nat)) (c : Char) : Bool :=
  ranges.any fun r => r.1 ≤ c.toNat && c.toNat ≤ r.2

/-- Drops the characters at the end that pass the test. -/
def dropEndWhile (p : Char → Bool) : Text → Text
  | [] => []
  | c :: rest =>
    match dropEndWhile p rest with
    | [] => if p c then [] else [c]
    | kept => c :: kept

/-- What follows the spaces in front. -/
def dropSpaces (t : Text) : Text := t.dropWhile (· == ' ')

/-- Drops the characters at both ends that pass the test. -/
def stripBy (p : Char → Bool) (t : Text) : Text := dropEndWhile p (t.dropWhile p)

/-- What follows `word` when the text starts with it. -/
def after? : Text → Text → Option Text
  | [], t => some t
  | _ :: _, [] => none
  | w :: word, c :: t => if w = c then after? word t else none

/-- Whether the text starts with `word`. -/
def startsWith (word t : Text) : Bool := (after? word t).isSome

/-- Whether a text comes before another in the order of the characters, or is the same. -/
def isUpTo : Text → Text → Bool
  | [], _ => true
  | _ :: _, [] => false
  | a :: s, b :: t => a.toNat < b.toNat || (a == b && isUpTo s t)

/-- What stands before the first `word` in the text, and what follows it. -/
def cutAt? (word : Text) : Text → Option (Text × Text)
  | [] => if word = [] then some ([], []) else none
  | c :: t =>
    match after? word (c :: t) with
    | some rest => some ([], rest)
    | none => (cutAt? word t).map fun r => (c :: r.1, r.2)

/-- The pieces between the characters that pass the test; there is always at least one. -/
def splitBy (p : Char → Bool) : Text → List Text
  | [] => [[]]
  | c :: t =>
    match splitBy p t with
    | [] => [[c]]
    | piece :: pieces => if p c then [] :: piece :: pieces else (c :: piece) :: pieces

/-- The pieces between the occurrences of a character. -/
def splitOn (sep : Char) (t : Text) : List Text := splitBy (· == sep) t

/-- Skips `skip` characters, then writes `new` for every `word` found from the left. -/
def replaceAfter (word new : Text) : Nat → Text → Text
  | _, [] => []
  | skip + 1, _ :: t => replaceAfter word new skip t
  | 0, c :: t =>
    if startsWith word (c :: t) then new ++ replaceAfter word new (word.length - 1) t
    else c :: replaceAfter word new 0 t

/-- Writes `new` for every occurrence of a nonempty `word`, from the left and without overlap. -/
def replaceAll (word new : Text) (t : Text) : Text :=
  if word = [] then t else replaceAfter word new 0 t

/-- Joins the pieces with a separator between neighbours. -/
def joinWith (sep : Text) : List Text → Text
  | [] => []
  | [t] => t
  | t :: ts => t ++ sep ++ joinWith sep ts

/-- Writes each character as the text that `f` gives it. -/
def rewriteChars (f : Char → Text) (t : Text) : Text := t.flatMap f

end Text

end Gamebook
