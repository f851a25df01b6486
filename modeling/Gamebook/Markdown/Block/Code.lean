import Gamebook.Markdown.Block.Basic
import Gamebook.Markdown.Escape
import Gamebook.Text.Blank

/-!
# Indented code

A paragraph that is indented by a step is code, up to its first line that is not.
Empty lines do not end it: code after code is one block.
-/

namespace Gamebook.Markdown

/-- Changes the code at the end of a block, if there is some. -/
def Block.changeCode? (f : Text → Text) (b : Block) : Option Block :=
  match b.last? with
  | some pre =>
    match pre.isNamed ["pre"], pre.children with
    | true, code :: rest =>
      if code.isNamed ["code"] then
        let code := { code with text := f code.text, literal := true }
        some (b.setLast { pre with children := code :: rest })
      else none
    | _, _ => none
  | none => none

/-- Code as a block. -/
def Block.ofCode (text : Text) : Block :=
  { ofText "pre" [] with children := [{ ofText "code" text with literal := true }] }

/-- An empty paragraph, or an empty line before one. It counts inside of code only. -/
def emptyRule : Rule := fun _ _ paragraph others g =>
  let filled (filler : String) : Growth :=
    g.map fun b => (b.changeCode? (· ++ filler.toList)).getD b
  match paragraph with
  | [] => some (others, filled "\n\n")
  | '\n' :: rest => some (leave rest others, filled "\n")
  | _ => none

/-- The indented lines at the start of some lines, without their indentation, and the other
lines. -/
def takeIndented : List Text → List Text × List Text
  | [] => ([], [])
  | line :: lines =>
    match afterSpaces? tabWidth line with
    | some rest =>
      let (indented, others) := takeIndented lines
      (rest :: indented, others)
    | none =>
      if line.all Text.isBlank then
        let (indented, others) := takeIndented lines
        ([] :: indented, others)
      else ([], line :: lines)

/-- A paragraph of code. -/
def codeRule : Rule := fun _ _ paragraph others g =>
  if isIndented paragraph then
    let (indented, rest) := takeIndented (linesOf paragraph)
    let code := escapeCode (Text.trimEnd (ofLines indented)) ++ ['\n']
    let grown := g.map fun b =>
      (b.changeCode? fun before => before ++ '\n' :: code).getD (b.append (Block.ofCode code))
    some (leave (ofLines rest) others, grown)
  else none

end Gamebook.Markdown
