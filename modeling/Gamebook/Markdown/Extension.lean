import Gamebook.Text.Quoted

/-!
# Extensions

What a document may hold besides the common forms is chosen by name: tables, breaks at
the ends of lines, fenced code, and lists whose kinds do not mix. A name may be given
in full, and with the class that it stands for.
-/

namespace Gamebook.Markdown

/-- What a document may hold besides the common forms. -/
structure Features where
  grids : Bool
  lineBreaks : Bool
  fences : Bool
  strictLists : Bool

/-- Why an extension cannot be used. -/
inductive ExtensionError where
  | noName
  /-- A name that starts with a point has nothing that it is relative to. -/
  | relative (name : Text)
  | unknown (name : Text)

/-- The text of the error for a name that leads to no extension. -/
def ExtensionError.message : ExtensionError → Text
  | noName => "Empty module name".toList
  | relative name =>
    "the 'package' argument is required to perform a relative import for ".toList ++
      Text.quoted name
  | unknown name => "No module named ".toList ++ Text.quoted name

namespace Features

/-- No feature beyond the plain language. -/
def none : Features := ⟨false, false, false, false⟩

/-- Adds an extension by its short name. -/
def add? (name : Text) (f : Features) : Option Features :=
  if name == "tables".toList then some { f with grids := true }
  else if name == "nl2br".toList then some { f with lineBreaks := true }
  else if name == "fenced_code".toList then some { f with fences := true }
  else if name == "sane_lists".toList then some { f with strictLists := true }
  else Option.none

/-- The first part of a name that nothing is known by. -/
def unknownPart (name : Text) : Text :=
  let parts := Text.splitOn '.' name
  let known := ["markdown", "extensions"].map String.toList
  let shared := ((parts.zip known).takeWhile fun p => p.1 == p.2).length
  Text.joinWith ['.'] (parts.take (shared + 1))

/-- Adds an extension by its name. -/
def add (name : Text) (f : Features) : Except ExtensionError Features :=
  match f.add? name with
  | some f => .ok f
  | Option.none =>
    let module := name.takeWhile (· != ':')
    match (Text.after? "markdown.extensions.".toList module).bind fun short => f.add? short with
    | some f => .ok f
    | Option.none =>
      match module with
      | [] => .error .noName
      | '.' :: _ => .error (.relative module)
      | _ => .error (.unknown (unknownPart module))

/-- The features that some extensions make. -/
def ofNames (names : List Text) : Except ExtensionError Features :=
  names.foldlM (fun f name => f.add name) none

end Features

end Gamebook.Markdown
