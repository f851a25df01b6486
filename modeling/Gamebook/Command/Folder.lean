import Gamebook.Command.Path
import Gamebook.Text.Quoted

/-!
# Folders

A working folder with the files in it and in the folders below it. A path is followed
name by name, and every step sets out from a folder; nothing is known of what lies
outside of the working folder.
-/

namespace Gamebook

/-- Why a file is not written. -/
inductive FileError where
  | missing (path : Path)
  | notFolder (path : Path)
  | isFolder (path : Path)
deriving DecidableEq

/-- The text of the error for a path, with its number. -/
def FileError.message : FileError → Text
  | missing path => "[Errno 2] No such file or directory: ".toList ++ Text.quoted path.toText
  | notFolder path => "[Errno 20] Not a directory: ".toList ++ Text.quoted path.toText
  | isFolder path => "[Errno 21] Is a directory: ".toList ++ Text.quoted path.toText

/-- The files of a folder, each by the names on the way to it. -/
structure Folder where
  files : List (List Text × Text)

namespace Folder

/-- What stands at a place. -/
inductive Entry where
  | file (content : Text)
  | folder
  | nothing

/-- What stands at a place; a folder is there as soon as a file lies below it. -/
def entry (f : Folder) (place : List Text) : Entry :=
  match f.files.find? fun e => e.1 == place with
  | some (_, content) => .file content
  | none =>
    if place = [] || f.files.any (fun e => place.isPrefixOf e.1) then .folder else .nothing

/-- The place that a way leads to from another place. -/
def follow (f : Folder) (path : Path) : List Text → List Text → Except FileError (List Text)
  | place, [] => .ok place
  | place, name :: names =>
    match f.entry place with
    | .file _ => .error (.notFolder path)
    | .nothing => .error (.missing path)
    | .folder =>
      if name = ['.', '.'] then
        if place = [] then .error (.missing path) else f.follow path place.dropLast names
      else f.follow path (place ++ [name]) names

/-- The place of a path. -/
def place (f : Folder) (path : Path) : Except FileError (List Text) :=
  if path.root = [] then f.follow path [] path.names else .error (.missing path)

/-- The content of the file at a path. -/
def content? (f : Folder) (path : Path) : Option Text :=
  match f.place path with
  | .error _ => none
  | .ok place =>
    match f.entry place with
    | .file content => some content
    | _ => none

/-- Writes a file, over the one that stands there. -/
def write (f : Folder) (path : Path) (content : Text) : Except FileError Folder := do
  let place ← f.place path
  match f.entry place with
  | .folder => .error (.isFolder path)
  | _ => return ⟨f.files.filter (fun e => e.1 != place) ++ [(place, content)]⟩

/-- The files that are new or changed since `before`, by their paths. -/
def changes (before after : Folder) : List (Text × Text) :=
  (after.files.filter (!before.files.contains ·)).map fun e => (Text.joinWith ['/'] e.1, e.2)

end Folder

end Gamebook
