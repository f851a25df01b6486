import Gamebook.Entries
import Gamebook.Text.Blank
import Gamebook.Text.Line
import Gamebook.Text.Scan

/-!
# Environment files

An environment file gives values to names, one statement a line:

    # a comment
    export LEVEL=debug   # another
    PLACE='the ${LEVEL} room'

A value stands bare, up to the end of its line or to a comment, or between quotes; a
quoted value may go over several lines and has escapes. A name may stand alone and
then has no value. A statement that is malformed is passed over up to the end of its
line.

A reference in a value recalls what the file gave a name before, or else what the
environment has under that name. So the values of a file are settled from the top down.
-/

namespace Gamebook

/-- The variables of an environment. -/
abbrev Environment := List (Text × Text)

namespace EnvFile

/-- A name and the value that it is given; nothing for a name that stands alone. -/
structure Assignment where
  name : Text
  value : Option Text
deriving DecidableEq

/-- The characters that end a line. -/
def endsLine (c : Char) : Bool := c == '\n' || c == '\r'

/-- A blank within a line. -/
def isInlineBlank (c : Char) : Bool := Text.isBlank c && !endsLine c

/-- What follows the line. -/
def dropLine (t : Text) : Text := (t.dropWhile (!endsLine ·)).drop 1

/-! ## Names -/

/-- Drops the word that may stand in front of a name; blanks set it apart. -/
def dropExport (t : Text) : Text :=
  match Text.after? "export".toList t with
  | some (c :: rest) => if isInlineBlank c then rest.dropWhile isInlineBlank else t
  | _ => t

/-- A character of a bare name. -/
def isNameChar (c : Char) : Bool := c != '=' && c != '#' && !Text.isBlank c

/-- The name at the start of a statement, none before a comment; fails where no name begins. -/
def readName? : Text → Option (Option Text × Text)
  | '#' :: t => some (none, '#' :: t)
  | '\'' :: t =>
    match t.span (· != '\'') with
    | (c :: name, _ :: rest) => some (some (c :: name), rest)
    | _ => none
  | t =>
    match t.span isNameChar with
    | ([], _) => none
    | (name, rest) => some (some name, rest)

/-! ## Values -/

/-- The text up to the closing quote, and what follows it. A quote behind a backslash closes
only where no later quote does. -/
def readQuoted? (quote : Char) : Text → Option (Text × Text)
  | [] => none
  | '\\' :: c :: t =>
    if c == quote then
      match readQuoted? quote t with
      | some (body, rest) => some ('\\' :: c :: body, rest)
      | none => some (['\\'], t)
    else (readQuoted? quote (c :: t)).map fun r => ('\\' :: r.1, r.2)
  | c :: t =>
    if c == quote then some ([], t) else (readQuoted? quote t).map fun r => (c :: r.1, r.2)

/-- Replaces the escapes whose letter has a meaning; any other backslash stays. -/
def unescape (meaning : Char → Option Char) : Text → Text
  | [] => []
  | '\\' :: c :: t =>
    match meaning c with
    | some d => d :: unescape meaning t
    | none => '\\' :: unescape meaning (c :: t)
  | c :: t => c :: unescape meaning t

/-- The escapes between single quotes. -/
def plainEscape (c : Char) : Option Char := if c == '\\' || c == '\'' then some c else none

/-- The escapes between double quotes. -/
def fullEscape : Char → Option Char
  | 'a' => some '\x07'
  | 'b' => some '\x08'
  | 'f' => some '\x0c'
  | 'n' => some '\n'
  | 'r' => some '\r'
  | 't' => some '\t'
  | 'v' => some '\x0b'
  | c => if c == '"' then some c else plainEscape c

/-- What stands before a comment, which blanks set apart. -/
def beforeComment : Text → Text
  | [] => []
  | c :: t =>
    if Text.isBlank c && (t.dropWhile Text.isBlank).head? == some '#' then []
    else c :: beforeComment t

/-- The value behind an equals sign. -/
def readValue? : Text → Option (Text × Text)
  | '\'' :: t => (readQuoted? '\'' t).map fun r => (unescape plainEscape r.1, r.2)
  | '"' :: t => (readQuoted? '"' t).map fun r => (unescape fullEscape r.1, r.2)
  | t =>
    let (line, rest) := t.span (!endsLine ·)
    some (Text.trimEnd (beforeComment line), rest)

/-! ## Statements -/

/-- What follows the end of a statement: at most a comment may stand before the end of its line. -/
def afterEnd? (t : Text) : Option Text :=
  match t.dropWhile isInlineBlank with
  | [] => some []
  | c :: rest =>
    if c == '#' then some (dropLine rest) else if endsLine c then some rest else none

/-- The statement at the start of a text, which begins with no blank, and what follows it;
none for a comment or a malformed statement. -/
def readStatement (t : Text) : Option Assignment × Text :=
  match readName? (dropExport t) with
  | none => (none, dropLine (dropExport t))
  | some (name, rest) =>
    let valued := match rest.dropWhile isInlineBlank with
      | '=' :: rest =>
        (readValue? (rest.dropWhile isInlineBlank)).map fun r => (some r.1, r.2)
      | rest => some (none, rest)
    match valued with
    | none => (none, dropLine rest)
    | some (value, rest) =>
      match afterEnd? rest with
      | none => (none, dropLine rest)
      | some rest => (name.map fun name => ⟨name, value⟩, rest)

/-- The statements of a text; every one takes a character at least. -/
def readStatements : Nat → Text → List Assignment
  | 0, _ => []
  | fuel + 1, t =>
    match Text.trimStart t with
    | [] => []
    | t =>
      let (statement, rest) := readStatement t
      statement.toList ++ readStatements fuel rest

/-- The assignments of a file, in its order. -/
def statements (t : Text) : List Assignment := readStatements t.length t

/-! ## References -/

/-- A name that is recalled, and what stands for it where it is unknown. -/
structure Reference where
  name : Text
  default : Text

/-- Recognises a reference. -/
def reference : Text.Recogniser Reference := fun _ t =>
  match t with
  | '$' :: '\x7b' :: inside =>
    match inside.span fun c => c != '\x7d' && c != ':' with
    | (name, '\x7d' :: _) => some (⟨name, []⟩, name.length + 3)
    | (name, ':' :: '-' :: rest) =>
      match rest.span (· != '\x7d') with
      | (default, _ :: _) => some (⟨name, default⟩, name.length + default.length + 5)
      | _ => none
    | _ => none
  | _ => none

/-- What a reference stands for, behind the values that the file has given `before`. -/
def Reference.value (environment : Environment) (before : List (Text × Option Text))
    (r : Reference) : Text :=
  match entryOf? r.name before with
  | some value => value.getD []
  | none => (entryOf? r.name environment).getD r.default

/-- Settles the values of statements. -/
def settle (environment : Environment) (before : List (Text × Option Text)) :
    List Assignment → List (Text × Option Text)
  | [] => before
  | a :: rest =>
    let value := a.value.map fun t =>
      Text.Piece.render (Reference.value environment before) (Text.scan reference t)
    settle environment (putEntry a.name value before) rest

/-- What the text of a file gives its names, in an environment. -/
def read (environment : Environment) (t : Text) : List (Text × Option Text) :=
  settle environment [] (statements (Text.unifyNewlines t))

end EnvFile

end Gamebook
