import Gamebook.Markdown.Escape
import Gamebook.Markdown.Mark
import Gamebook.Text.Word

/-!
# Fenced code

A fence is a line of at least three tildes or backticks, with the name of a language
or attributes in braces behind them. The lines up to the next equal fence are code,
whatever they hold. The whole is set aside as a piece of HTML, with a mark for it on
a line of its own; a fence that is never closed is no fence.
-/

namespace Gamebook.Markdown.Fence

/-- What an opening line says about the code. -/
structure Info where
  language : Text
  id : Text
  classes : List Text

/-! ## Attributes in braces -/

/-- The characters of a word among the attributes. -/
def isAttributeChar (c : Char) : Bool := !(c == ' ' || c == '=' || c == '\x7d')

/-- The attribute that begins a text: its name, its value and what follows it. A word with a point
before it is a class, one with a number sign an identifier. -/
def takeAttribute? (t : Text) : Option (Text × Text × Text) :=
  match t.span isAttributeChar with
  | ([], _) => none
  | (key, after) =>
    let word : Text × Text × Text :=
      match key with
      | '.' :: name => (['.'], name, after)
      | '#' :: name => ("id".toList, name, after)
      | _ => (key, key, after)
    let bare : Text × Text × Text :=
      match after with
      | '=' :: rest =>
        match rest.span isAttributeChar with
        | ([], _) => word
        | (value, after) => (key, value, after)
      | _ => word
    match after with
    | '=' :: q :: rest =>
      if q == '"' || q == '\'' then
        match rest.span (· != q) with
        | (value, _ :: after) => some (key, Text.stripBy (· == q) value, after)
        | (_, []) => some bare
      else some bare
    | _ => some bare

/-- The attributes of a text, and what of it is none, from its first closing brace on. -/
def takeAttributes : Nat → Text → List (Text × Text) × Text
  | 0, t => ([], t)
  | fuel + 1, t =>
    match t with
    | ' ' :: rest => takeAttributes fuel rest
    | _ =>
      match takeAttribute? t with
      | some (key, value, after) =>
        let (attributes, rest) := takeAttributes fuel after
        ((key, value) :: attributes, rest)
      | none => ([], t.dropWhile (· != '\x7d'))

/-- What attributes say about code: the first class is the language. -/
def Info.ofAttributes (attributes : List (Text × Text)) : Info :=
  let valuesOf (key : Text) := (attributes.filter fun a => a.1 == key).map (·.2)
  let classes := valuesOf ['.']
  ⟨classes.headD [], (valuesOf "id".toList).getLastD [], classes.tail⟩

/-! ## Opening lines -/

/-- The characters in the name of a language. -/
def isLanguageChar (c : Char) : Bool :=
  Text.isWord c || c == '#' || c == '.' || c == '+' || c == '-'

/-- What follows each `q` that only spaces part from the end of a line. -/
def afterQuotes (q : Char) : Text → List Text
  | [] => []
  | c :: t =>
    if c == q then
      match Text.dropSpaces t with
      | '\n' :: rest => rest :: afterQuotes q t
      | _ => afterQuotes q t
    else afterQuotes q t

/-- The word before the lines to be highlighted. -/
def marker : Text := "hl_lines".toList

/-- What may follow the opening line when the list of marked lines, or nothing, comes next. -/
def afterMarkedLines (t : Text) : List Text :=
  match t with
  | '\n' :: rest => [rest]
  | _ =>
    match Text.after? (marker ++ ['=']) t with
    | some (q :: rest) => if q == '"' || q == '\'' then afterQuotes q rest else []
    | _ => []

/-- The readings of a text after the fence of an opening line: what it says, and where the code
begins. No reading has text behind the attributes. -/
def readings (t : Text) : List (Info × Text) :=
  match t with
  | '\x7b' :: rest =>
    let (line, after) := rest.span (· != '\n')
    match line.getLast?, after with
    | some '\x7d', _ :: code =>
      let (attributes, left) := takeAttributes line.length line.dropLast
      if left.isEmpty then [(Info.ofAttributes attributes, code)] else []
    | _, _ => []
  | _ =>
    let t := match t with
      | '.' :: rest => rest
      | _ => t
    let (run, after) := t.span isLanguageChar
    let cut := run.length - marker.length
    if after.head? == some '=' && run.drop cut == marker then
      (afterMarkedLines (marker ++ after)).map fun code => (⟨run.take cut, [], []⟩, code)
    else (afterMarkedLines (Text.dropSpaces after)).map fun code => (⟨run, [], []⟩, code)

/-! ## The code -/

/-- The code up to the line that closes the fence, and what follows that line's text. The place is
the start of a line if `fresh`. -/
def takeCode? (fence : Text) (fresh : Bool) : Text → Option (Text × Text)
  | [] => none
  | c :: t =>
    let closed := if fresh then (Text.after? fence (c :: t)).bind closing else none
    match closed with
    | some after => some ([], after)
    | none => (takeCode? fence (c == '\n') t).map fun r => (c :: r.1, r.2)
where
  /-- The rest of a text that has only spaces up to the end of the line. -/
  closing (t : Text) : Option Text :=
    let rest := Text.dropSpaces t
    if rest.isEmpty || rest.head? == some '\n' then some rest else none

/-- How a character of fenced code is written. -/
def escapeChar (c : Char) : Text := if c == '"' then "&quot;".toList else escapeCodeChar c

/-- An attribute as it is written. -/
def writeAttribute (name : String) (value : Text) : Text :=
  ' ' :: name.toList ++ "=\"".toList ++ escapeAttribute value ++ ['"']

/-- The HTML of fenced code. -/
def write (info : Info) (code : Text) : Text :=
  let id := if info.id.isEmpty then [] else writeAttribute "id" info.id
  let classes :=
    if info.classes.isEmpty then [] else writeAttribute "class" (Text.joinWith [' '] info.classes)
  let language :=
    if info.language.isEmpty then []
    else writeAttribute "class" ("language-".toList ++ info.language)
  "<pre".toList ++ id ++ classes ++ "><code".toList ++ language ++ ['>'] ++
    Text.rewriteChars escapeChar code ++ "</code></pre>".toList

/-- The fenced code that begins at the start of a line: its HTML, and what follows it. -/
def take? (t : Text) : Option (Text × Text) :=
  match t with
  | c :: _ =>
    if c == '~' || c == '\x60' then
      let (fence, after) := t.span (· == c)
      if fence.length < 3 then none
      else
        (readings (Text.dropSpaces after)).findSome? fun (info, code) =>
          (takeCode? fence true code).map fun (code, rest) => (write info code, rest)
    else none
  | [] => none

/-- A text from the start of a line on, with marks for its fenced code, numbered from `number` on,
and the pieces that the marks stand for. -/
def setAsideFrom : Nat → Nat → Text → Text × List Text
  | 0, _, t => (t, [])
  | fuel + 1, number, t =>
    if t.isEmpty then ([], [])
    else
      let (start, taken, rest) := match take? t with
        | some (html, rest) => ('\n' :: (mark number ++ ['\n']), [html], rest)
        | none => ([], [], t)
      let (line, after) := rest.span (· != '\n')
      let (text, pieces) := setAsideFrom fuel (number + taken.length) after.tail
      (start ++ line ++ after.take 1 ++ text, taken ++ pieces)

/-- A source with marks for its fenced code, and the pieces that the marks stand for. -/
def setAside (source : Text) : Text × List Text := setAsideFrom (source.length + 1) 0 source

end Gamebook.Markdown.Fence
