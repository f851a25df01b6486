import Gamebook.Html.Entity
import Gamebook.Text.Case

/-!
# Start tags

Reads a start tag: a name and attributes, in whatever form authors write them. An
attribute may lack a value, and a value may lack its quotes. A tag that the end of
the text cuts off is incomplete; one that runs into something else is no tag.
-/

namespace Gamebook.Html

/-- The letters a name may begin with. -/
def isLetter (c : Char) : Bool := c.isAlpha

/-- What a reader of tags accepts: some take no backtick in names and bare values. -/
structure TagRules where
  allowsBacktick : Bool

/-- Whether the rules keep a character out of names and bare values. -/
def TagRules.refuses (r : TagRules) (c : Char) : Bool := !r.allowsBacktick && c == '\x60'

/-- Whether a character ends the name of a tag. -/
def endsTagName (c : Char) : Bool :=
  c == '\t' || c == '\n' || c == '\r' || c == '\x0c' || c == ' ' || c == '/' || c == '>' ||
    c == '\x00'

/-- Drops blanks and slashes; with `keepEnd`, not the slash right before the end of the tag.
Also tells the last character dropped. -/
def dropGaps (keepEnd : Bool) (before : Char) : Text → Char × Text
  | [] => (before, [])
  | c :: t =>
    if Text.isBlank c then dropGaps keepEnd c t
    else if c == '/' && !(keepEnd && t.head? == some '>') then dropGaps keepEnd c t
    else (before, c :: t)

/-- Whether an attribute may begin after a character. -/
def mayPrecedeAttribute (c : Char) : Bool :=
  Text.isBlank c || c == '/' || c == '\'' || c == '"'

/-- A quoted value: what stands between the quotes, and what follows them. -/
def takeQuoted? (t : Text) : Option (Text × Text) :=
  match t with
  | q :: rest =>
    if q == '\'' || q == '"' then
      match rest.span (· != q) with
      | (value, _ :: after) => some (value, after)
      | (_, []) => none
    else none
  | [] => none

/-- A value without quotes, and what follows it. -/
def takeBare (rules : TagRules) (t : Text) : Text × Text :=
  t.span fun c => !(c == '>' || Text.isBlank c || rules.refuses c)

/-- The last character of a text, or the one before it. -/
def lastOr (before : Char) (t : Text) : Char := t.getLast?.getD before

/-- The value after an attribute's name: the value, the last character of it, and what follows.
A quote that is never closed leaves the value empty when a blank stands before it, and makes the
value bare from the last of several equals signs on. -/
def takeValue? (rules : TagRules) (t : Text) : Option (Text × Char × Text) :=
  match (t.dropWhile Text.isBlank).span (· == '=') with
  | ([], _) => none
  | (signs, rest) =>
    let blanks := rest.takeWhile Text.isBlank
    let here := rest.dropWhile Text.isBlank
    match takeQuoted? here with
    | some (value, after) => some (value, here.headD '"', after)
    | none =>
      if here.head? == some '\'' || here.head? == some '"' then
        if !blanks.isEmpty then
          some ([], '=', rest.drop (blanks.length - 1))
        else if 2 ≤ signs.length then
          let (value, after) := takeBare rules ('=' :: here)
          some (value, lastOr '=' value, after)
        else none
      else
        let (value, after) := takeBare rules here
        some (value, lastOr (lastOr '=' blanks) value, after)

/-- A start tag as it is written. -/
structure StartTag where
  name : Text
  /-- Names and values; a missing value is empty. -/
  attributes : List (Text × Text)
  /-- Whether a slash stands before the end. -/
  selfClosing : Bool
deriving DecidableEq

/-- The attributes from a place on, which follows the character `before`, and what follows them.
`commas` tells that commas may follow a value. -/
def takeAttributes (rules : TagRules) (commas : Bool) :
    Nat → Char → Text → List (Text × Option Text) × Text
  | 0, _, t => ([], t)
  | fuel + 1, before, t =>
    match t with
    | [] => ([], t)
    | c :: rest =>
      if !mayPrecedeAttribute before || Text.isBlank c || c == '/' || c == '>' || rules.refuses c
      then ([], t)
      else
        let (more, afterName) := rest.span fun x =>
          !(Text.isBlank x || x == '/' || x == '=' || x == '>')
        let name := c :: more
        let (value, last, after) := match takeValue? rules afterName with
          | some (v, last, after) => (some v, last, after)
          | none => (none, lastOr c more, afterName)
        let (last, after) := if commas && value.isSome then dropCommas after.length last after
          else (last, after)
        let (last, after) := dropGaps true last after
        let (attributes, after) := takeAttributes rules commas fuel last after
        ((name, value) :: attributes, after)
where
  /-- Drops commas and the blanks before them. -/
  dropCommas : Nat → Char → Text → Char × Text
    | 0, last, t => (last, t)
    | fuel + 1, last, t =>
      match t.dropWhile Text.isBlank with
      | ',' :: rest => dropCommas fuel ',' rest
      | _ => (last, t)

/-- What stands at a place where a start tag seems to begin. -/
inductive TagReading where
  | tag (t : StartTag) (rest : Text)
  /-- Something that is no tag, up to a place. -/
  | junk (rest : Text)
  /-- The text ends inside of the tag. -/
  | incomplete

/-- Reads the value of each attribute. -/
def readValues : List (Text × Option Text) → Except NumeralError (List (Text × Text))
  | [] => .ok []
  | (name, value) :: rest => do
    let v ← unescape (value.getD [])
    let vs ← readValues rest
    return (Text.lower name, v) :: vs

/-- Reads what stands after an opening angle bracket; a letter is known to follow it. -/
def StartTag.read (rules : TagRules) (commas : Bool) (t : Text) :
    Except NumeralError TagReading := do
  let (name, afterName) := t.span fun c => !(endsTagName c || rules.refuses c)
  let (last, gapEnd) := dropGaps true (lastOr '<' name) afterName
  let (attributes, afterAttributes) := takeAttributes rules commas t.length last gapEnd
  -- the end of the tag is looked for behind all blanks, and with no attribute behind all slashes
  let ending :=
    if attributes.isEmpty then (dropGaps false last gapEnd).2
    else afterAttributes.dropWhile Text.isBlank
  let closed (rest : Text) : Except NumeralError TagReading := do
    let left := afterAttributes.take (afterAttributes.length - rest.length)
    let mark := Text.trim left
    if mark == ['>'] || mark == "/>".toList then
      let values ← readValues attributes
      return .tag ⟨Text.lower name, values, mark == "/>".toList⟩ rest
    else return .junk rest
  match ending with
  | [] => return .incomplete
  | '>' :: rest => closed rest
  | '/' :: '>' :: rest => closed rest
  | c :: _ => if c.isAlpha || c == '=' || c == '/' then return .incomplete else return .junk ending

end Gamebook.Html
