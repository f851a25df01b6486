import Gamebook.Html.StartTag
import Gamebook.Text.Quoted

/-!
# Events of a fragment

Cuts a fragment of HTML into what a reader of it meets: tags, text, and comments and
the like, which only part one text from the next. Whatever is no markup is text. The
contents of scripts and styles are text up to their end tag.

Markup that the end of the fragment cuts off is not known to be cut off until all of
the fragment has been seen. So a fragment is read in two goes: the first stops where
it meets such markup, and the second goes on from there and takes the rest as text.
-/

namespace Gamebook.Html

/-- What a reader of a page meets, in the order of the page. -/
inductive Event where
  | startTag (t : StartTag)
  | endTag (name : Text)
  | text (t : Text)
  /-- Text of a marked section, which is apart from the text around it. -/
  | section (t : Text)
  /-- A comment, a declaration or an instruction. -/
  | gap

/-- Why a fragment cannot be read. -/
inductive HtmlError where
  | numeral (e : NumeralError)
  /-- A marked section without a name. -/
  | namelessSection (beginning : Text)
  /-- A marked section with an unknown name. -/
  | unknownSection (name : Text)

/-- The text of the error for a page that cannot be read. -/
def HtmlError.message : HtmlError → Text
  | numeral e => e.message
  | namelessSection beginning =>
    rejected ("expected name token at ".toList ++ Text.quoted beginning)
  | unknownSection name =>
    rejected ("unknown status keyword ".toList ++ Text.quoted name ++ " in marked section".toList)
where
  rejected (reason : Text) : Text :=
    ("The markup you provided was rejected by the parser. Trying a different parser or a " ++
      "different encoding may help.\n\nOriginal error(s) from parser:\n  AssertionError: ").toList
      ++ reason

/-- What a step finds at the place it looks at. -/
inductive Step where
  /-- Events, and the text after them. -/
  | events (es : List Event) (rest : Text)
  /-- Markup that the text does not finish. -/
  | unfinished
  /-- The reading stops here for this go. -/
  | stop (es : List Event) (rest : Text)

/-- The rules for a page: a backtick is a character like others. -/
def plainRules : TagRules := ⟨true⟩

/-- What follows the first `c` in the text. -/
def afterFirst? (c : Char) (t : Text) : Option Text :=
  match t.dropWhile (· != c) with
  | _ :: rest => some rest
  | [] => none

/-- What follows the end of a comment: two hyphens, blanks and a closing bracket. -/
def afterComment? : Text → Option Text
  | [] => none
  | c :: t =>
    match c, t with
    | '-', '-' :: rest =>
      match rest.dropWhile Text.isBlank with
      | '>' :: after => some after
      | _ => afterComment? t
    | _, _ => afterComment? t

/-- A name in a marked section, with the blanks after it. -/
def takeSectionName (t : Text) : Text × Text :=
  match t with
  | c :: _ =>
    if isLetter c then
      let name := t.takeWhile fun x => x.isAlphanum || x == '-' || x == '_' || x == '.'
      let rest := t.drop name.length
      (name ++ rest.takeWhile Text.isBlank, rest.dropWhile Text.isBlank)
    else ([], t)
  | [] => ([], [])

/-- A text up to a closing, and what follows the closing. It begins with the character `first`, and
`closes?` tells what follows it if the text behind that character is the rest of one. -/
def takeUntil? (first : Char) (closes? : Text → Option Text) : Text → Option (Text × Text)
  | [] => none
  | c :: t =>
    match if c == first then closes? t else none with
    | some rest => some ([], rest)
    | none => (takeUntil? first closes? t).map fun r => (c :: r.1, r.2)

/-- What follows the end of a marked section, after the first bracket of the end. `double` tells
that it has two of them. -/
def closesSection? (double : Bool) (t : Text) : Option Text :=
  let t := t.dropWhile Text.isBlank
  let t := if double then
      match t with
      | ']' :: rest => rest.dropWhile Text.isBlank
      | _ => []
    else t
  match t with
  | '>' :: rest => some rest
  | _ => none

/-- What a marked section holds and what follows it. `double` tells that it ends with two square
brackets. -/
def takeSection? (double : Bool) (t : Text) : Option (Text × Text) :=
  takeUntil? ']' (closesSection? double) t

/-- A marked section, after its opening. -/
def markedSection (t : Text) : Except HtmlError Step :=
  if t.isEmpty then .ok .unfinished
  else
    match takeSectionName t with
    | ([], _) => .error (.namelessSection ("<![".toList ++ t.take 17))
    | (_, []) => .ok .unfinished
    | (spelled, _) =>
      let name := Text.lower (Text.trim spelled)
      let known (names : List String) : Bool := names.any fun n => name == n.toList
      let double := known ["temp", "cdata", "ignore", "include", "rcdata"]
      if !double && !known ["if", "else", "endif"] then .error (.unknownSection spelled)
      else
        match takeSection? double t with
        | none => .ok .unfinished
        | some (content, rest) =>
          let isText := (Text.upper (content.take 6)) == "CDATA[".toList
          .ok (.events [if isText then .section (content.drop 6) else .gap] rest)

/-- A declaration, after its opening. -/
def declaration (t : Text) : Except HtmlError Step :=
  let finish (rest : Option Text) : Step :=
    match rest with
    | some rest => .events [.gap] rest
    | none => .unfinished
  match t with
  | '-' :: '-' :: rest => .ok (finish (afterComment? rest))
  | '[' :: rest => markedSection rest
  | _ =>
    if Text.lower (t.take 7) == "doctype".toList then .ok (finish (afterFirst? '>' (t.drop 7)))
    else .ok (finish (afterFirst? '>' t))

/-- The name of an end tag of the plain form, and what follows the tag. -/
def plainEndTag? (t : Text) : Option (Text × Text) :=
  match t.dropWhile Text.isBlank with
  | c :: rest =>
    if isLetter c then
      let (more, after) := rest.span fun x =>
        x.isAlphanum || x == '-' || x == '.' || x == ':' || x == '_'
      match after.dropWhile Text.isBlank with
      | '>' :: after => some (c :: more, after)
      | _ => none
    else none
  | [] => none

/-- An end tag, after its opening, outside of scripts and styles. -/
def endTag (t : Text) : Step :=
  match afterFirst? '>' t with
  | none => .unfinished
  | some afterEnd =>
    match plainEndTag? t with
    | some (name, rest) => .events [.endTag (Text.lower name)] rest
    | none =>
      match t with
      | '>' :: rest => .events [] rest
      | c :: _ =>
        if isLetter c then
          let (name, after) := t.span fun x => !endsTagName x
          let after := (dropGaps true c after).2
          .events [.endTag (Text.lower name)] ((afterFirst? '>' after).getD [])
        else .events [.gap] afterEnd
      | [] => .unfinished

/-- A reference with a number, after the ampersand and the number sign. -/
def numberReference (t : Text) : Except HtmlError Step :=
  let (base, digits) := match t with
    | x :: rest => if x == 'x' || x == 'X' then (16, rest) else (10, t)
    | [] => (10, t)
  let ds := digits.takeWhile fun c => if base == 16 then Text.isHexDigit c else Text.isAsciiDigit c
  match digits.drop ds.length with
  | next :: _ =>
    if ds.isEmpty || Text.isHexDigit next then bail
    else
      let value := if base == 16 then .ok (Number.figuresValue 16 ds) else Number.read ds
      match value with
      | .error e => .error (.numeral e)
      | .ok n =>
        let rest := digits.drop ds.length
        .ok (.events [.text [numberedChar n]] (if next == ';' then rest.tail else rest))
  | [] => bail
where
  /-- No reference: its first two characters are text if a semicolon follows anywhere. -/
  bail : Except HtmlError Step :=
    if t.any (· == ';') then .ok (.stop [.text ['&', '#']] t)
    else .ok (.stop [] ('&' :: '#' :: t))

/-- The characters in the name of a reference. -/
def isNameChar (c : Char) : Bool := c.isAlphanum || c == '-' || c == '.'

/-- The name of a reference at the end of a text: it stops before its last hyphen or point that no
letter or digit follows directly. -/
def nameAtEnd (name : Text) : Option Text :=
  match (name.reverse.dropWhile fun c => c.isAlphanum) with
  | _ :: before => some before.reverse
  | [] => none

/-- What a name without regard to its semicolon stands for. -/
def namedText (name : Text) : Text := (entity? true name).getD ('&' :: name)

/-- A reference with a name, after the ampersand. `final` tells that no more text follows later. -/
def nameReference (final : Bool) (t : Text) : Step :=
  match t with
  | [] => .stop [] ['&']
  | c :: _ =>
    if isLetter c then
      let (name, after) := t.span isNameChar
      match after with
      | next :: more =>
        .events [.text (namedText name)] (if next == ';' then more else next :: more)
      | [] =>
        match nameAtEnd name with
        | some short =>
          if short.isEmpty then cutOff else .events [.text (namedText short)] (t.drop short.length)
        | none => cutOff
    else .events [.text ['&']] t
where
  /-- A name that the end of the text cuts off; a single letter loses its ampersand. -/
  cutOff : Step := if final && t.length == 1 then .stop [] t else .stop [] ('&' :: t)

/-- What stands after an opening angle bracket. -/
def markup (t : Text) : Except HtmlError Step :=
  match t with
  | '/' :: rest => .ok (endTag rest)
  | '!' :: rest => declaration rest
  | '?' :: rest =>
    .ok (match afterFirst? '>' rest with
      | some rest => .events [.gap] rest
      | none => .unfinished)
  | c :: _ =>
    if isLetter c then
      match StartTag.read plainRules false t with
      | .error e => .error (.numeral e)
      | .ok (.tag tag rest) => .ok (.events [.startTag tag] rest)
      | .ok (.junk rest) => .ok (.events [.text ('<' :: t.take (t.length - rest.length))] rest)
      | .ok .incomplete => .ok .unfinished
    else .ok (.events [.text ['<']] t)
  | [] => .ok (.stop [] ['<'])

/-- Unfinished markup as text, up to its end as far as it has one. -/
def asText (t : Text) : Text × Text :=
  match t.span (· != '>') with
  | (before, _ :: rest) => ('<' :: before ++ ['>'], rest)
  | (_, []) =>
    match t.span (· != '<') with
    | (before, c :: rest) => ('<' :: before, c :: rest)
    | (_, []) => (['<'], t)

/-- Whether the end tag of an element begins here, after its opening angle bracket. -/
def closesRaw? (name t : Text) : Option Text :=
  match t with
  | '/' :: rest =>
    match plainEndTag? rest with
    | some (found, after) => if Text.lower found == name then some after else none
    | none => none
  | _ => none

/-- The contents of a script or a style, and what follows its end tag. -/
def takeRaw? (name t : Text) : Option (Text × Text) := takeUntil? '<' (closesRaw? name) t

/-- The elements of which the text is read without any tag but their own end. -/
def isRawElement (name : Text) : Bool := name == "script".toList || name == "style".toList

/-- The element whose contents are raw and which the last of the events opens. -/
def opensRaw? (es : List Event) : Option Text :=
  match es.getLast? with
  | some (.startTag t) => if isRawElement t.name && !t.selfClosing then some t.name else none
  | _ => none

/-- The events of a text, in the second go if `final`. -/
def eventsFrom (final : Bool) : Nat → Text → Except HtmlError (List Event)
  | 0, _ => .ok []
  | fuel + 1, t =>
    match t with
    | [] => .ok []
    | c :: rest => do
      let step ←
        if c == '<' then markup rest
        else if c == '&' then
          match rest with
          | '#' :: more => numberReference more
          | _ => pure (nameReference final rest)
        else
          let (text, after) := t.span fun x => x != '<' && x != '&'
          pure (.events [.text text] after)
      match step with
      | .events es after =>
        match opensRaw? es with
        | none => return es ++ (← eventsFrom final fuel after)
        | some name =>
          match takeRaw? name after with
          | some (content, after) =>
            return es ++ [.text content, .endTag name] ++ (← eventsFrom final fuel after)
          | none => return es
      | .unfinished =>
        if final then
          let (text, after) := asText rest
          return .text text :: (← eventsFrom final fuel after)
        else eventsFrom true fuel t
      | .stop es after =>
        if final then return es ++ [.text after]
        else return es ++ (← eventsFrom true fuel after)

/-- The events of a fragment. -/
def events (fragment : Text) : Except HtmlError (List Event) :=
  eventsFrom false (2 * fragment.length + 4) fragment

end Gamebook.Html
