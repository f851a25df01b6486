import Gamebook.Html.Entity
import Gamebook.Markdown.Inline.Rule

/-!
# Addresses and line breaks

An address in angle brackets is a link to itself. One of mail is written in character
references throughout, to keep it from programs that look for addresses. Two spaces
at the end of a line break it, and so does every end of a line if the document says
so.
-/

namespace Gamebook.Markdown

/-! ## Addresses -/

/-- What follows a word of small letters, each in either case. -/
def Markup.afterLoosely? : Text → Markup → Option Markup
  | [], m => some m
  | c :: word, .char x :: m => if x == c || x == c.toUpper then afterLoosely? word m else none
  | _ :: _, _ => none

/-- What follows the scheme of an address. -/
def afterScheme? (m : Markup) : Option Markup :=
  let named := match Markup.afterLoosely? "http".toList m with
    | some rest => some rest
    | none => Markup.afterLoosely? "ftp".toList m
  named.bind fun rest =>
    Markup.after? "://".toList ((Markup.afterLoosely? ['s'] rest).getD rest)

/-- A link whose text is finished. -/
def plainLink (text : Markup) (address : List Sign) : Element :=
  { Element.ofMarkup "a" text with
    attributes := [("href".toList, address)]
    literal := true }

/-- What stands in angle brackets, and what follows them. -/
def takeAngles? (m : Markup) : Option (Markup × Markup) := do
  let rest ← Markup.after? ['<'] m
  match rest.span fun g => !(g.isChar '<' || g.isChar '>') with
  | (inside, .char '>' :: after) => some (inside, after)
  | _ => none

/-- An address of a page in angle brackets. -/
def pageAddressRule : InlineRule := fun _ m => do
  let (address, rest) ← takeAngles? m
  let _ ← afterScheme? address
  return replaceUpTo m rest [.node (plainLink address (Markup.signs address))]

/-! ## Addresses of mail -/

/-- The names by which characters of addresses are written, in lines of several each. -/
def letterNames : List Text :=
  ["quot amp lt gt nbsp iexcl cent pound curren yen brvbar sect uml copy ordf laquo not shy reg",
    "macr deg plusmn sup2 sup3 acute micro para middot cedil sup1 ordm raquo frac14 frac12 frac34",
    "iquest Agrave Aacute Acirc Atilde Auml Aring AElig Ccedil Egrave Eacute Ecirc Euml Igrave",
    "Iacute Icirc Iuml ETH Ntilde Ograve Oacute Ocirc Otilde Ouml times Oslash Ugrave Uacute",
    "Ucirc Uuml Yacute THORN szlig agrave aacute acirc atilde auml aring aelig ccedil egrave",
    "eacute ecirc euml igrave iacute icirc iuml eth ntilde ograve oacute ocirc otilde ouml divide",
    "oslash ugrave uacute ucirc uuml yacute thorn yuml OElig oelig Scaron scaron Yuml fnof circ",
    "tilde Alpha Beta Gamma Delta Epsilon Zeta Eta Theta Iota Kappa Lambda Mu Nu Xi Omicron Pi",
    "Rho Sigma Tau Upsilon Phi Chi Psi Omega alpha beta gamma delta epsilon zeta eta theta iota",
    "kappa lambda mu nu xi omicron pi rho sigmaf sigma tau upsilon phi chi psi omega thetasym",
    "upsih piv ensp emsp thinsp zwnj zwj lrm rlm ndash mdash lsquo rsquo sbquo ldquo rdquo bdquo",
    "dagger Dagger bull hellip permil prime Prime lsaquo rsaquo oline frasl euro image weierp real",
    "trade alefsym larr uarr rarr darr harr crarr lArr uArr rArr dArr hArr forall part exist empty",
    "nabla isin notin ni prod sum minus lowast radic prop infin ang and or cap cup int there4 sim",
    "cong asymp ne equiv le ge sub sup nsub sube supe oplus otimes perp sdot lceil rceil lfloor",
    "rfloor loz spades clubs hearts diams"].flatMap fun line => Text.splitOn ' ' line.toList

/-- The name of a character, if addresses have one for it. The two angle brackets of mathematics
have an older place than their names. -/
def letterName? (c : Char) : Option Text :=
  if c == '\u2329' then some "lang".toList
  else if c == '\u232a' then some "rang".toList
  else
    (Html.entities.find? fun e => e.characters == [c] && letterNames.contains e.name).map (·.name)

/-- The reference to a character by its number, without the ampersand. -/
def numberReference (c : Char) : Text := '#' :: Nat.toDigits 10 c.toNat ++ [';']

/-- A character of the text of a mail address. -/
def writeLetter (c : Char) : List Sign :=
  let reference := match letterName? c with
    | some name => name ++ [';']
    | none => numberReference c
  .ampersand :: reference.map Sign.plain

/-- The characters of a mail address; an escaped one is spelled by its number between the two
characters of marks. -/
def spellSigns (signs : List Sign) : Text :=
  signs.flatMap fun
    | .plain c => [c]
    | .escaped c => markOpening :: (Nat.toDigits 10 c.toNat ++ [markClosing])
    | .ampersand => ['&']
    | .raw html => html

/-- Whether a text is an address of mail: the last at sign parts a name without exclamation marks
from a host. -/
def isMailAddress (m : Markup) : Bool :=
  match m.reverse.span fun g => !g.isChar '@' with
  | (host, _ :: name) =>
    !host.isEmpty && !name.isEmpty && !m.any (·.isChar ' ') && !name.any (·.isChar '!')
  | (_, []) => false

/-- An address of mail in angle brackets. -/
def mailAddressRule : InlineRule := fun _ m => do
  let (inside, rest) ← takeAngles? m
  if isMailAddress inside then
    let spelled := spellSigns (Markup.signs inside)
    let scheme := "mailto:".toList
    let letters := (Text.after? scheme spelled).getD spelled
    let text := (letters.flatMap writeLetter).map Glyph.sign
    let address := (scheme ++ letters).flatMap fun c =>
      .ampersand :: (numberReference c).map Sign.plain
    return replaceUpTo m rest [.node (plainLink text address)]
  else none

/-! ## Line breaks -/

/-- A line break that the source asks for. -/
def lineBreak : Glyph := .node (Element.ofMarkup "br" [])

/-- Two spaces at the end of a line. -/
def spacedBreakRule : InlineRule := fun _ m =>
  match m with
  | .char ' ' :: .char ' ' :: .char '\n' :: _ => some (.replace 3 [lineBreak])
  | _ => none

/-- The end of a line. -/
def lineEndRule : InlineRule := fun _ m =>
  match m with
  | .char '\n' :: _ => some (.replace 1 [lineBreak])
  | _ => none

end Gamebook.Markdown
