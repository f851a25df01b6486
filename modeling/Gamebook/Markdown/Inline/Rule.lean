import Gamebook.Markdown.Inline.Glyph

/-!
# Rules for running text

A rule looks at one place of running text, together with the glyph before it. It may
put other glyphs in the place of what it reads there, or pass over something that
looks like markup and is not.
-/

namespace Gamebook.Markdown

/-- What a rule finds at a place. -/
inductive Finding where
  /-- The next glyphs are passed over. -/
  | pass (length : Nat)
  /-- The next glyphs are replaced. -/
  | replace (length : Nat) (new : Markup)

/-- What a rule finds at a place: it sees the glyph before the place and the markup behind it. -/
abbrev InlineRule := Option Glyph → Markup → Option Finding

/-- The first replacement that a rule makes in a text of which `skip` more glyphs are passed over:
what stands before it, the new glyphs, and what follows. -/
def firstReplacement? (rule : InlineRule) :
    Nat → Option Glyph → Markup → Option (Markup × Markup × Markup)
  | _, _, [] => none
  | skip + 1, _, g :: m => (firstReplacement? rule skip (some g) m).map fun r => (g :: r.1, r.2)
  | 0, before, g :: m =>
    match rule before (g :: m) with
    | some (.replace length new) => some ([], new, (g :: m).drop length)
    | some (.pass length) =>
      (firstReplacement? rule (length - 1) (some g) m).map fun r => (g :: r.1, r.2)
    | none => (firstReplacement? rule 0 (some g) m).map fun r => (g :: r.1, r.2)

/-- Replaces what was read from a text up to a rest. -/
def replaceUpTo (text rest new : Markup) : Finding := .replace (text.length - rest.length) new

/-- Takes the fewest glyphs, but at least so many, after which `next` finds something: those
glyphs, and what it finds. `next` also sees the glyph before its place. -/
def takeFewest? {α : Type} (next : Option Glyph → Markup → Option α) :
    Nat → Option Glyph → Markup → Option (Markup × α)
  | least + 1, _, g :: m => (takeFewest? next least (some g) m).map fun r => (g :: r.1, r.2)
  | _ + 1, _, [] => none
  | 0, before, m =>
    match next before m with
    | some found => some ([], found)
    | none =>
      match m with
      | [] => none
      | g :: m => (takeFewest? next 0 (some g) m).map fun r => (g :: r.1, r.2)

/-- What follows a word of characters. -/
def Markup.after? : Text → Markup → Option Markup
  | [], m => some m
  | c :: word, .char x :: m => if x = c then after? word m else none
  | _ :: _, _ => none

/-- Takes the glyphs up to a character, which must follow them. -/
def Markup.takeUpTo? (c : Char) (m : Markup) : Option (Markup × Markup) :=
  match m.span fun g => !g.isChar c with
  | (taken, _ :: rest) => some (taken, rest)
  | (_, []) => none

end Gamebook.Markdown
