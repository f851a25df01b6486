import Gamebook.Entries

/-!
# Definitions

A glossary explains its terms. A term is an entity with a list of stats, or lore
with a description and perhaps a heading to jump to. A stat shows a fixed text, a
bar with a current and a greatest value, or a formula to roll.
-/

namespace Gamebook

/-- A stat of an entity: a text, a bar with its greatest value, or a formula to roll. -/
inductive Stat where
  | static (label value : Text)
  | bar (label : Text) (current maximum : Int)
  | roll (label formula : Text)
deriving DecidableEq

/-- What a term stands for: an entity with stats, or a piece of lore that may lead to a place. -/
inductive Definition where
  | entity (stats : List Stat)
  | lore (description : Text) (jump : Option Text)
deriving DecidableEq

namespace Definition

/-- The heading that a definition leads to, without number signs. An empty jump leads nowhere. -/
def jumpTarget : Definition → Option Text
  | entity _ => none
  | lore _ none => none
  | lore _ (some jump) => if jump = [] then none else some (jump.filter (· != '#'))

end Definition

/-- The definitions of a cartridge by term, in the order in which the terms first came. -/
abbrev Glossary := List (Text × Definition)

end Gamebook
