import Gamebook.Annotation.DiceSpan
import Gamebook.Annotation.Reference
import Gamebook.Annotation.TableBlock
import Gamebook.Annotation.TableRegion
import Gamebook.Markdown.Render

/-!
# Enhancing a narrative

References and tables are marked in the source of a narrative, so that the rendering
leaves them alone. In the rendered text the marks become links and buttons, and the
dice that are mentioned can be rolled. The rendering itself is any function.
-/

namespace Gamebook

/-- Renders a source. -/
abbrev Renderer := Text → Except Markdown.RenderError Text

/-- Why a narrative is not enhanced. -/
inductive EnhanceError where
  | numeral (e : NumeralError)
  | render (e : Markdown.RenderError)

/-- The text of the error that ends an enhancement. -/
def EnhanceError.message : EnhanceError → Text
  | numeral e => e.message
  | render e => e.message

/-- A narrative with marks in it, and the terms that its references name. -/
structure MarkedNarrative where
  text : Text
  terms : List Text

namespace MarkedNarrative

/-- Marks the references to known terms and the tables that can be rolled. -/
def ofNarrative (isKnown : Text → Bool) (narrative : Text) :
    Except NumeralError MarkedNarrative := do
  let (text, terms) := Reference.protect isKnown narrative
  return ⟨← TableBlock.tagTables text, terms⟩

/-- Puts links, buttons and dice in the place of the marks in the rendered text. -/
def materialize (rendered idStem : Text) (m : MarkedNarrative) : Except NumeralError Text := do
  let linked ← Reference.materialize rendered m.terms
  return DiceSpan.mark (TableRegion.materialize linked idStem)

end MarkedNarrative

/-- Renders a narrative with links, buttons and dice. -/
def enhance (render : Renderer) (isKnown : Text → Bool) (idStem narrative : Text) :
    Except EnhanceError Text := do
  let marked ← (MarkedNarrative.ofNarrative isKnown narrative).mapError EnhanceError.numeral
  let rendered ← (render marked.text).mapError EnhanceError.render
  (marked.materialize rendered idStem).mapError EnhanceError.numeral

end Gamebook
