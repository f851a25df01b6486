import Gamebook.Command.Render
import Gamebook.Main
import Gamebook.Session.Action
import Gamebook.Proofs.Annotation.Reference
import Gamebook.Proofs.Annotation.TableRoundTrip
import Gamebook.Proofs.Session.History
import Gamebook.Proofs.Table.Collected
import Gamebook.Proofs.Dice.Draw
import Gamebook.Proofs.Dice.Formula
import Gamebook.Proofs.Session.Draws
import Gamebook.Proofs.Entries
import Gamebook.Proofs.Session.Highlight
import Gamebook.Proofs.Session.CompleteTable
import Gamebook.Proofs.Yaml.Cursor
import Gamebook.Proofs.Yaml.Outcome
import Gamebook.Proofs.Yaml.Quoted
import Gamebook.Proofs.Yaml.Plain
import Gamebook.Proofs.Yaml.Reader
import Gamebook.Proofs.Yaml.Scan
import Gamebook.Proofs.Yaml.Content
import Gamebook.Proofs.Yaml.Compose
import Gamebook.Proofs.Yaml.Construct
import Gamebook.Proofs.Yaml.Merge
import Gamebook.Proofs.Document.Split
import Gamebook.Proofs.Yaml.Tame
import Gamebook.Proofs.Session.Bars
import Gamebook.Proofs.Session.Failure
import Gamebook.Proofs.Annotation.Placeholder
import Gamebook.Proofs.Annotation.Inert
import Gamebook.Proofs.Annotation.TermMark
import Gamebook.Proofs.Annotation.Commute
import Gamebook.Proofs.Html.Attribute
import Gamebook.Proofs.Html.Refusal
import Gamebook.Proofs.Annotation.Enhance
import Gamebook.Proofs.Session.Parts
import Gamebook.Proofs.Annotation.Rollable
import Gamebook.Proofs.Annotation.Literal
import Gamebook.Proofs.Document.Block
import Gamebook.Proofs.Document.Extent
import Gamebook.Proofs.Annotation.TableLine
import Gamebook.Proofs.Annotation.TablePattern
import Gamebook.Proofs.Annotation.TableScan
import Gamebook.Proofs.Table.FirstDie
import Gamebook.Proofs.Annotation.TableHeader
import Gamebook.Proofs.Dice.Grammar
import Gamebook.Proofs.Dice.Total
import Gamebook.Proofs.Table.RowInterval
import Gamebook.Proofs.Dice.Munch
import Gamebook.Proofs.Dice.Passed
import Gamebook.Proofs.Annotation.DiceSegment
import Gamebook.Proofs.Html.Source
import Gamebook.Proofs.Html.Ending
import Gamebook.Proofs.Annotation.DiceCut
import Gamebook.Proofs.Annotation.DiceTag
import Gamebook.Proofs.Annotation.RegionScan
import Gamebook.Proofs.Annotation.LeftReference
import Gamebook.Proofs.Annotation.Link
import Gamebook.Proofs.Html.Position
import Gamebook.Proofs.Table.DataRow
import Gamebook.Proofs.Definition.Checked
import Gamebook.Proofs.Definition.Stat
import Gamebook.Proofs.Definition.Overlong
import Gamebook.Proofs.Definition.Stats
import Gamebook.Proofs.Definition.BarNotation
import Gamebook.Proofs.Definition.Decode
import Gamebook.Proofs.Definition.NormalForm
import Gamebook.Proofs.Outline.Narrative
import Gamebook.Proofs.Outline.Slug
import Gamebook.Proofs.Session.BarIndex
import Gamebook.Proofs.Session.HeaderDie
