import ClassSheet.Config.Json
import ClassSheet.Pattern.Matching
import ClassSheet.Sheet.Page
import ClassSheet.Proofs.Dom.Arranged
import ClassSheet.Proofs.Dom.Ancestry
import ClassSheet.Proofs.Dom.Edits
import ClassSheet.Proofs.Dom.Reachable
import ClassSheet.Proofs.Name.Parts
import ClassSheet.Proofs.Dom.Classes
import ClassSheet.Proofs.Name.Plan
import ClassSheet.Proofs.Sheet.Pass
import ClassSheet.Proofs.Dom.Preorder
import ClassSheet.Proofs.Name.Generated
import ClassSheet.Proofs.Sheet.Ledger
import ClassSheet.Proofs.Name.Rejected
import ClassSheet.Proofs.Name.ReadBack
import ClassSheet.Proofs.Name.Compiled
import ClassSheet.Proofs.Sheet.Rerun
import ClassSheet.Proofs.Name.Scope
import ClassSheet.Proofs.Css.Accepted
import ClassSheet.Proofs.Dom.Attributes
import ClassSheet.Proofs.Name.Written
import ClassSheet.Proofs.Sheet.OptOut
import ClassSheet.Proofs.Html.Load
import ClassSheet.Proofs.Media.Pairs
import ClassSheet.Proofs.Media.Decoding
import ClassSheet.Proofs.Dom.ClassAttribute
import ClassSheet.Proofs.Name.Effect
import ClassSheet.Proofs.Dom.Forest
import ClassSheet.Proofs.Dom.Markup
import ClassSheet.Proofs.Css.Keys
import ClassSheet.Proofs.Css.ReadBack
import ClassSheet.Proofs.Selector.Decoding
import ClassSheet.Dom.InPlace
import ClassSheet.Proofs.Dom.Moves
import ClassSheet.Proofs.Dom.Walks
import ClassSheet.Proofs.Dom.OuterHtml
import ClassSheet.Proofs.Dom.Stylesheet
import ClassSheet.Proofs.Dom.StyleElement
import ClassSheet.Proofs.Html.Image
import ClassSheet.Proofs.Sheet.Report
import ClassSheet.Proofs.Dom.AppendedText
import ClassSheet.Proofs.Name.Identifier
