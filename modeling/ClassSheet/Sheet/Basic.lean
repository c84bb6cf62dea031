import ClassSheet.Css.Rule
import ClassSheet.Dom.Document
import ClassSheet.Dom.InPlace
import ClassSheet.Sheet.Bucket

/-! # Stylesheets

The rules collected for a document, plain ones and those under a media condition apart, and the
`style` element into which `Sheet.flush` writes each of them once. `Sheet.Session.flush` does so
step by step in a sheet and a document that others see as well. -/

namespace ClassSheet

/-- The rules for a document and the element that they are written to. -/
structure Sheet where
  plain : Bucket
  media : Bucket
  styleElement : Dom.NodeRef
deriving DecidableEq

namespace Sheet

/-- A sheet without rules that is written to the `style` element with an `id`; the document gets one
    if it has none. -/
def new (d : Dom.Document) (styleId : String) : Except Dom.Error Sheet × Dom.Document :=
  let (style, d) := d.ensureStyle styleId
  (style.map fun style => ⟨.empty, .empty, style⟩, d)

/-- Whether the text of a rule begins like one under a media condition. -/
def isMediaText (rule : String) : Bool := "@media".toList.isPrefixOf rule.toList

/-- The sheet with the text of a rule in its bucket, and whether that changed it. -/
def insertText (s : Sheet) (rule : String) : Bool × Sheet :=
  if isMediaText rule then
    let (isNew, media) := s.media.insert rule
    (isNew, { s with media })
  else
    let (isNew, plain) := s.plain.insert rule
    (isNew, { s with plain })

/-- The sheet with a rule in its bucket, and whether that changed it. -/
def insert (s : Sheet) (rule : Css.Rule) : Bool × Sheet := s.insertText rule.css

/-- The rules that have not been written, plain ones first. -/
def pending (s : Sheet) : List String := s.plain.pending ++ s.media.pending

/-- Writes the rules that have not been written to the end of the `style` element, and tells how
    many they were. Without such rules the element is not asked for. -/
def flush (s : Sheet) (d : Dom.Document) : Except Dom.Error (Nat × Sheet × Dom.Document) :=
  let count := s.pending.length
  let written := { s with plain := s.plain.markFlushed, media := s.media.markFlushed }
  if count = 0 then .ok (count, written, d)
  else
    (d.appendStyleText s.styleElement (String.join s.pending)).map fun d => (count, written, d)

/-- The text of all rules, plain ones first. -/
def text (s : Sheet) : String := String.join (s.plain.rules ++ s.media.rules)

/-! ### Writing in place -/

/-- A sheet and its document. -/
structure Session where
  sheet : Sheet
  document : Dom.Document

namespace Session

/-- Work on the tree of the document. -/
def onTree {α : Type} (x : Dom.InPlace α) : Work Session Dom.Error α :=
  x.onPart (·.document.tree) (fun s t => { s with document := { s.document with tree := t } }) id

/-- Counts every rule as written, first the plain ones. -/
def markFlushed : Work Session Dom.Error Unit := do
  modify fun s => { s with sheet := { s.sheet with plain := s.sheet.plain.markFlushed } }
  modify fun s => { s with sheet := { s.sheet with media := s.sheet.media.markFlushed } }

/-- Writes the rules that have not been written to the end of the `style` element, and tells how
    many they were. They count as written when their text is there. -/
def flush : Work Session Dom.Error Nat := do
  let sheet := (← get).sheet
  let count := sheet.pending.length
  if 0 < count then
    onTree (Dom.InPlace.appendText sheet.styleElement (String.join sheet.pending))
  markFlushed
  return count

end Session

end Sheet

end ClassSheet
