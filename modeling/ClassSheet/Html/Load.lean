import ClassSheet.Dom.Document
import ClassSheet.Html.Markup

/-! # Documents from markup

The nested markup of a page becomes a document: elements, comments and texts become nodes in
document order, while doctypes, instructions and blank texts are left out. -/

namespace ClassSheet.Html

open ClassSheet.Dom ClassSheet.Text

/-- Pieces that wait to be added, with the node below which they belong. -/
abbrev Waiting := List (NodeRef × List Markup)

mutual

/-- How much work a piece is: its own, and for an element that of its children and of their end. -/
def weight : Markup → Nat
  | .element _ _ children => 2 + weightOfAll children
  | _ => 1

/-- How much work several pieces are. -/
def weightOfAll : List Markup → Nat
  | [] => 0
  | m :: ms => weight m + weightOfAll ms

end

/-- How much work is waiting. -/
def Waiting.weight (w : Waiting) : Nat := w.foldr (fun entry n => 1 + weightOfAll entry.2 + n) 0

/-- The tree with a leaf added behind the last child of `parent`. -/
def addLeaf (t : Tree) (parent : NodeRef) (data : NodeData) : Except Error Tree :=
  let (child, t) := t.create data
  t.appendChild parent child

/-- The tree with an element without children added behind the last child of `parent`, and the
    element. The last value of an attribute counts. -/
def addElement (t : Tree) (parent : NodeRef) (tag : String) (attributes : Attributes) :
    Except Error (NodeRef × Tree) := do
  let (child, t) := t.createElement tag
  let t ← attributes.foldlM (fun t a => t.setAttribute child a.1 a.2) t
  let t ← t.appendChild parent child
  return (child, t)

/-- The tree with everything added that waits, in document order. -/
def addWaiting (t : Tree) (waiting : Waiting) : Except Error Tree :=
  match waiting with
  | [] => .ok t
  | (_, []) :: waiting => addWaiting t waiting
  | (parent, m :: ms) :: waiting =>
    match m with
    | .doctype | .instruction => addWaiting t ((parent, ms) :: waiting)
    | .text s =>
      if isBlankText s then addWaiting t ((parent, ms) :: waiting)
      else do addWaiting (← addLeaf t parent (.text s)) ((parent, ms) :: waiting)
    | .comment s => do addWaiting (← addLeaf t parent (.comment s)) ((parent, ms) :: waiting)
    | .element tag attributes children => do
      let (child, t) ← addElement t parent tag attributes
      -- the children come before the next siblings, which gives document order
      addWaiting t ((child, children) :: (parent, ms) :: waiting)
termination_by waiting.weight
decreasing_by all_goals simp [Waiting.weight, weight, weightOfAll]; try omega

/-- The document that markup stands for. -/
def documentOf (markup : List Markup) : Except Error Document :=
  (addWaiting Tree.new [(Tree.root, markup)]).map fun t => { Document.empty with tree := t }.locate

/-- The document that a page stands for. -/
def document (page : String) : Except Error Document := documentOf (Markup.ofPage page)

end ClassSheet.Html
