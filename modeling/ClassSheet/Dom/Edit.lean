import ClassSheet.Dom.Tree

/-! # Editing a tree

Moving subtrees, and changing elements and texts. An edit that is refused reports why and leaves no
changed tree behind. -/

namespace ClassSheet.Dom

/-- Why an edit is refused. -/
inductive Error where
  /-- The reference names no node. -/
  | notFound (node : NodeRef)
  /-- The edit needs an element. -/
  | notAnElement (node : NodeRef)
  /-- The node is no child of the given parent. -/
  | notAChild (parent child : NodeRef)
  /-- The parent may not have that child. -/
  | hierarchy (parent child : NodeRef)
deriving DecidableEq

/-- The text of an error. -/
def Error.message : Error → String
  | notFound node => "node " ++ node.label ++ " not found"
  | notAnElement node => "node " ++ node.label ++ " is not an element"
  | notAChild parent child => "node " ++ child.label ++ " is not a child of " ++ parent.label
  | hierarchy parent child => "cannot insert " ++ child.label ++ " into " ++ parent.label

namespace Tree

/-! ### New nodes -/

/-- A new element that hangs nowhere. -/
def createElement (t : Tree) (tag : String) : NodeRef × Tree := t.create (.element (.ofTag tag))

/-- A new text that hangs nowhere. -/
def createText (t : Tree) (text : String) : NodeRef × Tree := t.create (.text text)

/-- A new comment that hangs nowhere. -/
def createComment (t : Tree) (text : String) : NodeRef × Tree := t.create (.comment text)

/-! ### Moving subtrees -/

/-- The tree with a node cut off from its parent: its neighbours are linked to each other, and where
    it has none the parent's first or last child moves on. A node without a parent stays. -/
def detach (t : Tree) (r : NodeRef) : Tree :=
  match t.get? r with
  | none => t
  | some node =>
    if node.parent.isNone then t
    else
      let { parent, prevSibling := prev, nextSibling := next, .. } := node
      -- close the gap on the left, then on the right
      let t :=
        if (t.get? prev).isSome then t.modify prev fun n => { n with nextSibling := next }
        else t.modify parent fun n => { n with firstChild := next }
      let t :=
        if (t.get? next).isSome then t.modify next fun n => { n with prevSibling := prev }
        else t.modify parent fun n => { n with lastChild := prev }
      t.modify r fun n => { n with parent := none, prevSibling := none, nextSibling := none }

/-- The tree with a node that hangs nowhere linked behind the last child of `parent`. -/
def linkLast (t : Tree) (parent child : NodeRef) : Tree :=
  let last := (t.get? parent).bind (·.lastChild)
  let t := t.modify child fun n => { n with parent, prevSibling := last, nextSibling := none }
  let t :=
    if last.isSome then t.modify last fun n => { n with nextSibling := child }
    else t.modify parent fun n => { n with firstChild := child }
  t.modify parent fun n => { n with lastChild := child }

/-- Whether a node must not move below `parent`: the document moves nowhere, and no node moves below
    itself. -/
def blocks (t : Tree) (parent child : NodeRef) : Bool :=
  child == root || (child.map fun c => t.isInclusiveAncestor c parent).getD false

/-- Moves a node with all below it behind the last child of `parent`. -/
def appendChild (t : Tree) (parent child : NodeRef) : Except Error Tree :=
  match t.get? parent with
  | none => .error (.notFound parent)
  | some p =>
    if !p.canHaveChildren then .error (.hierarchy parent child)
    else if (t.get? child).isNone then .error (.notFound child)
    else if t.blocks parent child then .error (.hierarchy parent child)
    -- `linkLast` looks up the last child itself: cutting off `child` may have changed it
    else .ok ((t.detach child).linkLast parent child)

/-- Cuts a node off from `parent`. The reference to no node counts as the parent of a node that has
    none. -/
def removeChild (t : Tree) (parent child : NodeRef) : Except Error Tree :=
  match t.get? child with
  | none => .error (.notFound child)
  | some c => if c.parent != parent then .error (.notAChild parent child) else .ok (t.detach child)

/-! ### Changing elements -/

/-- The element that a reference names, or why there is none. -/
def requireElement (t : Tree) (r : NodeRef) : Except Error Element :=
  match t.get? r with
  | none => .error (.notFound r)
  | some node =>
    match node.element? with
    | none => .error (.notAnElement r)
    | some e => .ok e

/-- The tree with the element at a reference replaced. -/
def putElement (t : Tree) (r : NodeRef) (e : Element) : Tree :=
  t.modify r fun n => { n with data := .element e }

/-- Sets an attribute of an element. -/
def setAttribute (t : Tree) (r : NodeRef) (name value : String) : Except Error Tree :=
  (t.requireElement r).map fun e => t.putElement r (e.setAttribute name value)

/-- Adds a class to an element, and tells whether that changed it. -/
def addClass (t : Tree) (r : NodeRef) (token : String) : Except Error (Bool × Tree) :=
  (t.requireElement r).map fun e =>
    let (added, e) := e.addClass token
    (added, t.putElement r e)

/-- Removes an attribute of an element, and tells its old value; nothing if `r` names no element. -/
def removeAttribute? (t : Tree) (r : NodeRef) (name : String) : Option (Option String × Tree) :=
  (t.element? r).map fun e =>
    let (old, e) := e.removeAttribute name
    (old, t.putElement r e)

/-- Removes a class of an element, and tells whether that changed it; nothing if `r` names no
    element. -/
def removeClass? (t : Tree) (r : NodeRef) (token : String) : Option (Bool × Tree) :=
  (t.element? r).map fun e =>
    let (removed, e) := e.removeClass token
    (removed, t.putElement r e)

/-! ### Changing texts -/

/-- The text of a node, if it is a text node. -/
def text? (t : Tree) (r : NodeRef) : Option String := (t.get? r).bind Node.text?

/-- Adds text to the end of an element: to its last child if that is a text, and otherwise as a new
    child. -/
def appendText (t : Tree) (r : NodeRef) (text : String) : Except Error Tree :=
  match t.requireElement r with
  | .error e => .error e
  | .ok _ =>
    let last := (t.get? r).bind (·.lastChild)
    match t.text? last with
    | some old => .ok (t.modify last fun n => { n with data := .text (old ++ text) })
    | none =>
      let (child, t) := t.createText text
      t.appendChild r child

end Tree

end ClassSheet.Dom
