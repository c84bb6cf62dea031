import ClassSheet.Dom.Edit

/-! # Documents

A tree together with references to its `html`, `head` and `body` elements, and the place in it where
a stylesheet is kept. The references stay as found: later edits of the tree do not change them. -/

namespace ClassSheet.Dom

/-- A tree and its landmarks. -/
structure Document where
  tree : Tree
  html : NodeRef
  head : NodeRef
  body : NodeRef

namespace Document

/-! ### Making documents -/

/-- The document without an element. -/
def empty : Document := ⟨.new, none, none, none⟩

/-- The document with an empty `html`, `head` and `body`. -/
def skeleton : Document :=
  let (html, t) := Tree.new.createElement "html"
  let (head, t) := t.createElement "head"
  let (body, t) := t.createElement "body"
  let append (t : Tree) (parent child : NodeRef) : Tree :=
    (t.appendChild parent child).toOption.getD t
  let t := append (append (append t Tree.root html) html head) html body
  ⟨t, html, head, body⟩

/-! ### Landmarks -/

/-- The first child of a node with a tag. -/
def childWithTag (t : Tree) (parent : NodeRef) (tag : String) : NodeRef :=
  (t.elementChildren parent).find? fun i => t.tag? (some i) == some tag

/-- The document with its landmarks looked up in the tree. -/
def locate (d : Document) : Document :=
  let html := childWithTag d.tree Tree.root "html"
  { d with
    html
    head := childWithTag d.tree html "head"
    body := childWithTag d.tree html "body" }

/-- The first element in document order with an `id`. -/
def elementById (d : Document) (id : String) : NodeRef :=
  (d.tree.descendants Tree.root).find? fun i => d.tree.attribute? (some i) "id" == some id

/-! ### The stylesheet -/

/-- Whether a node is a `style` element with an `id`. -/
def isStyle (t : Tree) (id : String) (i : Nat) : Bool :=
  t.tag? (some i) == some "style" && t.attribute? (some i) "id" == some id

/-- Adds a `head` below `html`, or below the document if there is no `html`, and keeps it as a
    landmark. If it cannot be added the new element stays detached. -/
def addHead (d : Document) : Except Error Unit × Document :=
  let (head, t) := d.tree.createElement "head"
  match t.appendChild (d.html.or Tree.root) head with
  | .ok t => (.ok (), { d with tree := t, head })
  | .error e => (.error e, { d with tree := t })

/-- Adds a `style` element with an `id` behind the other children of `head`. If it cannot be added
    the new element stays detached. -/
def addStyle (d : Document) (id : String) : Except Error NodeRef × Document :=
  let (style, t) := d.tree.createElement "style"
  match t.setAttribute style "id" id with
  | .error e => (.error e, { d with tree := t })
  | .ok t =>
    match t.appendChild d.head style with
    | .error e => (.error e, { d with tree := t })
    | .ok t => (.ok style, { d with tree := t })

/-- The `style` element with an `id` among the children of `head`. It is added if there is none, and
    so is `head`. -/
def ensureStyle (d : Document) (id : String) : Except Error NodeRef × Document :=
  if d.head.isSome then
    match (d.tree.elementChildren d.head).find? (isStyle d.tree id) with
    | some style => (.ok (some style), d)
    | none => d.addStyle id
  else
    match d.addHead with
    | (.ok (), d) => d.addStyle id
    | (.error e, d) => (.error e, d)

/-- Adds text to the end of a stylesheet. -/
def appendStyleText (d : Document) (style : NodeRef) (css : String) : Except Error Document :=
  (d.tree.appendText style css).map fun t => { d with tree := t }

end Document

end ClassSheet.Dom
