import ClassSheet.Dom.Element

/-! # Trees of nodes

A tree keeps its nodes in an array. Every node that was ever created stays there under its number,
and the nodes refer to each other by number: to the parent, to the first and last child, and to the
neighbours on both sides. Node 0 is the document.

`Tree.children` and `Tree.descendants` are the views through which the tree is read. Both walk along
the links and are bounded by the number of nodes, which a walk without repetition cannot exceed. -/

namespace ClassSheet.Dom

/-! ### Nodes -/

/-- A reference to a node: its number, or nothing. A number may also lie beyond the nodes of the
    tree in which it is used. -/
abbrev NodeRef := Option Nat

/-- A reference as diagnostics show it. -/
def NodeRef.label (r : NodeRef) : String :=
  match r with
  | some n => "#" ++ toString n
  | none => "#none"

/-- What a node is. -/
inductive NodeData where
  | document
  | element (e : Element)
  | text (s : String)
  | comment (s : String)
deriving DecidableEq

/-- A node and its links. -/
structure Node where
  parent : NodeRef
  firstChild : NodeRef
  lastChild : NodeRef
  prevSibling : NodeRef
  nextSibling : NodeRef
  data : NodeData
deriving DecidableEq

namespace Node

/-- A node without links. -/
def detached (data : NodeData) : Node := ⟨none, none, none, none, none, data⟩

/-- The element that a node is. -/
def element? (n : Node) : Option Element :=
  match n.data with
  | .element e => some e
  | _ => none

/-- The text of a text node. -/
def text? (n : Node) : Option String :=
  match n.data with
  | .text s => some s
  | _ => none

/-- Whether a node may have children: the document and elements may. -/
def canHaveChildren (n : Node) : Bool :=
  match n.data with
  | .document | .element _ => true
  | .text _ | .comment _ => false

end Node

/-! ### Trees -/

/-- A tree of nodes, with whatever was detached from it. -/
structure Tree where
  nodes : Array Node

namespace Tree

/-- The tree that holds the document only. -/
def new : Tree := ⟨#[.detached .document]⟩

/-- The document. -/
def root : NodeRef := some 0

/-- The number of nodes, detached ones included. -/
def size (t : Tree) : Nat := t.nodes.size

/-- The node that a reference names. -/
def get? (t : Tree) (r : NodeRef) : Option Node := r.bind (t.nodes[·]?)

/-- The tree with one node changed. A reference that names no node changes nothing. -/
def modify (t : Tree) (r : NodeRef) (f : Node → Node) : Tree :=
  match r with
  | some i => ⟨t.nodes.modify i f⟩
  | none => t

/-- A new node without links, and the tree that holds it. -/
def create (t : Tree) (data : NodeData) : NodeRef × Tree :=
  (some t.nodes.size, ⟨t.nodes.push (.detached data)⟩)

/-- `modify` adds no node. -/
@[simp] theorem size_modify (t : Tree) (r : NodeRef) (f : Node → Node) :
    (t.modify r f).size = t.size := by
  cases r <;> simp [modify, size]

/-- A change of one node is seen at that node and nowhere else. -/
theorem get?_modify (t : Tree) (r q : NodeRef) (f : Node → Node) :
    (t.modify r f).get? q = if r = q then (t.get? q).map f else t.get? q := by
  cases r with
  | none => cases q <;> simp [modify, get?]
  | some i =>
    cases q with
    | none => simp [get?]
    | some j => simp [modify, get?, Array.getElem?_modify]

/-- A new node is seen under the next free number, and the others stay. -/
theorem get?_create (t : Tree) (data : NodeData) (q : NodeRef) :
    (t.create data).2.get? q = if q = some t.size then some (.detached data) else t.get? q := by
  cases q with
  | none => simp [get?]
  | some j => simp [create, get?, size, Array.getElem?_push]

/-! ### Reading a node -/

/-- The element that a reference names. -/
def element? (t : Tree) (r : NodeRef) : Option Element := (t.get? r).bind Node.element?

/-- Whether a reference names an element. -/
def isElement (t : Tree) (r : NodeRef) : Bool := (t.element? r).isSome

/-- The tag of an element. -/
def tag? (t : Tree) (r : NodeRef) : Option String := (t.element? r).map (·.tag)

/-- The value of an attribute of an element. -/
def attribute? (t : Tree) (r : NodeRef) (name : String) : Option String :=
  (t.element? r).bind (·.attribute? name)

/-- Whether a reference names an element with an attribute. -/
def hasAttribute (t : Tree) (r : NodeRef) (name : String) : Bool :=
  ((t.element? r).map (·.hasAttribute name)).getD false

/-- The class list of an element. -/
def classes? (t : Tree) (r : NodeRef) : Option ClassList := (t.element? r).map (·.classes)

/-- The parent of a node. -/
def parent (t : Tree) (r : NodeRef) : NodeRef := (t.get? r).bind (·.parent)

/-- The parent of a node, if it is an element. -/
def parentElement (t : Tree) (r : NodeRef) : NodeRef :=
  if t.isElement (t.parent r) then t.parent r else none

/-! ### Walks -/

/-- The nodes from `r` on along the links to the next sibling, `fuel` of them at most. -/
def siblingsFrom (t : Tree) : Nat → NodeRef → List Nat
  | 0, _ => []
  | _, none => []
  | fuel + 1, some i =>
    match t.nodes[i]? with
    | some node => i :: t.siblingsFrom fuel node.nextSibling
    | none => []

/-- The children of a node, in order. -/
def children (t : Tree) (r : NodeRef) : List Nat :=
  t.siblingsFrom t.size ((t.get? r).bind (·.firstChild))

/-- The children of a node that are elements, in order. -/
def elementChildren (t : Tree) (r : NodeRef) : List Nat :=
  (t.children r).filter fun i => t.isElement (some i)

/-- The nodes of the subtrees whose roots wait in `pending`, in document order, `fuel` of them at
    most. -/
def preorder (t : Tree) : Nat → List Nat → List Nat
  | 0, _ => []
  | _, [] => []
  | fuel + 1, i :: pending => i :: t.preorder fuel (t.children (some i) ++ pending)

/-- The nodes below a node, in document order. -/
def descendants (t : Tree) (r : NodeRef) : List Nat := t.preorder t.size (t.children r)

/-- Whether the walk from `r` along the links to the parent meets `ancestor` within `fuel` steps. -/
def meets (t : Tree) (ancestor : Nat) : Nat → NodeRef → Bool
  | 0, _ => false
  | _, none => false
  | fuel + 1, some i => i == ancestor || t.meets ancestor fuel (t.parent (some i))

/-- Whether `ancestor` is `r` or lies above it. -/
def isInclusiveAncestor (t : Tree) (ancestor : Nat) (r : NodeRef) : Bool :=
  t.meets ancestor (t.size + 1) r

/-- Whether a node hangs below the document or is the document. -/
def isConnected (t : Tree) (r : NodeRef) : Bool :=
  (t.get? r).isSome && t.isInclusiveAncestor 0 r

/-- The text of a node: the text nodes below it, joined in document order. -/
def textContent (t : Tree) (r : NodeRef) : String :=
  String.join ((t.descendants r).filterMap fun i => (t.get? (some i)).bind Node.text?)

end Tree

end ClassSheet.Dom
