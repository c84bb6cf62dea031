import ClassSheet.Dom.Edit
import ClassSheet.Work

/-! # Edits in place

An edit of `ClassSheet.Dom.Edit` gives a changed tree or none. The moves of this module, and what
adds text or a class, are work on one tree that others see as well. They change it link by link,
look up every node that they change, and stop when one is missing. -/

namespace ClassSheet.Dom

/-- Work on a tree. -/
abbrev InPlace (α : Type) := Work Tree Error α

namespace InPlace

open Work

/-! ### Looking up and changing a node -/

/-- The node that a reference names. -/
def node (r : NodeRef) : InPlace Node := do
  match (← get).get? r with
  | some n => pure n
  | none => throw (.notFound r)

/-- Goes on under a condition only. -/
def require (condition : Bool) (e : Error) : InPlace Unit :=
  if condition then pure () else throw e

/-- Changes the node that a reference names. -/
def change (r : NodeRef) (f : Node → Node) : InPlace Unit := do
  let _ ← node r
  modify fun t => t.modify r f

variable {t : Tree} {r : NodeRef}

/-- A node that is there is found, and looking it up changes nothing. -/
theorem run_node {n : Node} (h : t.get? r = some n) : (node r).run t = (.ok n, t) := by
  rw [node, run_bind_ok (run_get t), h]
  rfl

/-- A node that is not there is the error, and looking it up changes nothing. -/
theorem run_node_of_none (h : t.get? r = none) : (node r).run t = (.error (.notFound r), t) := by
  rw [node, run_bind_ok (run_get t), h]
  rfl

/-- What is required and holds is no obstacle. -/
theorem run_require_true (e : Error) : (require true e).run t = (.ok (), t) := rfl

/-- What is required and does not hold is the error, and nothing is changed. -/
theorem run_require_false (e : Error) : (require false e).run t = (.error e, t) := rfl

/-- A node that is there can be changed. -/
theorem run_change (h : (t.get? r).isSome = true) (f : Node → Node) :
    (change r f).run t = (.ok (), t.modify r f) := by
  obtain ⟨n, hn⟩ := Option.isSome_iff_exists.mp h
  rw [change, run_bind_ok (run_node hn), run_modify]

/-! ### Moving subtrees -/

/-- Links a node that hangs nowhere behind the last child of `parent`. -/
def linkLast (parent child : NodeRef) : InPlace Unit := do
  let last := (← node parent).lastChild
  change child fun n => { n with parent, prevSibling := last, nextSibling := none }
  if last.isSome then change last fun n => { n with nextSibling := child }
  else change parent fun n => { n with firstChild := child }
  change parent fun n => { n with lastChild := child }

/-- Moves a node with all below it behind the last child of `parent`. -/
def appendChild (parent child : NodeRef) : InPlace NodeRef := do
  require (← node parent).canHaveChildren (.hierarchy parent child)
  let _ ← node child
  require (!(← get).blocks parent child) (.hierarchy parent child)
  modify fun t => t.detach child
  linkLast parent child
  return child

/-- Cuts a node off from `parent`. -/
def removeChild (parent child : NodeRef) : InPlace NodeRef := do
  require ((← node child).parent == parent) (.notAChild parent child)
  modify fun t => t.detach child
  return child

/-! ### Changing elements -/

/-- The element that a reference names. -/
def element (r : NodeRef) : InPlace Element := do
  match (← node r).element? with
  | some e => pure e
  | none => throw (.notAnElement r)

/-- Looking up an element in place comes to what `Tree.requireElement` says. -/
theorem run_element (r : NodeRef) (t : Tree) : (element r).run t = (t.requireElement r, t) := by
  rw [element, Tree.requireElement]
  cases hn : t.get? r with
  | none => rw [run_bind_error (run_node_of_none hn)]
  | some n =>
    rw [run_bind_ok (run_node hn)]
    dsimp only
    cases n.element? <;> rfl

/-- Adds a class to an element, and tells whether that changed it. -/
def addClass (r : NodeRef) (token : String) : InPlace Bool := do
  let (added, e) := (← element r).addClass token
  modify fun t => t.putElement r e
  return added

/-- Adding a class in place comes to what `Tree.addClass` says, and a class that is refused leaves
    the tree as it was. -/
theorem run_addClass (r : NodeRef) (token : String) (t : Tree) :
    (addClass r token).run t = kept t (t.addClass r token) := by
  rw [addClass, Tree.addClass]
  cases he : t.requireElement r with
  | error e =>
    have hrun : (element r).run t = (.error e, t) := by rw [run_element, he]
    rw [run_bind_error hrun]
    rfl
  | ok e =>
    have hrun : (element r).run t = (.ok e, t) := by rw [run_element, he]
    rw [run_bind_ok hrun]
    rfl

/-! ### Adding text -/

/-- Puts a new node into the tree, where it hangs nowhere. -/
def create (data : NodeData) : InPlace NodeRef := do
  let (child, t) := (← get).create data
  set t
  return child

/-- A new node is always put in. -/
theorem run_create (data : NodeData) (t : Tree) :
    (create data).run t = (.ok (t.create data).1, (t.create data).2) := rfl

/-- Adds text to the end of an element: to its last child if that is a text, and otherwise as a new
    child. The new node would stay in the tree if it could not be hung up. -/
def appendText (r : NodeRef) (text : String) : InPlace Unit := do
  let _ ← element r
  let last := (← node r).lastChild
  match (← get).text? last with
  | some old => modify fun t => t.modify last fun n => { n with data := .text (old ++ text) }
  | none =>
    let child ← create (.text text)
    let _ ← appendChild r child

end InPlace

end ClassSheet.Dom
