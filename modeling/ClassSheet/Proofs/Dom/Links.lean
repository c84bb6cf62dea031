import ClassSheet.Dom.Edit
import Mathlib.Logic.Relation

/-! # The links of a tree

Every node has five links and its data. `Tree.link` and `Tree.data?` read them by number, and the
equations below say what creating a node, cutting one off (`Tree.detach`) and hanging one up
(`Tree.linkLast`) do to each of them. Later modules work with these equations and do not open the
operations again. -/

namespace ClassSheet.Dom

/-- The links of a node. -/
def Node.links : List (Node → NodeRef) :=
  [Node.parent, Node.firstChild, Node.lastChild, Node.prevSibling, Node.nextSibling]

/-- The links of a node do not depend on its data. -/
theorem Node.link_with_data {f : Node → NodeRef} (hf : f ∈ links) (n : Node) (d : NodeData) :
    f { n with data := d } = f n := by
  simp only [links, List.mem_cons, List.not_mem_nil, or_false] at hf
  rcases hf with rfl | rfl | rfl | rfl | rfl <;> rfl

/-- A detached node has no links. -/
theorem Node.link_detached {f : Node → NodeRef} (hf : f ∈ links) (d : NodeData) :
    f (.detached d) = none := by
  simp only [links, List.mem_cons, List.not_mem_nil, or_false] at hf
  rcases hf with rfl | rfl | rfl | rfl | rfl <;> rfl

namespace Tree

/-- A link of the node with a number; nothing if there is no such node. -/
def link (t : Tree) (f : Node → NodeRef) (i : Nat) : NodeRef := (t.get? (some i)).bind f

/-- The data of the node with a number. -/
def data? (t : Tree) (i : Nat) : Option NodeData := (t.get? (some i)).map (·.data)

/-! ### Reading through links and data -/

/-- A number names a node exactly if it is below the size. -/
theorem get?_isSome_iff {t : Tree} {i : Nat} : (t.get? (some i)).isSome = true ↔ i < t.size := by
  simp [get?, size]

/-- A reference that names a node is a number. -/
theorem exists_of_get?_eq_some {t : Tree} {r : NodeRef} {n : Node} (h : t.get? r = some n) :
    ∃ i, r = some i ∧ i < t.size := by
  cases r with
  | none => cases h
  | some i => exact ⟨i, rfl, get?_isSome_iff.mp (h ▸ rfl)⟩

/-- There is no data from the size on. -/
theorem data?_eq_none_iff {t : Tree} {i : Nat} : t.data? i = none ↔ t.size ≤ i := by
  simp [data?, get?, size]

/-- There is data below the size. -/
theorem data?_isSome_iff {t : Tree} {i : Nat} : (t.data? i).isSome = true ↔ i < t.size := by
  rw [data?, Option.isSome_map, get?_isSome_iff]

/-- A node with data is one of the tree. -/
theorem lt_size_of_data? {t : Tree} {i : Nat} {d : NodeData} (h : t.data? i = some d) :
    i < t.size :=
  data?_isSome_iff.mp (h ▸ rfl)

/-- A node with a link is one of the tree. -/
theorem lt_size_of_link {t : Tree} {f : Node → NodeRef} {i j : Nat} (h : t.link f i = some j) :
    i < t.size := by
  rw [← get?_isSome_iff]
  cases hn : t.get? (some i) with
  | none => simp [link, hn] at h
  | some n => rfl

/-- There are no links from the size on. -/
theorem link_eq_none_of_le {t : Tree} {i : Nat} (h : t.size ≤ i) (f : Node → NodeRef) :
    t.link f i = none := by
  cases hl : t.link f i with
  | none => rfl
  | some j => exact absurd (lt_size_of_link hl) (by omega)

/-- The element of a node is its data, if that is an element. -/
theorem element?_eq_data? (t : Tree) (i : Nat) :
    t.element? (some i) = (t.data? i).bind fun d =>
      match d with
      | .element e => some e
      | _ => none := by
  unfold element? data? Node.element?
  rw [Option.bind_map]
  rfl

/-- The text of a node is its data, if that is a text. -/
theorem text?_eq_data? (t : Tree) (i : Nat) :
    t.text? (some i) = (t.data? i).bind fun d =>
      match d with
      | .text s => some s
      | _ => none := by
  unfold text? data? Node.text?
  rw [Option.bind_map]
  rfl

/-! ### Changing one node -/

/-- `modify` changes the links of its node only. -/
theorem link_modify (t : Tree) (r : NodeRef) (f : Node → Node) (g : Node → NodeRef) (i : Nat) :
    (t.modify r f).link g i = if r = some i then t.link (fun n => g (f n)) i else t.link g i := by
  unfold link
  rw [get?_modify]
  split
  · rw [Option.bind_map]; rfl
  · rfl

/-- A link that is the same for all nodes is that of each node there is. -/
theorem link_const (t : Tree) (v : NodeRef) (i : Nat) :
    t.link (fun _ => v) i = if i < t.size then v else none := by
  unfold link get? size
  by_cases h : i < t.nodes.size <;> simp [h]

/-- `modify` leaves the data alone if its function does. -/
theorem data?_modify_of_data_eq {f : Node → Node} (h : ∀ n, (f n).data = n.data) (t : Tree)
    (r : NodeRef) (i : Nat) : (t.modify r f).data? i = t.data? i := by
  unfold data?
  rw [get?_modify]
  split
  · simp [Function.comp_def, h]
  · rfl

/-- Changing the data of a node leaves the links alone. -/
theorem link_modify_data {f : Node → NodeRef} (hf : ∀ n d, f { n with data := d } = f n) (t : Tree)
    (r : NodeRef) (d : NodeData) (i : Nat) :
    (t.modify r fun n => { n with data := d }).link f i = t.link f i := by
  simp only [link_modify, hf, ite_self]

/-- New data is that of its node only, if the node exists. -/
theorem data?_modify_data (t : Tree) (r : NodeRef) (d : NodeData) (i : Nat) :
    (t.modify r fun n => { n with data := d }).data? i =
      if r = some i ∧ i < t.size then some d else t.data? i := by
  unfold data?
  rw [get?_modify]
  by_cases hr : r = some i
  · by_cases hi : i < t.nodes.size <;> simp [hr, hi, get?, size]
  · simp [hr]

/-! ### A new node -/

/-- `create` changes no link, and the new node has none. -/
theorem link_create {f : Node → NodeRef} (hf : ∀ d, f (.detached d) = none) (t : Tree)
    (d : NodeData) (i : Nat) : (t.create d).2.link f i = t.link f i := by
  unfold link
  rw [get?_create]
  split
  · next h =>
    obtain rfl := Option.some.inj h
    rw [Option.bind_some, hf]
    exact (link_eq_none_of_le (Nat.le_refl _) f).symm
  · rfl

/-- `create` gives its data to the new node and leaves that of the others. -/
theorem data?_create (t : Tree) (d : NodeData) (i : Nat) :
    (t.create d).2.data? i = if i = t.size then some d else t.data? i := by
  unfold data?
  rw [get?_create]
  simp only [Option.some.injEq]
  split <;> rfl

/-- `create` adds one node. -/
@[simp] theorem size_create (t : Tree) (d : NodeData) : (t.create d).2.size = t.size + 1 := by
  simp [create, size]

/-! ### Hanging up a node

The equations for `linkLast` on the links of a tree in which both nodes exist. -/

section LinkLast

variable {t : Tree} {p c : Nat}

/-- `linkLast` adds no node. -/
@[simp] theorem size_linkLast (t : Tree) (p c : NodeRef) : (t.linkLast p c).size = t.size := by
  unfold linkLast
  simp only
  split <;> simp

/-- `linkLast` changes no data. -/
@[simp] theorem data?_linkLast (t : Tree) (p c : NodeRef) (i : Nat) :
    (t.linkLast p c).data? i = t.data? i := by
  unfold linkLast
  simp only
  split <;> simp [data?_modify_of_data_eq]

/-- `linkLast` makes `p` the parent of `c` and of no other node. -/
theorem link_parent_linkLast (hc : c < t.size) (i : Nat) :
    (t.linkLast (some p) (some c)).link (·.parent) i =
      if i = c then some p else t.link (·.parent) i := by
  unfold linkLast
  simp only
  split <;> simp [link_modify, link_const] <;> grind

/-- `linkLast` puts `c` behind what was the last child of `p`. -/
theorem link_prevSibling_linkLast (hc : c < t.size) (i : Nat) :
    (t.linkLast (some p) (some c)).link (·.prevSibling) i =
      if i = c then t.link (·.lastChild) p else t.link (·.prevSibling) i := by
  unfold linkLast
  simp only
  split <;> simp [link_modify, link_const] <;> grind [link]

/-- `linkLast` puts `c` in front of nothing, and the old last child of `p` in front of `c`. -/
theorem link_nextSibling_linkLast (hl : ∀ l, t.link (·.lastChild) p = some l → l < t.size)
    (i : Nat) :
    (t.linkLast (some p) (some c)).link (·.nextSibling) i =
      if t.link (·.lastChild) p = some i then some c
      else if i = c then none else t.link (·.nextSibling) i := by
  unfold linkLast
  simp only
  -- the old last child, if there is one, gets a neighbour
  cases h : t.link (·.lastChild) p with
  | none =>
    simp only [link] at h
    rw [h]
    simp [link_modify, link_const, eq_comm]
  | some l =>
    simp only [link] at h
    rw [h]
    simp [link_modify, link_const]
    grind [link]

/-- `linkLast` makes `c` the first child of `p` only where `p` had no last one. -/
theorem link_firstChild_linkLast (hp : p < t.size) (i : Nat) :
    (t.linkLast (some p) (some c)).link (·.firstChild) i =
      if i = p ∧ t.link (·.lastChild) p = none then some c else t.link (·.firstChild) i := by
  unfold linkLast
  simp only
  -- the first child changes only where there was no last one
  cases h : t.link (·.lastChild) p with
  | none =>
    simp only [link] at h
    rw [h]
    simp [link_modify, link_const]
    grind [link]
  | some l =>
    simp only [link] at h
    rw [h]
    simp [link_modify]

/-- `linkLast` makes `c` the last child of `p`. -/
theorem link_lastChild_linkLast (hp : p < t.size) (i : Nat) :
    (t.linkLast (some p) (some c)).link (·.lastChild) i =
      if i = p then some c else t.link (·.lastChild) i := by
  unfold linkLast
  simp only
  split <;> simp [link_modify, link_const] <;> grind [link]

end LinkLast

/-! ### Cutting off a node

The equations for `detach` on a node with a parent whose neighbours exist. -/

/-- `detach` removes no node from the array. -/
@[simp] theorem size_detach (t : Tree) (r : NodeRef) : (t.detach r).size = t.size := by
  unfold detach
  split
  · rfl
  · simp only
    split
    · rfl
    · split <;> split <;> simp

/-- `detach` changes no data. -/
@[simp] theorem data?_detach (t : Tree) (r : NodeRef) (i : Nat) :
    (t.detach r).data? i = t.data? i := by
  unfold detach
  split
  · rfl
  · simp only
    split
    · rfl
    · split <;> split <;> simp [data?_modify_of_data_eq]

/-- A node without a parent is not cut off from anything. -/
theorem detach_of_link_parent_eq_none {t : Tree} {c : Nat} (h : t.link (·.parent) c = none) :
    t.detach (some c) = t := by
  unfold detach
  cases hn : t.get? (some c) with
  | none => rfl
  | some n =>
    simp only [link, hn, Option.bind_some] at h
    simp only [h, Option.isNone_none, if_true]

section Detach

variable {t : Tree} {p c : Nat} (hc : t.link (·.parent) c = some p)
  (ha : ∀ a, t.link (·.prevSibling) c = some a → a < t.size)
  (hb : ∀ b, t.link (·.nextSibling) c = some b → b < t.size)

include hc ha hb

/-- Cutting off a node with a parent, in terms of its links: the neighbour on each side takes over
    the link across the gap, and the parent does where there is no neighbour. -/
private theorem detach_eq :
    t.detach (some c) =
      let a := t.link (·.prevSibling) c
      let b := t.link (·.nextSibling) c
      let t₁ := if a.isSome then t.modify a fun n => { n with nextSibling := b }
        else t.modify (some p) fun n => { n with firstChild := b }
      let t₂ := if b.isSome then t₁.modify b fun n => { n with prevSibling := a }
        else t₁.modify (some p) fun n => { n with lastChild := a }
      t₂.modify (some c) fun n =>
        { n with parent := none, prevSibling := none, nextSibling := none } := by
  -- the operation asks whether the neighbours exist, which the references themselves tell
  have isSome_get? {t' : Tree} {r : NodeRef} (hs : t'.size = t.size)
      (hr : ∀ i, r = some i → i < t.size) : (t'.get? r).isSome = r.isSome := by
    cases r with
    | none => rfl
    | some i => exact get?_isSome_iff.mpr (hs ▸ hr i rfl)
  obtain ⟨n, hn⟩ := Option.isSome_iff_exists.mp (get?_isSome_iff.mpr (lt_size_of_link hc))
  simp only [link, hn, Option.bind_some] at hc ha hb ⊢
  unfold detach
  simp only [hn, hc, Option.isNone_some, Bool.false_eq_true, if_false]
  rw [isSome_get? rfl ha, isSome_get? (by split <;> simp) hb]

/-- `detach` takes the parent of `c` away, and no other. -/
theorem link_parent_detach (i : Nat) :
    (t.detach (some c)).link (·.parent) i = if i = c then none else t.link (·.parent) i := by
  rw [detach_eq hc ha hb]
  cases t.link (·.prevSibling) c <;> cases t.link (·.nextSibling) c <;>
    simp [link_modify, link_const] <;> grind

/-- `detach` closes the gap from the left: what stood in front of `c` stands in front of what stood
    behind it. -/
theorem link_nextSibling_detach (i : Nat) :
    (t.detach (some c)).link (·.nextSibling) i =
      if i = c then none
      else if t.link (·.prevSibling) c = some i then t.link (·.nextSibling) c
      else t.link (·.nextSibling) i := by
  rw [detach_eq hc ha hb]
  cases h : t.link (·.prevSibling) c <;> cases t.link (·.nextSibling) c <;>
    simp [link_modify, link_const] <;> grind

/-- `detach` closes the gap from the right. -/
theorem link_prevSibling_detach (i : Nat) :
    (t.detach (some c)).link (·.prevSibling) i =
      if i = c then none
      else if t.link (·.nextSibling) c = some i then t.link (·.prevSibling) c
      else t.link (·.prevSibling) i := by
  rw [detach_eq hc ha hb]
  cases h : t.link (·.prevSibling) c <;> cases h' : t.link (·.nextSibling) c <;>
    simp [link_modify, link_const] <;> grind

/-- `detach` hands the place of the first child on where `c` had it. -/
theorem link_firstChild_detach (hp : p < t.size) (i : Nat) :
    (t.detach (some c)).link (·.firstChild) i =
      if i = p ∧ t.link (·.prevSibling) c = none then t.link (·.nextSibling) c
      else t.link (·.firstChild) i := by
  rw [detach_eq hc ha hb]
  cases h : t.link (·.prevSibling) c <;> cases h' : t.link (·.nextSibling) c <;>
    simp [link_modify, link_const] <;> grind

/-- `detach` hands the place of the last child on where `c` had it. -/
theorem link_lastChild_detach (hp : p < t.size) (i : Nat) :
    (t.detach (some c)).link (·.lastChild) i =
      if i = p ∧ t.link (·.nextSibling) c = none then t.link (·.prevSibling) c
      else t.link (·.lastChild) i := by
  rw [detach_eq hc ha hb]
  cases h : t.link (·.prevSibling) c <;> cases h' : t.link (·.nextSibling) c <;>
    simp [link_modify, link_const] <;> grind

end Detach

end Tree

end ClassSheet.Dom
