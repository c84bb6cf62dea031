import ClassSheet.Proofs.Dom.Links
import Mathlib.Logic.Function.Basic

/-! # Trees arranged by lists of children

The links of a tree are redundant: a list of children for each node decides all of them.
`Tree.Arranged t kids` says that the links of `t` are those of the lists `kids`, and that no node
lies below itself. It is the invariant of every edit:

* `Arranged.create`, `Arranged.congr`: new nodes and changed data keep the lists;
* `Arranged.detach` takes a node out of the list of its parent;
* `Arranged.linkLast` puts a node at the end of the list of its new parent. -/

namespace ClassSheet.Dom.Tree

/-! ### Ancestors -/

/-- The node `c` is a child of `p`, going by the link to the parent. -/
def IsChild (t : Tree) (c p : Nat) : Prop := t.link (·.parent) c = some p

/-- The node `c` lies below `a`: a walk along the links to the parent leads from `c` to `a`. -/
def Below (t : Tree) : Nat → Nat → Prop := Relation.TransGen t.IsChild

/-- The node `c` is `a` or lies below it. -/
def Within (t : Tree) : Nat → Nat → Prop := Relation.ReflTransGen t.IsChild

/-- Whether the node with a number may have children. -/
def mayHaveChildren (t : Tree) (i : Nat) : Bool := (t.get? (some i)).any Node.canHaveChildren

/-- A node that may have children is one of the tree. -/
theorem lt_size_of_mayHaveChildren {t : Tree} {i : Nat} (h : t.mayHaveChildren i = true) :
    i < t.size := by
  rw [← get?_isSome_iff]
  cases hn : t.get? (some i) with
  | none => simp [mayHaveChildren, hn] at h
  | some n => rfl

/-- Whether a node may have children depends on its data only. -/
theorem mayHaveChildren_eq_of_data? {t t' : Tree} {i : Nat} (h : t'.data? i = t.data? i) :
    t'.mayHaveChildren i = t.mayHaveChildren i := by
  -- both sides are read off the data in the same way
  have key (s : Tree) : s.mayHaveChildren i = (s.data? i).any fun d =>
      Node.canHaveChildren (.detached d) := by
    unfold mayHaveChildren data?
    cases s.get? (some i) <;> rfl
  rw [key, key, h]

/-! ### The invariant -/

/-- The links of `t` are those of the lists of children `kids`, and no node lies below itself. -/
structure Arranged (t : Tree) (kids : Nat → List Nat) : Prop where
  firstChild : ∀ p, t.link (·.firstChild) p = (kids p).head?
  lastChild : ∀ p, t.link (·.lastChild) p = (kids p).getLast?
  isChild_iff : ∀ c p, t.IsChild c p ↔ c ∈ kids p
  /-- The neighbours of a child are those in the list. -/
  siblings : ∀ {p xs c ys}, kids p = xs ++ c :: ys →
    t.link (·.prevSibling) c = xs.getLast? ∧ t.link (·.nextSibling) c = ys.head?
  /-- A node without a parent has no neighbours. -/
  alone : ∀ {c}, t.link (·.parent) c = none →
    t.link (·.prevSibling) c = none ∧ t.link (·.nextSibling) c = none
  nodup : ∀ p, (kids p).Nodup
  /-- Only the document and elements have children. -/
  mayHaveChildren : ∀ {p}, kids p ≠ [] → t.mayHaveChildren p = true
  acyclic : ∀ i, ¬ t.Below i i
  /-- The document is there and has no parent. -/
  root_data : t.data? 0 = some .document
  root_parent : t.link (·.parent) 0 = none

namespace Arranged

variable {t : Tree} {kids : Nat → List Nat}

/-- A listed child is a node. -/
theorem lt_size_of_mem (h : t.Arranged kids) {c p : Nat} (hc : c ∈ kids p) : c < t.size :=
  lt_size_of_link ((h.isChild_iff c p).mpr hc)

/-- The last child is a node. -/
theorem lt_size_of_lastChild (h : t.Arranged kids) {p l : Nat}
    (hl : t.link (·.lastChild) p = some l) : l < t.size := by
  rw [h.lastChild] at hl
  exact h.lt_size_of_mem (List.mem_of_getLast? hl)

/-- A parent is a node. -/
theorem lt_size_of_isChild (h : t.Arranged kids) {c p : Nat} (hc : t.IsChild c p) : p < t.size := by
  have hk : kids p ≠ [] := List.ne_nil_of_mem ((h.isChild_iff c p).mp hc)
  obtain ⟨b, hb⟩ := Option.isSome_iff_exists.mp (List.isSome_head?.mpr hk)
  exact lt_size_of_link ((h.firstChild p).trans hb)

/-- Beyond the size there are no children. -/
theorem kids_eq_nil (h : t.Arranged kids) {p : Nat} (hp : t.size ≤ p) : kids p = [] := by
  have := h.firstChild p
  rwa [link_eq_none_of_le hp, eq_comm, List.head?_eq_none_iff] at this

/-- There is a node, namely the document. -/
theorem size_pos (h : t.Arranged kids) : 0 < t.size := lt_size_of_data? h.root_data

/-- No two lists share a child. -/
theorem eq_of_mem (h : t.Arranged kids) {c p q : Nat} (hp : c ∈ kids p) (hq : c ∈ kids q) :
    p = q := by
  have h₁ : t.link (·.parent) c = some p := (h.isChild_iff c p).mpr hp
  have h₂ : t.link (·.parent) c = some q := (h.isChild_iff c q).mpr hq
  exact Option.some.inj (h₁.symm.trans h₂)

/-- A node without a parent is in no list. -/
theorem not_mem_of_parent_eq_none (h : t.Arranged kids) {c : Nat}
    (hc : t.link (·.parent) c = none) (p : Nat) : c ∉ kids p := by
  intro hm
  have : t.link (·.parent) c = some p := (h.isChild_iff c p).mpr hm
  rw [hc] at this
  exact nomatch this

/-- The neighbour in front of a node is a child of the same parent. -/
theorem mem_of_prevSibling (h : t.Arranged kids) {a c p : Nat} (hc : c ∈ kids p)
    (ha : t.link (·.prevSibling) c = some a) : a ∈ kids p := by
  obtain ⟨xs, ys, hk⟩ := List.append_of_mem hc
  rw [(h.siblings hk).1] at ha
  rw [hk]
  exact List.mem_append_left _ (List.mem_of_getLast? ha)

/-- The neighbour behind a node is a child of the same parent. -/
theorem mem_of_nextSibling (h : t.Arranged kids) {b c p : Nat} (hc : c ∈ kids p)
    (hb : t.link (·.nextSibling) c = some b) : b ∈ kids p := by
  obtain ⟨xs, ys, hk⟩ := List.append_of_mem hc
  rw [(h.siblings hk).2] at hb
  rw [hk]
  exact List.mem_append_right _ (List.mem_cons_of_mem _ (List.mem_of_head? hb))

end Arranged

/-! ### Changes that keep the lists -/

/-- The document alone is arranged by empty lists. -/
theorem arranged_new : new.Arranged fun _ => [] := by
  -- the only node has no links at all
  have hl (f : Node → NodeRef) (hf : f (.detached .document) = none) (i : Nat) :
      new.link f i = none := by
    cases i with
    | zero => exact hf
    | succ i => rfl
  refine
    { firstChild := hl _ rfl, lastChild := hl _ rfl, nodup := fun _ => List.nodup_nil
      alone := fun _ => ⟨hl _ rfl _, hl _ rfl _⟩, root_data := rfl, root_parent := rfl
      isChild_iff := fun c p => ?_, siblings := fun hk => ?_, mayHaveChildren := fun hk => ?_
      acyclic := fun i hi => ?_ }
  · simp [IsChild, hl (·.parent) rfl]
  · simp at hk
  · exact absurd rfl hk
  · obtain ⟨j, hj, -⟩ := Relation.TransGen.head'_iff.mp hi
    rw [IsChild, hl (·.parent) rfl] at hj
    exact nomatch hj

/-- A tree with the same links, in which the same nodes may have children, is arranged by the same
    lists. -/
theorem Arranged.congr {t t' : Tree} {kids : Nat → List Nat} (h : t.Arranged kids)
    (hl : ∀ f ∈ Node.links, ∀ i, t'.link f i = t.link f i)
    (hm : ∀ i, t.mayHaveChildren i = true → t'.mayHaveChildren i = true)
    (hr : t'.data? 0 = t.data? 0) : t'.Arranged kids := by
  simp only [Node.links, List.forall_mem_cons] at hl
  obtain ⟨hparent, hfirst, hlast, hprev, hnext, -⟩ := hl
  have hchild : t'.IsChild = t.IsChild := by
    funext c p
    exact congrArg (· = some p) (hparent c)
  exact
    { firstChild := fun p => (hfirst p).trans (h.firstChild p)
      lastChild := fun p => (hlast p).trans (h.lastChild p)
      isChild_iff := fun c p => by rw [hchild]; exact h.isChild_iff c p
      siblings := fun {p xs c ys} hk => by rw [hprev, hnext]; exact h.siblings hk
      alone := fun {c} hc => by rw [hprev, hnext]; exact h.alone ((hparent c).symm.trans hc)
      nodup := h.nodup
      mayHaveChildren := fun hk => hm _ (h.mayHaveChildren hk)
      acyclic := fun i => by rw [Below, hchild]; exact h.acyclic i
      root_data := hr.trans h.root_data
      root_parent := (hparent 0).trans h.root_parent }

end ClassSheet.Dom.Tree
