import ClassSheet.Proofs.Dom.Edits
import ClassSheet.Proofs.Dom.Forest

/-! # Trees that have grown

`Tree.Added` says that a tree has got the nodes of a forest behind the children of one node, under
the next free numbers in document order, and that nothing else has changed. One new node is the
simplest case (`Arranged.added_leaf`). A new node, then nodes below it and then nodes behind it make
up a whole forest (`Arranged.added_cons`), so whatever adds nodes in document order is followed node
by node. -/

namespace ClassSheet.Dom.Tree

/-! ### Added nodes -/

/-- The tree `t'` is `t` with the nodes of a forest behind the other children of `p`. -/
structure Added (t : Tree) (p : Nat) (f : Forest) (t' : Tree) : Prop where
  size : t'.size = t.size + f.size
  data? : ∀ i < t.size, t'.data? i = t.data? i
  parent : ∀ i < t.size, t'.parent (some i) = t.parent (some i)
  children_other : ∀ i < t.size, i ≠ p → t'.children (some i) = t.children (some i)
  /-- The new nodes have the next free numbers, in document order. -/
  children : ∃ roots, t'.children (some p) = t.children (some p) ++ roots ∧ t'.Shows roots f ∧
    t'.Lists roots (List.range' t.size f.size)

/-- What a forest shows depends on its nodes only. -/
theorem Shows.congr {t t' : Tree} {roots nodes : List Nat} {f : Forest} (h : t.Shows roots f)
    (hl : t.Lists roots nodes)
    (hchildren : ∀ i ∈ nodes, t'.children (some i) = t.children (some i))
    (hdata : ∀ i ∈ nodes, t'.data? i = t.data? i) : t'.Shows roots f := by
  induction h generalizing nodes with
  | nil => exact .nil
  | cons hi _ _ ihbelow ihrest =>
    cases hl with
    | cons hbelow hrest =>
      rw [List.forall_mem_cons, List.forall_mem_append] at hchildren hdata
      obtain ⟨hchildren_i, hchildren_below, hchildren_rest⟩ := hchildren
      obtain ⟨hdata_i, hdata_below, hdata_rest⟩ := hdata
      have hshows := ihbelow hbelow hchildren_below hdata_below
      rw [← hchildren_i] at hshows
      exact .cons (hdata_i.trans hi) hshows (ihrest hrest hchildren_rest hdata_rest)

/-- Nothing is added to a tree that stays. -/
theorem Added.nil (t : Tree) (p : Nat) : t.Added p .nil t :=
  ⟨rfl, fun _ _ => rfl, fun _ _ => rfl, fun _ _ _ => rfl, [], (List.append_nil _).symm, .nil, .nil⟩

/-- Added nodes do not change what may have children. -/
theorem Added.mayHaveChildren {t t' : Tree} {p i : Nat} {f : Forest} (h : t.Added p f t')
    (hi : t.mayHaveChildren i = true) : t'.mayHaveChildren i = true := by
  rwa [mayHaveChildren_eq_of_data? (h.data? i (lt_size_of_mayHaveChildren hi))]

/-- Subtrees that the new nodes do not go into stay as they are. -/
theorem Added.kept {t t' : Tree} {p : Nat} {f : Forest} (h : t.Added p f t')
    {roots nodes : List Nat} {g : Forest} (hs : t.Shows roots g) (hl : t.Lists roots nodes)
    (hnodes : ∀ i ∈ nodes, i < t.size ∧ i ≠ p) : t'.Shows roots g ∧ t'.Lists roots nodes := by
  have hchildren (i : Nat) (hi : i ∈ nodes) : t'.children (some i) = t.children (some i) :=
    h.children_other i (hnodes i hi).1 (hnodes i hi).2
  exact ⟨hs.congr hl hchildren fun i hi => h.data? i (hnodes i hi).1, hl.congr hchildren⟩

/-! ### Adding nodes -/

/-- An attribute that is set on a new element might have been there from the beginning. -/
theorem setAttribute_create (t : Tree) (e : Element) (name value : String) :
    (t.create (.element e)).2.setAttribute (some t.size) name value =
      .ok (t.create (.element (e.setAttribute name value))).2 := by
  have he : (t.create (.element e)).2.requireElement (some t.size) = .ok e := by
    rw [requireElement_eq_ok_iff, element?_eq_some_iff, data?_create, if_pos rfl]
  rw [setAttribute, he]
  -- the change is seen at the last node only, which is the new one
  refine congrArg Except.ok (congrArg Tree.mk (Array.ext_getElem? fun i => ?_))
  simp only [create, size, Array.getElem?_modify, Array.getElem?_push]
  by_cases hi : i = t.nodes.size
  · simp [hi, Node.detached]
  · simp [hi, Ne.symm hi]

/-- `grow` adds one node. -/
theorem size_grow (t : Tree) (p : Nat) (d : NodeData) : (t.grow p d).size = t.size + 1 := by
  rw [grow, size_linkLast, size_create]

namespace Arranged

variable {t : Tree} {kids : Nat → List Nat} (h : t.Arranged kids) {p : Nat}
  (hp : t.mayHaveChildren p = true)
include h hp

/-- The new node is the last child of the node that it is added below. -/
theorem children_grow (d : NodeData) (i : Nat) :
    (t.grow p d).children (some i) =
      if i = p then t.children (some i) ++ [t.size] else t.children (some i) := by
  rw [(h.grow hp d).children_eq, h.children_eq]
  split
  · next hi => rw [hi, Function.update_self]
  · next hi => rw [Function.update_of_ne hi]

/-- Nothing stands below a new node. -/
theorem children_grow_self (d : NodeData) : (t.grow p d).children (some t.size) = [] := by
  rw [h.children_grow hp, if_neg (Nat.ne_of_gt (lt_size_of_mayHaveChildren hp)), h.children_eq,
    h.kids_eq_nil (Nat.le_refl _)]

/-- A new node, with nodes added below it and then nodes added behind it. -/
theorem added_cons {t₁ t₂ : Tree} {data : NodeData} {below rest : Forest}
    (hbelow : (t.grow p data).Added t.size below t₁) (hrest : t₁.Added p rest t₂) :
    t.Added p (.cons data below rest) t₂ := by
  have hlt := lt_size_of_mayHaveChildren hp
  have hgrow := t.size_grow p data
  have hsize := hbelow.size
  rw [hgrow] at hsize
  obtain ⟨inner, hinner, hshows_inner, hlists_inner⟩ := hbelow.children
  obtain ⟨outer, houter, hshows_outer, hlists_outer⟩ := hrest.children
  rw [h.children_grow_self hp, List.nil_append] at hinner
  rw [hgrow] at hlists_inner
  -- the nodes behind the new one do not go below it
  obtain ⟨hshows, hlists⟩ := hrest.kept hshows_inner hlists_inner fun i hi => by
    rw [List.mem_range'_1] at hi
    omega
  have hroot : t₂.children (some t.size) = inner := by
    rw [hrest.children_other t.size (by omega) (by omega), hinner]
  refine
    { size := ?_, data? := fun i hi => ?_, parent := fun i hi => ?_
      children_other := fun i hi hne => ?_, children := ⟨t.size :: outer, ?_, ?_, ?_⟩ }
  · rw [hrest.size, hsize, Forest.size]
    omega
  -- an old node was there before each of the three steps
  · rw [hrest.data? i (by omega), hbelow.data? i (by omega), data?_grow, if_neg (by omega)]
  · have hlink : (t.grow p data).parent (some i) = t.parent (some i) := by
      show (t.grow p data).link (·.parent) i = t.link (·.parent) i
      rw [link_parent_grow, if_neg (by omega)]
    rw [hrest.parent i (by omega), hbelow.parent i (by omega), hlink]
  · rw [hrest.children_other i (by omega) hne, hbelow.children_other i (by omega) (by omega),
      h.children_grow hp, if_neg hne]
  · rw [houter, hbelow.children_other p (by omega) (by omega), h.children_grow hp, if_pos rfl,
      List.append_assoc, List.singleton_append]
  · have hdata : t₂.data? t.size = some data := by
      rw [hrest.data? _ (by omega), hbelow.data? _ (by omega), data?_grow, if_pos rfl]
    exact .cons hdata (hroot ▸ hshows) hshows_outer
  · have hnodes : List.range' t.size (Forest.cons data below rest).size =
        t.size :: (List.range' (t.size + 1) below.size ++ List.range' t₁.size rest.size) := by
      rw [hsize, Forest.size, Nat.add_assoc, Nat.add_comm 1, List.range'_succ,
        ← List.range'_append_1]
    rw [hnodes]
    exact .cons (hroot ▸ hlists) hlists_outer

/-- A new node without children is a forest that is added. -/
theorem added_leaf (d : NodeData) : t.Added p (.cons d .nil .nil) (t.grow p d) :=
  h.added_cons hp (.nil _ _) (.nil _ _)

end Arranged

end ClassSheet.Dom.Tree
