import ClassSheet.Proofs.Dom.Ancestry
import ClassSheet.Proofs.Dom.Surgery

/-! # Edits keep a tree arranged

Each edit of `ClassSheet.Dom.Edit` takes an arranged tree to an arranged tree. The lists of children
afterwards are given outright: a move takes the node out of the list it was in and puts it at the
end of that of its new parent (`Arranged.appendChild`), a removal takes it out
(`Arranged.detach_erase`), and everything else keeps the lists. -/

namespace ClassSheet.Dom.Tree

/-! ### What an accepted edit has done -/

/-- `requireElement` gives the element of a node, if it is one. -/
theorem requireElement_eq_ok_iff {t : Tree} {r : NodeRef} {e : Element} :
    t.requireElement r = .ok e ↔ t.element? r = some e := by
  unfold requireElement element?
  cases t.get? r with
  | none => simp
  | some n => cases h : n.element? <;> simp [h]

/-- A node has a text if its data are one. -/
theorem text?_eq_some_iff {t : Tree} {i : Nat} {s : String} :
    t.text? (some i) = some s ↔ t.data? i = some (.text s) := by
  rw [text?_eq_data?]
  cases t.data? i with
  | none => simp
  | some d => cases d <;> simp

/-- A node is an element if its data are one. -/
theorem element?_eq_some_iff {t : Tree} {i : Nat} {e : Element} :
    t.element? (some i) = some e ↔ t.data? i = some (.element e) := by
  rw [element?_eq_data?]
  cases t.data? i with
  | none => simp
  | some d => cases d <;> simp

/-- The document may have children, and elements may. -/
theorem mayHaveChildren_iff {t : Tree} {i : Nat} :
    t.mayHaveChildren i = true ↔
      t.data? i = some .document ∨ ∃ e, t.data? i = some (.element e) := by
  unfold mayHaveChildren data? Node.canHaveChildren
  cases t.get? (some i) with
  | none => simp
  | some n => cases hd : n.data <;> simp [hd]

/-- Elements may have children. -/
theorem mayHaveChildren_of_element? {t : Tree} {i : Nat} {e : Element}
    (h : t.element? (some i) = some e) : t.mayHaveChildren i = true :=
  mayHaveChildren_iff.mpr (Or.inr ⟨e, element?_eq_some_iff.mp h⟩)

/-- An element is a node of the tree. -/
theorem lt_size_of_element? {t : Tree} {i : Nat} {e : Element}
    (h : t.element? (some i) = some e) : i < t.size :=
  lt_size_of_data? (element?_eq_some_iff.mp h)

/-- A move that is accepted cuts the node off and hangs it up again. -/
theorem appendChild_eq_ok {t t' : Tree} {parent child : NodeRef}
    (h : t.appendChild parent child = .ok t') :
    ∃ p c, parent = some p ∧ child = some c ∧ t.mayHaveChildren p = true ∧ c < t.size ∧ c ≠ 0 ∧
      t.isInclusiveAncestor c (some p) = false ∧
      t' = (t.detach (some c)).linkLast (some p) (some c) := by
  unfold appendChild at h
  cases hp : t.get? parent with
  | none => simp [hp] at h
  | some n =>
    simp only [hp] at h
    split at h
    · exact nomatch h
    · next hn =>
      split at h
      · exact nomatch h
      · next hc =>
        split at h
        · exact nomatch h
        · next hb =>
          -- both references name nodes, so they are numbers
          obtain ⟨m, hm⟩ := Option.ne_none_iff_exists'.mp (by simpa using hc)
          obtain ⟨p, rfl, -⟩ := exists_of_get?_eq_some hp
          obtain ⟨c, rfl, hsize⟩ := exists_of_get?_eq_some hm
          simp only [blocks, root, Option.map_some, Option.getD_some, Bool.or_eq_true, not_or,
            beq_iff_eq, Option.some.injEq, Bool.not_eq_true] at hb
          refine ⟨p, c, rfl, rfl, ?_, hsize, hb.1, hb.2, (Except.ok.inj h).symm⟩
          simpa [mayHaveChildren, hp] using hn

/-- A move is accepted if the parent may have children, the node is there and is not the document,
    and the parent does not lie within the node. -/
theorem appendChild_of_not_blocked {t : Tree} {p c : Nat} (hp : t.mayHaveChildren p = true)
    (hc : c < t.size) (hroot : c ≠ 0) (hancestor : t.isInclusiveAncestor c (some p) = false) :
    t.appendChild (some p) (some c) = .ok ((t.detach (some c)).linkLast (some p) (some c)) := by
  rw [mayHaveChildren, Option.any_eq_true] at hp
  obtain ⟨n, hn, hcan⟩ := hp
  have hchild : (t.get? (some c)).isNone = false := by
    rw [← Option.not_isSome, get?_isSome_iff.mpr hc]
    rfl
  have hblocks : t.blocks (some p) (some c) = false := by
    simp [blocks, root, hroot, hancestor]
  simp [appendChild, hn, hcan, hchild, hblocks]

/-- A removal that is accepted cuts a node off from its parent. -/
theorem removeChild_eq_ok {t t' : Tree} {parent child : NodeRef}
    (h : t.removeChild parent child = .ok t') :
    ∃ c, child = some c ∧ t.link (·.parent) c = parent ∧ t' = t.detach (some c) := by
  unfold removeChild at h
  cases child with
  | none => simp [get?] at h
  | some c =>
    refine ⟨c, rfl, ?_⟩
    cases hc : t.get? (some c) with
    | none => simp [hc] at h
    | some n =>
      simp only [hc] at h
      split at h
      · cases h
      · next hparent =>
        rw [bne_iff_ne, ne_eq, not_not] at hparent
        exact ⟨by rw [link, hc, Option.bind_some, hparent], (Except.ok.inj h).symm⟩

/-! ### One more node -/

/-- A new node hangs nowhere. -/
theorem link_parent_create (t : Tree) (d : NodeData) :
    (t.create d).2.link (·.parent) t.size = none := by
  rw [link_create fun _ => rfl, link_eq_none_of_le (Nat.le_refl _)]

/-- A new node takes no node the right to have children. -/
theorem mayHaveChildren_create {t : Tree} {p : Nat} (hp : t.mayHaveChildren p = true)
    (d : NodeData) : (t.create d).2.mayHaveChildren p = true := by
  rwa [mayHaveChildren_eq_of_data?]
  rw [data?_create, if_neg (Nat.ne_of_lt (lt_size_of_mayHaveChildren hp))]

/-- The tree with a new node behind the other children of `p`. -/
def grow (t : Tree) (p : Nat) (d : NodeData) : Tree :=
  (t.create d).2.linkLast (some p) (some t.size)

/-- `grow` gives its data to the new node. -/
theorem data?_grow (t : Tree) (p : Nat) (d : NodeData) (i : Nat) :
    (t.grow p d).data? i = if i = t.size then some d else t.data? i := by
  rw [grow, data?_linkLast, data?_create]

/-- `grow` makes `p` the parent of the new node and of no other. -/
theorem link_parent_grow (t : Tree) (p : Nat) (d : NodeData) (i : Nat) :
    (t.grow p d).link (·.parent) i = if i = t.size then some p else t.link (·.parent) i := by
  rw [grow, link_parent_linkLast (by simp), link_create fun _ => rfl]

/-- Text is added to a last child that is a text, or hung up behind the last child as a new node. -/
theorem appendText_eq_ok {t t' : Tree} {r : NodeRef} {s : String}
    (h : t.appendText r s = .ok t') :
    ∃ i e, r = some i ∧ t.element? (some i) = some e ∧
      ((∃ l old, t.link (·.lastChild) i = some l ∧ t.text? (some l) = some old ∧
          t' = t.modify (some l) fun n => { n with data := .text (old ++ s) }) ∨
        t.text? (t.link (·.lastChild) i) = none ∧
          t' = t.grow i (.text s)) := by
  unfold appendText at h
  cases hr : t.requireElement r with
  | error e => simp [hr] at h
  | ok e =>
    rw [requireElement_eq_ok_iff] at hr
    obtain ⟨i, rfl⟩ : ∃ i, r = some i := Option.isSome_iff_exists.mp (by
      cases r <;> simp_all [element?, get?])
    refine ⟨i, e, rfl, hr, ?_⟩
    simp only [requireElement_eq_ok_iff.mpr hr] at h
    rw [show (t.get? (some i)).bind (·.lastChild) = t.link (·.lastChild) i from rfl] at h
    cases ht : t.text? (t.link (·.lastChild) i) with
    | some old =>
      simp only [ht, Except.ok.injEq] at h
      cases hl : t.link (·.lastChild) i with
      | none => simp [hl, text?, get?] at ht
      | some l => exact Or.inl ⟨l, old, rfl, hl ▸ ht, by rw [← h, hl]⟩
    | none =>
      simp only [ht] at h
      obtain ⟨p, c, ⟨⟩, hc, -, -, -, -, rfl⟩ := appendChild_eq_ok h
      obtain rfl : t.size = c := Option.some.inj hc
      -- the new text hangs nowhere, so there is nothing to cut off
      refine Or.inr ⟨rfl, ?_⟩
      rw [createText, detach_of_link_parent_eq_none (t.link_parent_create _), grow]

namespace Arranged

variable {t t' : Tree} {kids : Nat → List Nat}

/-! ### New nodes and changed data -/

/-- A new node has no children and is no child. -/
theorem create (h : t.Arranged kids) (d : NodeData) : (t.create d).2.Arranged kids := by
  have hdata (i : Nat) (hi : i < t.size) : (t.create d).2.data? i = t.data? i := by
    rw [data?_create, if_neg (Nat.ne_of_lt hi)]
  refine h.congr (fun f hf => ?_) (fun i hi => ?_) (hdata 0 h.size_pos)
  · exact link_create (Node.link_detached hf) t d
  · rw [mayHaveChildren_eq_of_data? (hdata i (lt_size_of_mayHaveChildren hi))]
    exact hi

/-- Data that allow children wherever the old data did change no list. -/
theorem modify_data (h : t.Arranged kids) (r : NodeRef) (d : NodeData) (hr : r ≠ root)
    (hd : ∀ i, r = some i → t.mayHaveChildren i = true →
      Node.canHaveChildren (.detached d) = true) :
    (t.modify r fun n => { n with data := d }).Arranged kids := by
  refine h.congr (fun f hf => ?_) (fun i hi => ?_) ?_
  · exact link_modify_data (Node.link_with_data hf) t r d
  · unfold Tree.mayHaveChildren at hi ⊢
    rw [get?_modify]
    split
    · next he =>
      rw [Option.any_map]
      cases hn : t.get? (some i) with
      | none => simp [hn] at hi
      | some n => exact hd i he hi
    · exact hi
  · rw [data?_modify_data, if_neg fun he => hr he.1]

/-- Replacing an element by another one changes no list. -/
theorem putElement (h : t.Arranged kids) {r : NodeRef} {e : Element} (he : t.element? r = some e)
    (e' : Element) : (t.putElement r e').Arranged kids := by
  refine h.modify_data r (.element e') (fun hr => ?_) fun _ _ _ => rfl
  -- the document is no element
  subst hr
  rw [root, element?_eq_some_iff, h.root_data] at he
  exact nomatch he

/-! ### Moves -/

/-- Cutting off a node takes it out of whatever list it was in. -/
theorem detach_erase (h : t.Arranged kids) (c : Nat) :
    (t.detach (some c)).Arranged fun q => (kids q).erase c := by
  cases hc : t.link (·.parent) c with
  | none =>
    rw [detach_of_link_parent_eq_none hc]
    have : (fun q => (kids q).erase c) = kids :=
      funext fun q => List.erase_of_not_mem (h.not_mem_of_parent_eq_none hc q)
    rwa [this]
  | some p =>
    obtain ⟨xs, ys, hk⟩ := List.append_of_mem ((h.isChild_iff c p).mp hc)
    -- `c` is in no other list than that of `p`
    have : (fun q => (kids q).erase c) = Function.update kids p (xs ++ ys) := by
      funext q
      by_cases hq : q = p
      · subst hq
        rw [Function.update_self, hk, List.erase_append_right _ (h.not_mem_of_split hk).1,
          List.erase_cons_head]
      · rw [Function.update_of_ne hq, List.erase_of_not_mem]
        exact fun hm => hq (h.eq_of_mem hm ((h.isChild_iff c p).mp hc))
    rw [this]
    exact h.detach hk

/-- A cut is seen at the node that is cut off, which is a child of no node then, and at no other
    child. -/
theorem link_parent_detach (h : t.Arranged kids) (c i : Nat) :
    (t.detach (some c)).link (·.parent) i = if i = c then none else t.link (·.parent) i := by
  cases hc : t.link (·.parent) c with
  | none =>
    rw [detach_of_link_parent_eq_none hc]
    split
    · next hi => rw [hi, hc]
    · rfl
  | some p =>
    have hm : c ∈ kids p := (h.isChild_iff c p).mp hc
    exact Tree.link_parent_detach hc (fun a ha => h.lt_size_of_mem (h.mem_of_prevSibling hm ha))
      (fun b hb => h.lt_size_of_mem (h.mem_of_nextSibling hm hb)) i

/-- What lies within a node after a cut did so before. -/
theorem within_of_within_detach (h : t.Arranged kids) {c i j : Nat}
    (hij : (t.detach (some c)).Within i j) : t.Within i j := by
  refine Relation.ReflTransGen.mono (fun d q hd => ?_) i j hij
  exact (h.isChild_iff d q).mpr
    (List.mem_of_mem_erase (((h.detach_erase c).isChild_iff d q).mp hd))

/-- A move takes the node out of the list it was in and puts it at the end of that of its new
    parent. -/
theorem appendChild (h : t.Arranged kids) {p c : Nat}
    (ha : t.appendChild (some p) (some c) = .ok t') :
    t'.Arranged (Function.update (fun q => (kids q).erase c) p ((kids p).erase c ++ [c])) := by
  obtain ⟨p, c, ⟨⟩, ⟨⟩, hp, hc, hc₀, hblock, rfl⟩ := appendChild_eq_ok ha
  -- the walk upwards that the edit makes decides whether `p` lies within `c`
  have hpc : ¬ t.Within p c := by
    rw [← h.isInclusiveAncestor_iff (lt_size_of_mayHaveChildren hp), hblock]
    exact Bool.false_ne_true
  have hcut : (t.detach (some c)).link (·.parent) c = none := by
    rw [h.link_parent_detach, if_pos rfl]
  refine (h.detach_erase c).linkLast (by simpa using hc) hcut ?_ hc₀
    fun hw => hpc (h.within_of_within_detach hw)
  rwa [mayHaveChildren_eq_of_data? (data?_detach ..)]

/-! ### Added text -/

/-- A text node has no children. -/
theorem mayHaveChildren_of_text? {t : Tree} {i : Nat} {s : String} (h : t.text? (some i) = some s) :
    t.mayHaveChildren i = false := by
  rw [text?_eq_some_iff] at h
  rw [← Bool.not_eq_true, mayHaveChildren_iff, h]
  simp

/-- More text in a text node changes no list. -/
theorem modify_text (h : t.Arranged kids) {l : Nat} {old : String}
    (hl : t.text? (some l) = some old) (s : String) :
    (t.modify (some l) fun n => { n with data := .text s }).Arranged kids := by
  refine h.modify_data (some l) (.text s) (fun hr => ?_) fun i hi hm => ?_
  · obtain rfl : l = 0 := Option.some.inj hr
    rw [text?_eq_some_iff, h.root_data] at hl
    exact nomatch hl
  · obtain rfl : l = i := Option.some.inj hi
    rw [mayHaveChildren_of_text? hl] at hm
    exact nomatch hm

/-- Nothing lies within a new node but itself. -/
theorem not_within_create (h : t.Arranged kids) (d : NodeData) {i : Nat} (hi : i ≠ t.size) :
    ¬ (t.create d).2.Within i t.size := by
  intro hw
  rcases Relation.ReflTransGen.cases_tail hw with he | ⟨c, -, hc⟩
  · exact hi he.symm
  · have : c ∈ kids t.size := ((h.create d).isChild_iff c t.size).mp hc
    rw [h.kids_eq_nil (Nat.le_refl _)] at this
    exact nomatch this

section Grow

variable (h : t.Arranged kids) {p : Nat} (hp : t.mayHaveChildren p = true) (d : NodeData)
include h hp

/-- A new node may be hung up below any node that may have children, and there is nothing to cut
    off. -/
theorem appendChild_create :
    (t.create d).2.appendChild (some p) (some t.size) = .ok (t.grow p d) := by
  have hp' := mayHaveChildren_create hp d
  have hancestor : (t.create d).2.isInclusiveAncestor t.size (some p) = false := by
    rw [← Bool.not_eq_true,
      (h.create d).isInclusiveAncestor_iff (lt_size_of_mayHaveChildren hp')]
    exact h.not_within_create d (Nat.ne_of_lt (lt_size_of_mayHaveChildren hp))
  rw [appendChild_of_not_blocked hp' (by simp) (Nat.ne_of_gt h.size_pos) hancestor,
    detach_of_link_parent_eq_none (t.link_parent_create d), Tree.grow]

/-- A new node comes behind the other children. -/
theorem grow : (t.grow p d).Arranged (Function.update kids p (kids p ++ [t.size])) := by
  have hwithin := h.not_within_create d (Nat.ne_of_lt (lt_size_of_mayHaveChildren hp))
  exact (h.create d).linkLast (by simp) (t.link_parent_create d) (mayHaveChildren_create hp d)
    (Nat.ne_of_gt h.size_pos) hwithin

end Grow

/-- Added text keeps the tree arranged. -/
theorem appendText (h : t.Arranged kids) {r : NodeRef} {s : String}
    (ha : t.appendText r s = .ok t') : ∃ kids', t'.Arranged kids' := by
  obtain ⟨i, e, rfl, he, ⟨l, old, -, ht, rfl⟩ | ⟨-, rfl⟩⟩ := appendText_eq_ok ha
  · exact ⟨kids, h.modify_text ht _⟩
  · exact ⟨_, h.grow (mayHaveChildren_of_element? he) _⟩

end Arranged

/-- The tree `t'` is `t` with the text `s` at the end of the node `i`: in the last child, if that is
    a text, and otherwise in a new node behind it. No other node and no other link differs. -/
inductive TextAdded (t : Tree) (i : Nat) (s : String) (t' : Tree) : Prop
  | extended {l : Nat} {old : String} (last : t.link (·.lastChild) i = some l)
      (text : t.data? l = some (.text old))
      (get? : ∀ j, t'.get? (some j) = (t.get? (some j)).map fun n =>
        if j = l then { n with data := .text (old ++ s) } else n)
  | added (last : ∀ l old, t.link (·.lastChild) i = some l → t.data? l ≠ some (.text old))
      (size : t'.size = t.size + 1)
      (data : ∀ j, t'.data? j = if j = t.size then some (.text s) else t.data? j)
      (parent : ∀ j, t'.link (·.parent) j = if j = t.size then some i else t.link (·.parent) j)
      (prevSibling : ∀ j, t'.link (·.prevSibling) j =
        if j = t.size then t.link (·.lastChild) i else t.link (·.prevSibling) j)
      (nextSibling : ∀ j, t'.link (·.nextSibling) j =
        if t.link (·.lastChild) i = some j then some t.size else t.link (·.nextSibling) j)
      (firstChild : ∀ j, t'.link (·.firstChild) j =
        if j = i ∧ t.link (·.lastChild) i = none then some t.size else t.link (·.firstChild) j)
      (lastChild : ∀ j, t'.link (·.lastChild) j =
        if j = i then some t.size else t.link (·.lastChild) j)

/-- Adding text to an element is seen at its end only. -/
theorem Arranged.textAdded {t t' : Tree} {kids : Nat → List Nat} (h : t.Arranged kids) {r : NodeRef}
    {s : String} (ha : t.appendText r s = .ok t') :
    ∃ i e, r = some i ∧ t.element? (some i) = some e ∧ t.TextAdded i s t' := by
  obtain ⟨i, e, rfl, he, ⟨l, old, hl, ht, rfl⟩ | ⟨ht, rfl⟩⟩ := appendText_eq_ok ha
  · -- the last child is a text, and is the only node that changes
    refine ⟨i, e, rfl, he, .extended hl (text?_eq_some_iff.mp ht) fun j => ?_⟩
    rw [get?_modify]
    by_cases hj : j = l
    · simp [hj]
    · simp [hj, Ne.symm hj]
  · -- otherwise a new text is created and hung up behind the last child
    have hi : i < (t.create (.text s)).2.size := by
      rw [size_create]
      exact Nat.lt_succ_of_lt (lt_size_of_element? he)
    have hn : t.size < (t.create (.text s)).2.size := by simp
    have hlast : (t.create (.text s)).2.link (·.lastChild) i = t.link (·.lastChild) i :=
      link_create (fun _ => rfl) ..
    refine ⟨i, e, rfl, he, .added (fun l old hl hd => ?_) (by simp [Tree.grow]) (fun j => ?_)
      (fun j => ?_) (fun j => ?_) (fun j => ?_) (fun j => ?_) (fun j => ?_)⟩
    · rw [hl, text?_eq_some_iff.mpr hd] at ht
      exact nomatch ht
    · rw [data?_grow]
    · rw [link_parent_grow]
    · rw [Tree.grow, link_prevSibling_linkLast hn, hlast, link_create fun _ => rfl]
    · rw [Tree.grow, link_nextSibling_linkLast (fun l hl => ?_), hlast, link_create fun _ => rfl]
      · -- the new node has no sibling behind it
        by_cases hj : j = t.size
        · subst hj
          rw [if_pos rfl, link_eq_none_of_le (Nat.le_refl _)]
        · rw [if_neg hj]
      · rw [hlast] at hl
        exact Nat.lt_trans (h.lt_size_of_lastChild hl) hn
    · rw [Tree.grow, link_firstChild_linkLast hi, hlast, link_create fun _ => rfl]
    · rw [Tree.grow, link_lastChild_linkLast hi, link_create fun _ => rfl]

/-- Added text is no element and replaces none. -/
theorem TextAdded.element?_eq {t t' : Tree} {i : Nat} {s : String} (h : t.TextAdded i s t')
    (j : Nat) : t'.element? (some j) = t.element? (some j) := by
  rw [element?_eq_data?, element?_eq_data?]
  cases h with
  | @extended l old _ text get? =>
    by_cases hj : j = l
    · subst hj
      -- the node at `j` was a text and still is
      have : t'.data? j = some (.text (old ++ s)) := by
        rw [data?, Option.map_eq_some_iff] at text ⊢
        obtain ⟨n, hn, -⟩ := text
        exact ⟨{ n with data := .text (old ++ s) }, by simp [get?, hn], rfl⟩
      rw [this, text]
      rfl
    · simp [data?, get?, hj]
  | added _ _ data =>
    rw [data]
    split
    · next hj =>
      subst hj
      rw [data?_eq_none_iff.mpr (Nat.le_refl _)]
      rfl
    · rfl

/-- Added text leaves the old nodes where they are. -/
theorem TextAdded.link_parent {t t' : Tree} {i : Nat} {s : String} (h : t.TextAdded i s t')
    {j : Nat} (hj : j < t.size) : t'.link (·.parent) j = t.link (·.parent) j := by
  cases h with
  | extended _ _ get? =>
    rw [link, get?, Option.bind_map, link]
    congr 1
    funext n
    dsimp only [Function.comp]
    split <;> rfl
  | added _ _ _ parent => rw [parent, if_neg (Nat.ne_of_lt hj)]

end ClassSheet.Dom.Tree
