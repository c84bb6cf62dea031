import ClassSheet.Dom.InPlace
import ClassSheet.Proofs.Dom.Preorder
import ClassSheet.Proofs.Dom.Reachable

/-! # Moves

Hanging up a node moves one subtree as a whole, and cutting one off leaves it whole
(`Tree.Moved`, `Tree.CutOff`). Which moves are accepted is told by what lies below the node that is
to be moved (`Tree.MayMove`). Done in place, link by link, a move comes to the same tree, and one
that is refused has not changed a link (`Arranged.run_appendChild`).

All of it together is `Reachable.moves_one_subtree`. Which removals are accepted, and what the
others answer, is told by the lists of children (`Reachable.removeChild_answers`). -/

namespace ClassSheet.Dom

namespace Tree

/-! ### What is accepted -/

/-- The node `c` may be moved below `p`: into the document or an element, unless `c` is the document
    or `p` is `c` or lies below it. -/
structure MayMove (t : Tree) (p c : Nat) : Prop where
  parent : t.data? p = some .document ∨ ∃ e, t.data? p = some (.element e)
  child : c < t.size
  ne_root : c ≠ 0
  ne_parent : c ≠ p
  not_below : p ∉ t.descendants (some c)

/-- A move is accepted exactly if the node may be moved. -/
theorem Arranged.exists_appendChild_iff {t : Tree} {kids : Nat → List Nat} (h : t.Arranged kids)
    {parent child : NodeRef} :
    (∃ t', t.appendChild parent child = .ok t') ↔
      ∃ p c, parent = some p ∧ child = some c ∧ t.MayMove p c := by
  -- the walk upwards from `p` looks for `c`, and `p` lies within `c` if it meets `c`
  have hwalk {p c : Nat} (hp : t.mayHaveChildren p = true) :
      t.isInclusiveAncestor c (some p) = false ↔ c ≠ p ∧ p ∉ t.descendants (some c) := by
    rw [← Bool.not_eq_true, h.isInclusiveAncestor_iff (lt_size_of_mayHaveChildren hp),
      h.within_iff_mem_descendants, not_or, eq_comm]
  constructor
  · rintro ⟨t', ha⟩
    obtain ⟨p, c, rfl, rfl, hp, hc, hc₀, hpc, -⟩ := appendChild_eq_ok ha
    obtain ⟨hne, hbelow⟩ := (hwalk hp).mp hpc
    exact ⟨p, c, rfl, rfl, mayHaveChildren_iff.mp hp, hc, hc₀, hne, hbelow⟩
  · rintro ⟨p, c, rfl, rfl, hparent, hc, hc₀, hne, hbelow⟩
    have hp := mayHaveChildren_iff.mpr hparent
    exact ⟨_, appendChild_of_not_blocked hp hc hc₀ ((hwalk hp).mpr ⟨hne, hbelow⟩)⟩

/-! ### What a move does -/

/-- The tree `t'` is `t` with the subtree of `c` taken from where it hung and hung up behind the
    other children of `p`. -/
structure Moved (t : Tree) (p c : Nat) (t' : Tree) : Prop where
  children_new : t'.children (some p) = (t.children (some p)).erase c ++ [c]
  children_old : ∀ q, q ≠ p → t.parent (some c) = some q →
    t'.children (some q) = (t.children (some q)).erase c
  children_other : ∀ q, q ≠ p → t.parent (some c) ≠ some q →
    t'.children (some q) = t.children (some q)
  /-- The subtree moves as it is. -/
  subtree : ∀ i, i = c ∨ i ∈ t.descendants (some c) → t'.children (some i) = t.children (some i)
  descendants : t'.descendants (some c) = t.descendants (some c)
  parent : ∀ i, t'.parent (some i) = if i = c then some p else t.parent (some i)
  data? : ∀ i, t'.data? i = t.data? i

/-- The tree `t'` is `t` with the subtree of `c` taken from its parent `p` and hanging nowhere. -/
structure CutOff (t : Tree) (p c : Nat) (t' : Tree) : Prop where
  mem : c ∈ t.children (some p)
  children_old : t'.children (some p) = (t.children (some p)).erase c
  children_other : ∀ q, q ≠ p → t'.children (some q) = t.children (some q)
  parent : ∀ i, t'.parent (some i) = if i = c then none else t.parent (some i)
  data? : ∀ i, t'.data? i = t.data? i

namespace Arranged

variable {t t' : Tree} {kids : Nat → List Nat} {p c : Nat} (h : t.Arranged kids)
include h

/-- A list without `c` loses nothing if `c` is cut off. -/
theorem erase_of_parent_ne {q : Nat} (hq : t.parent (some c) ≠ some q) :
    (kids q).erase c = kids q :=
  List.erase_of_not_mem fun hm => hq ((h.isChild_iff c q).mpr hm)

/-- Nodes below which nothing has changed have the same nodes below them. -/
theorem descendants_congr {kids' : Nat → List Nat} (h' : t'.Arranged kids') {i : Nat}
    (hchildren : ∀ j, j = i ∨ j ∈ t.descendants (some i) →
      t'.children (some j) = t.children (some j)) :
    t'.descendants (some i) = t.descendants (some i) := by
  have hlists := (h.lists_descendants i).congr fun j hj => hchildren j (Or.inr hj)
  rw [← hchildren i (Or.inl rfl)] at hlists
  exact (h'.lists_descendants i).unique hlists

/-- A node that is hung up brings all below it along. -/
theorem moved (ha : t.appendChild (some p) (some c) = .ok t') : t.Moved p c t' := by
  have h' := h.appendChild ha
  obtain ⟨p', c', hp', hc', hmay, hc, -, hpc, rfl⟩ := appendChild_eq_ok ha
  obtain rfl : p = p' := Option.some.inj hp'
  obtain rfl : c = c' := Option.some.inj hc'
  rw [← Bool.not_eq_true, h.isInclusiveAncestor_iff (lt_size_of_mayHaveChildren hmay)] at hpc
  have hchildren (q : Nat) (hq : q ≠ p) :
      ((t.detach (some c)).linkLast (some p) (some c)).children (some q) =
        (t.children (some q)).erase c := by
    rw [h'.children_eq, Function.update_of_ne hq, h.children_eq]
  have hother (q : Nat) (hq : q ≠ p) (hparent : t.parent (some c) ≠ some q) :
      ((t.detach (some c)).linkLast (some p) (some c)).children (some q) =
        t.children (some q) := by
    rw [hchildren q hq, h.children_eq, h.erase_of_parent_ne hparent]
  -- neither the new parent nor the old one is in the subtree that moves
  have hsubtree (i : Nat) (hi : i = c ∨ i ∈ t.descendants (some c)) :
      ((t.detach (some c)).linkLast (some p) (some c)).children (some i) =
        t.children (some i) := by
    rw [← h.within_iff_mem_descendants] at hi
    have hne : i ≠ p := fun he => hpc (he ▸ hi)
    exact hother i hne fun hparent => h.acyclic c (Relation.TransGen.head' hparent hi)
  refine
    { children_new := ?_, children_old := fun q hq _ => hchildren q hq
      children_other := hother, subtree := hsubtree
      descendants := h.descendants_congr h' hsubtree, parent := fun i => ?_, data? := fun i => ?_ }
  · rw [h'.children_eq, Function.update_self, h.children_eq]
  · change link _ (·.parent) i = if i = c then some p else t.link (·.parent) i
    rw [link_parent_linkLast (by simpa using hc), h.link_parent_detach]
    split <;> rfl
  · rw [data?_linkLast, data?_detach]

/-- A node that is cut off keeps all below it. -/
theorem cutOff (hr : t.removeChild (some p) (some c) = .ok t') : t.CutOff p c t' := by
  obtain ⟨c', hc', hparent, rfl⟩ := removeChild_eq_ok hr
  obtain rfl : c = c' := Option.some.inj hc'
  have h' := h.detach_erase c
  refine
    { mem := ?_, children_old := ?_, children_other := fun q hq => ?_
      parent := h.link_parent_detach c, data? := data?_detach t (some c) }
  · rw [h.children_eq]
    exact (h.isChild_iff c p).mp hparent
  · rw [h'.children_eq, h.children_eq]
  · rw [h'.children_eq, h.children_eq]
    refine h.erase_of_parent_ne fun hc => hq ?_
    exact Option.some.inj (hc.symm.trans hparent)

end Arranged

/-! ### Moves in place -/

/-- What is seen of an edit of a tree that others see as well: the node that was moved and the new
    tree, or why the edit was refused and the old tree. -/
def seen (t : Tree) (child : NodeRef) : Except Error Tree → Except Error NodeRef × Tree
  | .ok t' => (.ok child, t')
  | .error e => (.error e, t)

/-- Linking a node in place does not stop half-way if the nodes are there. -/
theorem run_linkLast {t : Tree} {p c : Nat} (hp : p < t.size) (hc : c < t.size)
    (hlast : ∀ l, t.link (·.lastChild) p = some l → l < t.size) :
    (InPlace.linkLast (some p) (some c)).run t = (.ok (), t.linkLast (some p) (some c)) := by
  obtain ⟨n, hn⟩ := Option.isSome_iff_exists.mp (get?_isSome_iff.mpr hp)
  have hlink : t.link (·.lastChild) p = n.lastChild := by rw [link, hn, Option.bind_some]
  rw [hlink] at hlast
  unfold InPlace.linkLast linkLast
  rw [Work.run_bind_ok (InPlace.run_node hn), hn, Option.bind_some,
    Work.run_bind_ok (InPlace.run_change (get?_isSome_iff.mpr hc) _)]
  -- no change takes a node away, so every further one finds its node
  cases hl : n.lastChild with
  | none =>
    simp only [Option.isSome_none, Bool.false_eq_true, if_false]
    rw [Work.run_bind_ok (InPlace.run_change (get?_isSome_iff.mpr (by simpa using hp)) _),
      InPlace.run_change (get?_isSome_iff.mpr (by simpa using hp))]
  | some l =>
    have hlt := hlast l hl
    simp only [Option.isSome_some, if_true]
    rw [Work.run_bind_ok (InPlace.run_change (get?_isSome_iff.mpr (by simpa using hlt)) _),
      InPlace.run_change (get?_isSome_iff.mpr (by simpa using hp))]

/-- A refused move has not changed a link: what may be missing is looked up before. -/
theorem Arranged.run_appendChild {t : Tree} {kids : Nat → List Nat} (h : t.Arranged kids)
    (parent child : NodeRef) :
    (InPlace.appendChild parent child).run t = t.seen child (t.appendChild parent child) := by
  -- the four checks, in their order
  unfold InPlace.appendChild Tree.appendChild
  cases hparent : t.get? parent with
  | none => rw [Work.run_bind_error (InPlace.run_node_of_none hparent)]; rfl
  | some n =>
    rw [Work.run_bind_ok (InPlace.run_node hparent)]
    dsimp only
    cases hcan : n.canHaveChildren with
    | false => rw [Work.run_bind_error (InPlace.run_require_false _)]; rfl
    | true =>
      rw [Work.run_bind_ok (InPlace.run_require_true _)]
      cases hchild : t.get? child with
      | none => rw [Work.run_bind_error (InPlace.run_node_of_none hchild)]; rfl
      | some m =>
        rw [Work.run_bind_ok (InPlace.run_node hchild), Work.run_bind_ok (Work.run_get t)]
        cases hblocks : t.blocks parent child with
        | true =>
          rw [Bool.not_true, Work.run_bind_error (InPlace.run_require_false _)]
          rfl
        | false =>
          rw [Bool.not_false, Work.run_bind_ok (InPlace.run_require_true _),
            Work.run_bind_ok (Work.run_modify _ t)]
          obtain ⟨p, rfl, hp⟩ := exists_of_get?_eq_some hparent
          obtain ⟨c, rfl, hc⟩ := exists_of_get?_eq_some hchild
          have hlink := run_linkLast (t := t.detach (some c)) (by simpa using hp)
            (by simpa using hc) fun _ => (h.detach_erase c).lt_size_of_lastChild
          rw [Work.run_bind_ok hlink]
          rfl

/-- Removing in place comes to what `Tree.removeChild` says, and a removal that is refused leaves
    the tree as it was. -/
theorem run_removeChild (t : Tree) (parent child : NodeRef) :
    (InPlace.removeChild parent child).run t = t.seen child (t.removeChild parent child) := by
  unfold InPlace.removeChild Tree.removeChild
  cases hchild : t.get? child with
  | none =>
    rw [Work.run_bind_error (InPlace.run_node_of_none hchild)]
    rfl
  | some n =>
    rw [Work.run_bind_ok (InPlace.run_node hchild)]
    dsimp only
    rw [bne]
    cases n.parent == parent with
    | false =>
      rw [Work.run_bind_error (InPlace.run_require_false _)]
      rfl
    | true =>
      rw [Work.run_bind_ok (InPlace.run_require_true _),
        Work.run_bind_ok (Work.run_modify _ _)]
      rfl

/-! ### Moves of a reachable tree -/

/-- A move is accepted exactly if the node may be moved, and it moves the subtree of the node and
    nothing else. A removal takes out the subtree of a child and nothing else. Done in place, each
    of them leaves the tree that it gives, and the tree as it was if it is refused. -/
theorem Reachable.moves_one_subtree {t : Tree} (h : t.Reachable) (parent child : NodeRef) :
    ((∃ t', t.appendChild parent child = .ok t') ↔
        ∃ p c, parent = some p ∧ child = some c ∧ t.MayMove p c) ∧
      (∀ t', t.appendChild parent child = .ok t' →
        ∃ p c, parent = some p ∧ child = some c ∧ t.Moved p c t') ∧
      (∀ p t', parent = some p → t.removeChild parent child = .ok t' →
        ∃ c, child = some c ∧ t.CutOff p c t') ∧
      (InPlace.appendChild parent child).run t = t.seen child (t.appendChild parent child) ∧
      (InPlace.removeChild parent child).run t = t.seen child (t.removeChild parent child) := by
  refine ⟨h.arranged.exists_appendChild_iff, fun t' ha => ?_, fun p t' hp hr => ?_,
    h.arranged.run_appendChild parent child, run_removeChild t parent child⟩
  · obtain ⟨p, c, rfl, rfl, -⟩ := appendChild_eq_ok ha
    exact ⟨p, c, rfl, rfl, h.arranged.moved ha⟩
  · obtain ⟨c, rfl, -⟩ := removeChild_eq_ok hr
    subst hp
    exact ⟨c, rfl, h.arranged.cutOff hr⟩

/-- A list with two entries, of which the first has a text. -/
def sampleList : Tree :=
  ofEdits
    [.createElement "ul", .createElement "li", .createText "one", .createElement "li",
      .appendChild (some 0) (some 1), .appendChild (some 1) (some 2),
      .appendChild (some 2) (some 3), .appendChild (some 1) (some 4)]

/-- The first entry goes behind the second with its text and can be taken out then, but the list
    does not go into its own entry. -/
theorem moves_one_subtree_sampleList :
    (∃ t', sampleList.appendChild (some 1) (some 2) = .ok t' ∧ sampleList.Moved 1 2 t' ∧
        t'.children (some 1) = [4, 2]) ∧
      (∃ t', sampleList.removeChild (some 1) (some 2) = .ok t' ∧ sampleList.CutOff 1 2 t' ∧
        t'.children (some 1) = [4]) ∧
      (InPlace.appendChild (some 2) (some 1)).run sampleList =
        (.error (.hierarchy (some 2) (some 1)), sampleList) := by
  have hreach : sampleList.Reachable := ⟨_, rfl⟩
  have hchildren : sampleList.children (some 1) = [2, 4] := by decide +kernel
  have hmay : sampleList.MayMove 1 2 :=
    ⟨Or.inr ⟨_, rfl⟩, by decide +kernel, by decide, by decide, by decide +kernel⟩
  refine ⟨?_, ?_, ?_⟩
  · obtain ⟨haccepted, hmoved, -⟩ := hreach.moves_one_subtree (some 1) (some 2)
    obtain ⟨t', ht'⟩ := haccepted.mpr ⟨1, 2, rfl, rfl, hmay⟩
    obtain ⟨p, c, hp, hc, hmoved⟩ := hmoved t' ht'
    obtain rfl := Option.some.inj hp
    obtain rfl := Option.some.inj hc
    refine ⟨t', ht', hmoved, ?_⟩
    rw [hmoved.children_new, hchildren]
    rfl
  · obtain ⟨-, -, hcut, -⟩ := hreach.moves_one_subtree (some 1) (some 2)
    obtain ⟨c, hc, hcut⟩ := hcut 1 (sampleList.detach (some 2)) rfl rfl
    obtain rfl := Option.some.inj hc
    refine ⟨_, rfl, hcut, ?_⟩
    rw [hcut.children_old, hchildren]
    rfl
  · obtain ⟨-, -, -, hplace, -⟩ := hreach.moves_one_subtree (some 2) (some 1)
    rw [hplace]
    rfl

/-! ### What a removal answers -/

/-- What a removal accepts: a child of the given node, or a node that hangs nowhere if no node is
    given. -/
inductive Removable (t : Tree) : NodeRef → NodeRef → Prop
  | child {p c : Nat} (mem : c ∈ t.children (some p)) : t.Removable (some p) (some c)
  | loose {c : Nat} (node : c < t.size) (parent : t.parent (some c) = none) :
    t.Removable none (some c)

/-- A removal asks whether the node is there, and then only whether its link to the parent is the
    reference that was given. -/
theorem removeChild_eq (t : Tree) (parent child : NodeRef) :
    t.removeChild parent child =
      if t.get? child = none then .error (.notFound child)
      else if t.parent child = parent then .ok (t.detach child)
      else .error (.notAChild parent child) := by
  unfold removeChild Tree.parent
  cases t.get? child with
  | none => rfl
  | some n => by_cases hp : n.parent = parent <;> simp [hp]

/-- The link of a node to its parent is a reference to nothing if the node hangs nowhere, so the
    link may be the given reference even if that is to nothing. -/
theorem Arranged.removable_iff {t : Tree} {kids : Nat → List Nat} (h : t.Arranged kids)
    {parent child : NodeRef} :
    t.Removable parent child ↔ t.get? child ≠ none ∧ t.parent child = parent := by
  constructor
  · rintro (⟨hmem⟩ | ⟨hnode, hparent⟩)
    · rw [h.children_eq] at hmem
      exact ⟨Option.isSome_iff_ne_none.mp (get?_isSome_iff.mpr (h.lt_size_of_mem hmem)),
        (h.isChild_iff _ _).mpr hmem⟩
    · exact ⟨Option.isSome_iff_ne_none.mp (get?_isSome_iff.mpr hnode), hparent⟩
  · rintro ⟨hnode, hparent⟩
    obtain ⟨n, hn⟩ := Option.ne_none_iff_exists'.mp hnode
    obtain ⟨c, rfl, hc⟩ := exists_of_get?_eq_some hn
    cases parent with
    | none => exact .loose hc hparent
    | some p =>
      refine .child ?_
      rw [h.children_eq]
      exact (h.isChild_iff c p).mp hparent

/-- A removal is accepted for the children of the given node, and without one for whatever hangs
    nowhere, where it changes nothing. It does not find what is no node, and every other node is no
    child. -/
theorem Reachable.removeChild_answers {t : Tree} (h : t.Reachable) (parent child : NodeRef) :
    ((∃ t', t.removeChild parent child = .ok t') ↔ t.Removable parent child) ∧
      (t.removeChild parent child = .error (.notFound child) ↔ t.get? child = none) ∧
      (t.removeChild parent child = .error (.notAChild parent child) ↔
        t.get? child ≠ none ∧ ¬ t.Removable parent child) ∧
      (parent = none → ∀ t', t.removeChild parent child = .ok t' → t' = t) := by
  have hremovable : t.Removable parent child ↔ _ := h.arranged.removable_iff
  by_cases hnode : t.get? child = none
  · have hanswer : t.removeChild parent child = .error (.notFound child) := by
      rw [removeChild_eq, if_pos hnode]
    simp [hanswer, hremovable, hnode]
  · by_cases hparent : t.parent child = parent
    · have hanswer : t.removeChild parent child = .ok (t.detach child) := by
        rw [removeChild_eq, if_neg hnode, if_pos hparent]
      -- without a parent there is no list to take the node out of
      have hloose (hnone : parent = none) : t.detach child = t := by
        obtain ⟨c, rfl, -⟩ := removeChild_eq_ok hanswer
        exact detach_of_link_parent_eq_none (hparent.trans hnone)
      simpa [hanswer, hremovable, hnode, hparent] using hloose
    · have hanswer : t.removeChild parent child = .error (.notAChild parent child) := by
        rw [removeChild_eq, if_neg hnode, if_neg hparent]
      simp [hanswer, hremovable, hnode, hparent]

/-- An element that hangs nowhere. -/
def sampleLoose : Tree := ofEdits [.createElement "p"]

/-- The element is removed from nothing, though nothing has no children. -/
theorem removeChild_sampleLoose :
    sampleLoose.Reachable ∧
      ¬ ((∃ t', sampleLoose.removeChild none (some 1) = .ok t') ↔
        1 ∈ sampleLoose.children none) := by
  refine ⟨⟨_, rfl⟩, fun h => ?_⟩
  have hmem := h.mp ⟨_, rfl⟩
  revert hmem
  decide +kernel

/-- An entry is taken out of its list, but not the text of the entry, and what is no node is not
    found. -/
theorem removeChild_answers_sampleList :
    sampleList.Reachable ∧ (∃ t', sampleList.removeChild (some 1) (some 2) = .ok t') ∧
      sampleList.removeChild (some 1) (some 3) = .error (.notAChild (some 1) (some 3)) ∧
      sampleList.removeChild (some 1) (some 7) = .error (.notFound (some 7)) := by
  have hreach : sampleList.Reachable := ⟨_, rfl⟩
  have hchildren : sampleList.children (some 1) = [2, 4] := by decide +kernel
  refine ⟨hreach, ?_, ?_, ?_⟩
  · obtain ⟨haccepted, -⟩ := hreach.removeChild_answers (some 1) (some 2)
    exact haccepted.mpr (.child (by rw [hchildren]; decide))
  · obtain ⟨-, -, hrefused, -⟩ := hreach.removeChild_answers (some 1) (some 3)
    refine hrefused.mpr ⟨Option.isSome_iff_ne_none.mp rfl, ?_⟩
    rintro ⟨hmem⟩
    rw [hchildren] at hmem
    revert hmem
    decide
  · obtain ⟨-, hmissing, -⟩ := hreach.removeChild_answers (some 1) (some 7)
    exact hmissing.mpr rfl

end Tree

end ClassSheet.Dom
