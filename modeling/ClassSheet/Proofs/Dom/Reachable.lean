import ClassSheet.Proofs.Dom.Edits

/-! # Trees that edits lead to

`Edit` names every edit of a tree, `Tree.ofEdits` makes them one after the other, beginning with the
document alone, and a tree is `Reachable` if some edits lead to it. An edit that is refused changes
nothing; references to no node, to the document and to numbers beyond the tree are allowed
everywhere.

* `Reachable.arranged`: the links of a reachable tree are those of its lists of children;
* `wellFormed_ofEdits`: what that means for the links themselves (`Tree.WellFormed`). -/

namespace ClassSheet.Dom

/-! ### Edits -/

/-- An edit of a tree, with what it is given. -/
inductive Edit where
  | createElement (tag : String)
  | createText (text : String)
  | createComment (text : String)
  | appendChild (parent child : NodeRef)
  | removeChild (parent child : NodeRef)
  | appendText (node : NodeRef) (text : String)
  | setAttribute (node : NodeRef) (name value : String)
  | removeAttribute (node : NodeRef) (name : String)
  | addClass (node : NodeRef) (token : String)
  | removeClass (node : NodeRef) (token : String)

namespace Edit

/-- The tree after an edit. An edit that is refused leaves it as it is. -/
def apply (t : Tree) : Edit → Tree
  | createElement tag => (t.createElement tag).2
  | createText text => (t.createText text).2
  | createComment text => (t.createComment text).2
  | appendChild parent child => (t.appendChild parent child).toOption.getD t
  | removeChild parent child => (t.removeChild parent child).toOption.getD t
  | appendText node text => (t.appendText node text).toOption.getD t
  | setAttribute node name value => (t.setAttribute node name value).toOption.getD t
  | removeAttribute node name => ((t.removeAttribute? node name).map (·.2)).getD t
  | addClass node token => ((t.addClass node token).toOption.map (·.2)).getD t
  | removeClass node token => ((t.removeClass? node token).map (·.2)).getD t

end Edit

namespace Tree

/-- The tree after edits, one after the other, beginning with the document alone. -/
def ofEdits (edits : List Edit) : Tree := edits.foldl Edit.apply new

/-- Some edits lead to the tree. -/
def Reachable (t : Tree) : Prop := ∃ edits, ofEdits edits = t

/-- One more edit leads to a reachable tree. -/
theorem Reachable.apply {t : Tree} (h : t.Reachable) (e : Edit) : (e.apply t).Reachable := by
  obtain ⟨edits, rfl⟩ := h
  exact ⟨edits ++ [e], List.foldl_concat ..⟩

section Edits

variable {t t' : Tree} (h : t.Reachable)
include h

/-- A new element is one more edit. -/
theorem Reachable.createElement (tag : String) : (t.createElement tag).2.Reachable :=
  h.apply (.createElement tag)

/-- Hanging up a node is one more edit. -/
theorem Reachable.appendChild {parent child : NodeRef} (ha : t.appendChild parent child = .ok t') :
    t'.Reachable := by
  have happly := h.apply (.appendChild parent child)
  rwa [Edit.apply, ha] at happly

/-- Adding text is one more edit. -/
theorem Reachable.appendText {r : NodeRef} {s : String} (ha : t.appendText r s = .ok t') :
    t'.Reachable := by
  have happly := h.apply (.appendText r s)
  rwa [Edit.apply, ha] at happly

/-- Setting an attribute is one more edit. -/
theorem Reachable.setAttribute {r : NodeRef} {name value : String}
    (ha : t.setAttribute r name value = .ok t') : t'.Reachable := by
  have happly := h.apply (.setAttribute r name value)
  rwa [Edit.apply, ha] at happly

end Edits

/-! ### What an edit can do -/

/-- The tree `t'` is `t` after an edit, in terms of what the edit has done to it. -/
inductive Edited (t : Tree) : Tree → Prop
  /-- A refused edit, or one that finds nothing to change. -/
  | unchanged : t.Edited t
  | created (d : NodeData) : t.Edited (t.create d).2
  | moved {t' : Tree} {p c : Nat} (h : t.appendChild (some p) (some c) = .ok t') : t.Edited t'
  | detached (c : Nat) : t.Edited (t.detach (some c))
  | textAdded {t' : Tree} {r : NodeRef} {s : String} (h : t.appendText r s = .ok t') : t.Edited t'
  | replaced {r : NodeRef} {e : Element} (h : t.element? r = some e) (e' : Element) :
    t.Edited (t.putElement r e')

/-- An edit that may be refused has changed nothing, or what it does when it is not. -/
private theorem Edited.getD {t : Tree} {r : Option Tree} (hr : ∀ t', r = some t' → t.Edited t') :
    t.Edited (r.getD t) := by
  cases r with
  | none => exact .unchanged
  | some t' => exact hr t' rfl

/-- What is there when errors are forgotten is the result. -/
theorem eq_ok_of_toOption {α : Type} {x : Except Error α} {a : α}
    (h : x.toOption = some a) : x = .ok a := by
  cases x with
  | error e => exact nomatch h
  | ok b => exact congrArg Except.ok (Option.some.inj h)

/-- A tree that replaces an element, if it may, has replaced an element that is there. -/
theorem exists_of_map_requireElement {α : Type} {t : Tree} {r : NodeRef} {f : Element → α}
    {a : α} (h : (t.requireElement r).map f = .ok a) : ∃ e, t.element? r = some e ∧ f e = a := by
  cases he : t.requireElement r with
  | error e => simp [he, Except.map] at h
  | ok e =>
    rw [he] at h
    exact ⟨e, requireElement_eq_ok_iff.mp he, Except.ok.inj h⟩

/-- Every edit does one of these things. -/
theorem edited_apply (t : Tree) (e : Edit) : t.Edited (e.apply t) := by
  -- an edit that works on an element replaces it, and only the three that move nodes touch links
  cases e with
  | createElement tag => exact .created _
  | createText text => exact .created _
  | createComment text => exact .created _
  | appendChild parent child =>
    refine .getD fun t' ht' => ?_
    have ha := eq_ok_of_toOption ht'
    obtain ⟨p, c, rfl, rfl, -⟩ := appendChild_eq_ok ha
    exact .moved ha
  | removeChild parent child =>
    refine .getD fun t' ht' => ?_
    obtain ⟨c, rfl, -, rfl⟩ := removeChild_eq_ok (eq_ok_of_toOption ht')
    exact .detached c
  | appendText node text => exact .getD fun t' ht' => .textAdded (eq_ok_of_toOption ht')
  | setAttribute node name value =>
    refine .getD fun t' ht' => ?_
    obtain ⟨e, he, rfl⟩ := exists_of_map_requireElement (eq_ok_of_toOption ht')
    exact .replaced he _
  | removeAttribute node name =>
    refine .getD fun t' ht' => ?_
    simp only [removeAttribute?, Option.map_map, Option.map_eq_some_iff] at ht'
    obtain ⟨e, he, rfl⟩ := ht'
    exact .replaced he _
  | addClass node token =>
    refine .getD fun t' ht' => ?_
    obtain ⟨x, hx, rfl⟩ := Option.map_eq_some_iff.mp ht'
    obtain ⟨e, he, rfl⟩ := exists_of_map_requireElement (eq_ok_of_toOption hx)
    exact .replaced he _
  | removeClass node token =>
    refine .getD fun t' ht' => ?_
    simp only [removeClass?, Option.map_map, Option.map_eq_some_iff] at ht'
    obtain ⟨e, he, rfl⟩ := ht'
    exact .replaced he _

/-! ### The invariant holds throughout -/

/-- An edit takes an arranged tree to an arranged tree. -/
theorem Arranged.edited {t t' : Tree} {kids : Nat → List Nat} (h : t.Arranged kids)
    (he : t.Edited t') : ∃ kids', t'.Arranged kids' := by
  cases he with
  | unchanged => exact ⟨kids, h⟩
  | created d => exact ⟨kids, h.create d⟩
  | moved ha => exact ⟨_, h.appendChild ha⟩
  | detached c => exact ⟨_, h.detach_erase c⟩
  | textAdded ha => exact h.appendText ha
  | replaced hr e' => exact ⟨kids, h.putElement hr e'⟩

/-- A reachable tree is arranged by its lists of children. -/
theorem Reachable.arranged {t : Tree} (h : t.Reachable) :
    t.Arranged fun p => t.children (some p) := by
  obtain ⟨edits, rfl⟩ := h
  suffices ∃ kids, (ofEdits edits).Arranged kids by
    obtain ⟨kids, hk⟩ := this
    rwa [funext hk.children_eq]
  -- the edits are made from the first to the last, so the last one is the step
  induction edits using List.reverseRecOn with
  | nil => exact ⟨_, arranged_new⟩
  | append_singleton edits e ih =>
    obtain ⟨kids, hk⟩ := ih
    rw [ofEdits, List.foldl_concat]
    exact hk.edited (edited_apply _ e)

/-! ### What it means for the links -/

/-- The links of a tree are consistent. -/
structure WellFormed (t : Tree) : Prop where
  /-- The document has no parent. -/
  root : t.get? root ≠ none ∧ t.parent root = none
  /-- The links to the parent lead to nodes and do not run in a circle. -/
  parent_lt_size : ∀ c p, t.parent (some c) = some p → p < t.size
  acyclic : ∀ i, ¬ t.Below i i
  /-- From the first child on, the links to the next sibling visit each child once and nothing else,
      and from the last child on, the links to the previous sibling visit them the other way
      round. -/
  children : ∀ p < t.size, ∃ cs : List Nat, cs.Nodup ∧
    (∀ c, c ∈ cs ↔ t.parent (some c) = some p) ∧
    t.Walk (·.nextSibling) (t.link (·.firstChild) p) cs ∧
    t.link (·.lastChild) p = cs.getLast? ∧
    t.Walk (·.prevSibling) (t.link (·.lastChild) p) cs.reverse
  /-- A node without a parent has no siblings. -/
  alone : ∀ c, t.parent (some c) = none →
    t.link (·.prevSibling) c = none ∧ t.link (·.nextSibling) c = none
  /-- Texts and comments have no children. -/
  leaves : ∀ i s, t.data? i = some (.text s) ∨ t.data? i = some (.comment s) →
    t.link (·.firstChild) i = none ∧ t.link (·.lastChild) i = none ∧
      ∀ c, t.parent (some c) ≠ some i

/-- From any place in a list, the links to the next sibling visit the rest of it. -/
theorem Arranged.walk_nextSibling {t : Tree} {kids : Nat → List Nat} (h : t.Arranged kids)
    {p : Nat} : ∀ xs ys : List Nat, kids p = xs ++ ys →
      t.Walk (·.nextSibling) ys.head? ys := by
  intro xs ys
  induction ys generalizing xs with
  | nil => exact fun _ => rfl
  | cons c ys ih =>
    intro hk
    refine ⟨rfl, h.lt_size_of_mem (p := p) (by simp [hk]), ?_⟩
    rw [(h.siblings hk).2]
    exact ih (xs ++ [c]) (by simp [hk])

/-- From any place, the links to the previous sibling visit what stands in front, backwards. -/
private theorem Arranged.walk_prevSibling {t : Tree} {kids : Nat → List Nat} (h : t.Arranged kids)
    {p : Nat} : ∀ xs ys : List Nat, kids p = xs ++ ys →
      t.Walk (·.prevSibling) xs.getLast? xs.reverse := by
  intro xs ys
  induction xs using List.reverseRecOn generalizing ys with
  | nil => exact fun _ => rfl
  | append_singleton xs c ih =>
    intro hk
    rw [List.append_assoc, List.singleton_append] at hk
    rw [List.getLast?_concat, List.reverse_concat]
    refine ⟨rfl, h.lt_size_of_mem (p := p) (by simp [hk]), ?_⟩
    rw [(h.siblings hk).1]
    exact ih (c :: ys) hk

/-- The links of an arranged tree are consistent. -/
theorem Arranged.wellFormed {t : Tree} {kids : Nat → List Nat} (h : t.Arranged kids) :
    t.WellFormed where
  root := ⟨Option.isSome_iff_ne_none.mp (get?_isSome_iff.mpr h.size_pos), h.root_parent⟩
  parent_lt_size _ _ hc := h.lt_size_of_isChild hc
  acyclic := h.acyclic
  children p _ := by
    refine ⟨kids p, h.nodup p, fun c => (h.isChild_iff c p).symm, ?_, h.lastChild p, ?_⟩
    · rw [h.firstChild p]
      exact h.walk_nextSibling [] (kids p) rfl
    · rw [h.lastChild p]
      exact h.walk_prevSibling (kids p) [] (List.append_nil _).symm
  alone _ := h.alone
  leaves i s hi := by
    -- only the document and elements have children
    have hk : kids i = [] := by
      by_contra hne
      rcases mayHaveChildren_iff.mp (h.mayHaveChildren hne) with hd | ⟨e, hd⟩ <;>
        simp [hd] at hi
    refine ⟨by rw [h.firstChild, hk]; rfl, by rw [h.lastChild, hk]; rfl, fun c hc => ?_⟩
    have := (h.isChild_iff c i).mp hc
    rw [hk] at this
    cases this

/-- Whatever edits are made, and whatever nodes they are asked to work on, the links stay
    consistent. -/
theorem wellFormed_ofEdits (edits : List Edit) : (ofEdits edits).WellFormed :=
  (Reachable.arranged ⟨edits, rfl⟩).wellFormed

end Tree

end ClassSheet.Dom
