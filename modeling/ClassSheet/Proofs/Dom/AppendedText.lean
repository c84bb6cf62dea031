import ClassSheet.Proofs.Dom.Moves
import ClassSheet.Proofs.Dom.TextContent

/-! # Text at the end of an element

Text that is added to an element comes behind the text that the element has, whether the last child
takes it or a new node does. What is seen elsewhere stays: the elements below each node, and the
text of each node that the element does not lie within (`Tree.TextAtEnd`). Done in place, the edit
leaves the tree as it was whenever it is refused (`Arranged.run_appendText`). Which calls are
accepted, and what the others answer, is `Reachable.appendText_atEnd`. -/

namespace ClassSheet.Dom

namespace Tree

variable {t t' : Tree} {kids kids' : Nat → List Nat} {i : Nat} {s : String}

/-! ### Nodes that are touched -/

/-- Nodes below which no child and no text has changed have the same text. -/
theorem Arranged.textContent_congr (h : t.Arranged kids) (h' : t'.Arranged kids') {j : Nat}
    (hchildren : ∀ k, t.Within k j → t'.children (some k) = t.children (some k))
    (htext : ∀ k, t.Below k j → t'.text? (some k) = t.text? (some k)) :
    t'.textContent (some j) = t.textContent (some j) := by
  have hdescendants : t'.descendants (some j) = t.descendants (some j) :=
    h.descendants_congr h' fun k hk => hchildren k (h.within_iff_mem_descendants.mpr hk)
  have hjoined := joinedText_congr fun k hk => htext k (h.mem_descendants_iff.mp hk)
  rw [textContent, hdescendants]
  exact hjoined

/-- The tree `t'` is `t` after text was put into the node `l` at the end of the children of `i`,
    which was one of them or is new. -/
structure Touched (t : Tree) (i l : Nat) (t' : Tree) : Prop where
  size : t'.size = t.size ∨ t'.size = t.size + 1
  children_other : ∀ k, k ≠ i → t'.children (some k) = t.children (some k)
  children : t'.children (some i) = t.children (some i) ∨
    t'.children (some i) = t.children (some i) ++ [t.size]
  text?_other : ∀ k, k ≠ l → t'.text? (some k) = t.text? (some k)
  /-- Whatever `l` lay below has `i` within it. -/
  within : ∀ j, t.Below l j → t.Within i j

/-- Text that goes into the last child touches that child. -/
theorem Arranged.touched_extended (h : t.Arranged kids) {l : Nat} {old : String}
    (hl : t.link (·.lastChild) i = some l) (ht : t.text? (some l) = some old) (s : String) :
    t.Touched i l (t.modify (some l) fun n => { n with data := .text s }) := by
  have h' := h.modify_text ht s
  have hchildren (k : Nat) : (t.modify (some l) fun n =>
      { n with data := .text s }).children (some k) = t.children (some k) := by
    rw [h'.children_eq, h.children_eq]
  refine
    { size := Or.inl (by simp), children_other := fun k _ => hchildren k
      children := Or.inl (hchildren i), text?_other := fun k hk => ?_, within := fun j hj => ?_ }
  · rw [text?_setText ht, if_neg hk]
  · -- the first step upwards from the last child leads to its parent
    have hchild : t.IsChild l i := by
      rw [h.isChild_iff]
      rw [h.lastChild] at hl
      exact List.mem_of_getLast? hl
    obtain ⟨p, hp, hpj⟩ := Relation.TransGen.head'_iff.mp hj
    obtain rfl := Option.some.inj (hchild.symm.trans hp)
    exact hpj

/-- Text that goes into a new node touches that node. -/
theorem Arranged.touched_added (h : t.Arranged kids) (hmay : t.mayHaveChildren i = true)
    (s : String) : t.Touched i t.size (t.grow i (.text s)) where
  size := Or.inr (t.size_grow i _)
  children_other k hk := by rw [h.children_grow hmay, if_neg hk]
  children := Or.inr (by rw [h.children_grow hmay, if_pos rfl])
  text?_other k hk := by rw [text?_eq_data?, data?_grow, if_neg hk, text?_eq_data?]
  within j hj := by
    obtain ⟨p, hp, -⟩ := Relation.TransGen.head'_iff.mp hj
    exact absurd (lt_size_of_link hp) (Nat.lt_irrefl _)

/-- Adding a text touches a single node. -/
theorem Arranged.exists_touched (h : t.Arranged kids) (ha : t.appendText (some i) s = .ok t') :
    ∃ l, t.Touched i l t' := by
  obtain ⟨j, e, hj, he, ⟨l, old, hl, ht, rfl⟩ | ⟨-, rfl⟩⟩ := appendText_eq_ok ha
  · obtain rfl := Option.some.inj hj
    exact ⟨l, h.touched_extended hl ht _⟩
  · obtain rfl := Option.some.inj hj
    exact ⟨t.size, h.touched_added (mayHaveChildren_of_element? he) s⟩

namespace Touched

variable {l : Nat} (htouched : t.Touched i l t')
include htouched

/-- The text of a node that `i` does not lie within stays. -/
theorem textContent_other (h : t.Arranged kids) (h' : t'.Arranged kids') {j : Nat}
    (hj : ¬ t.Within i j) : t'.textContent (some j) = t.textContent (some j) := by
  refine h.textContent_congr h' (fun k hk => ?_) fun k hk => ?_
  · refine htouched.children_other k ?_
    rintro rfl
    exact hj hk
  · refine htouched.text?_other k ?_
    rintro rfl
    exact hj (htouched.within j hk)

/-- The elements below a node stay if no element has come or gone. -/
theorem elementChildren (h : ∀ k, t'.isElement (some k) = t.isElement (some k)) (j : Nat) :
    t'.elementChildren (some j) = t.elementChildren (some j) := by
  have hnew : t.isElement (some t.size) = false := by
    rw [isElement, element?_eq_data?, data?_eq_none_iff.mpr (Nat.le_refl _)]
    rfl
  have hfilter : (fun k => t'.isElement (some k)) = fun k => t.isElement (some k) := funext h
  unfold Tree.elementChildren
  rw [hfilter]
  by_cases hj : j = i
  · subst hj
    rcases htouched.children with hsame | hmore
    · rw [hsame]
    · rw [hmore, List.filter_append, List.filter_singleton, hnew]
      simp
  · rw [htouched.children_other j hj]

end Touched

/-! ### Text at the end -/

/-- The tree `t'` is `t` with the text `s` behind the text of the node `i`. -/
structure TextAtEnd (t : Tree) (i : Nat) (s : String) (t' : Tree) : Prop where
  textContent : t'.textContent (some i) = t.textContent (some i) ++ s
  textContent_other : ∀ j, t.isInclusiveAncestor j (some i) = false →
    t'.textContent (some j) = t.textContent (some j)
  elementChildren : ∀ j, t'.elementChildren (some j) = t.elementChildren (some j)
  size : t'.size = t.size ∨ t'.size = t.size + 1
  /-- Where the text has gone. -/
  textAdded : t.TextAdded i s t'

/-- After that, the text stands at the end of the element. -/
theorem Arranged.textAtEnd (h : t.Arranged kids) (ha : t.appendText (some i) s = .ok t') :
    t.TextAtEnd i s t' := by
  obtain ⟨kids', h'⟩ := h.appendText ha
  obtain ⟨l, htouched⟩ := h.exists_touched ha
  obtain ⟨j, e, hj, he, hadded⟩ := h.textAdded ha
  obtain rfl := Option.some.inj hj
  refine
    { textContent := h.textContent_appendText ha, textContent_other := fun j hj => ?_
      elementChildren := htouched.elementChildren fun k => ?_
      size := htouched.size, textAdded := hadded }
  · refine htouched.textContent_other h h' ?_
    rw [← h.isInclusiveAncestor_iff (lt_size_of_element? he), hj]
    exact Bool.false_ne_true
  · rw [isElement, isElement, hadded.element?_eq]

/-! ### Text added in place -/

/-- Without an element nothing is added, and the tree stays as it was. -/
theorem run_appendText_of_error {r : NodeRef} {e : Error} (h : t.requireElement r = .error e)
    (s : String) : (InPlace.appendText r s).run t = (.error e, t) := by
  have hrun : (InPlace.element r).run t = (.error e, t) := by rw [InPlace.run_element, h]
  rw [InPlace.appendText, Work.run_bind_error hrun]

/-- Adding text in place does not stop half-way: a text that was created for an element can be hung
    up below it. -/
theorem Arranged.run_appendText (h : t.Arranged kids) (r : NodeRef) (s : String) :
    (InPlace.appendText r s).run t =
      Work.kept t ((t.appendText r s).map fun t' => ((), t')) := by
  cases hr : t.requireElement r with
  | error e =>
    rw [run_appendText_of_error hr, Tree.appendText, hr]
    rfl
  | ok e =>
    have hrun : (InPlace.element r).run t = (.ok e, t) := by rw [InPlace.run_element, hr]
    unfold InPlace.appendText Tree.appendText
    rw [Work.run_bind_ok hrun, hr]
    rw [requireElement_eq_ok_iff] at hr
    obtain ⟨n, hn, -⟩ := Option.bind_eq_some_iff.mp hr
    obtain ⟨i, rfl, -⟩ := exists_of_get?_eq_some hn
    rw [Work.run_bind_ok (InPlace.run_node hn), Work.run_bind_ok (Work.run_get t), hn,
      Option.bind_some]
    dsimp only
    cases t.text? n.lastChild with
    | some old => rw [Work.run_modify]; rfl
    | none =>
      -- the tree with the new text is arranged too, so hanging it up in place stops nowhere either
      have hadded : (t.create (.text s)).2.appendChild (some i) (t.create (.text s)).1 =
          .ok (t.grow i (.text s)) :=
        h.appendChild_create (mayHaveChildren_of_element? hr) (.text s)
      have hlinked : (InPlace.appendChild (some i) (t.create (.text s)).1).run
          (t.create (.text s)).2 = (.ok (t.create (.text s)).1, t.grow i (.text s)) := by
        rw [(h.create (.text s)).run_appendChild, hadded]
        rfl
      dsimp only [createText]
      rw [Work.run_bind_ok (InPlace.run_create (.text s) t), Work.run_bind_ok hlinked, hadded]
      rfl

/-! ### Answers -/

/-- Text may be added to every element of a reachable tree, and comes behind the text that the
    element has. What is no node is not found, and what is no element takes no text. Done in place,
    the edit leaves the tree that it gives, and the tree as it was if it is refused. -/
theorem Reachable.appendText_atEnd (h : t.Reachable) (r : NodeRef) (s : String) :
    (∀ i, r = some i → t.isElement (some i) = true →
      ∃ t', t.appendText r s = .ok t' ∧ (InPlace.appendText r s).run t = (.ok (), t') ∧
        t.TextAtEnd i s t') ∧
      (t.get? r = none →
        t.appendText r s = .error (.notFound r) ∧
          (InPlace.appendText r s).run t = (.error (.notFound r), t)) ∧
      (t.get? r ≠ none → t.isElement r = false →
        t.appendText r s = .error (.notAnElement r) ∧
          (InPlace.appendText r s).run t = (.error (.notAnElement r), t)) := by
  have hrun := h.arranged.run_appendText r s
  -- an edit that is refused for want of an element is refused with the same error in place
  have hrefused {e : Error} (he : t.requireElement r = .error e) :
      t.appendText r s = .error e ∧ (InPlace.appendText r s).run t = (.error e, t) := by
    refine ⟨?_, run_appendText_of_error he s⟩
    rw [Tree.appendText, he]
  refine ⟨?_, fun hnone => hrefused ?_, fun hsome helement => hrefused ?_⟩
  · rintro i rfl helement
    obtain ⟨e, he⟩ := Option.isSome_iff_exists.mp helement
    obtain ⟨t', ha⟩ := h.arranged.exists_appendText he s
    rw [ha] at hrun
    exact ⟨t', ha, hrun, h.arranged.textAtEnd ha⟩
  · rw [requireElement, hnone]
  · obtain ⟨n, hn⟩ := Option.ne_none_iff_exists'.mp hsome
    rw [isElement, element?, hn, Option.bind_some, Option.isSome_eq_false_iff] at helement
    rw [requireElement, hn]
    dsimp only
    rw [Option.isNone_iff_eq_none.mp helement]

/-- The first entry of the list has a text that takes more, the second one gets a text. The text of
    an entry takes none itself. -/
theorem appendText_atEnd_sampleList :
    sampleList.Reachable ∧
      (∃ t', sampleList.appendText (some 2) " more" = .ok t' ∧ sampleList.TextAtEnd 2 " more" t' ∧
        t'.textContent (some 2) = "one more") ∧
      (∃ t', (InPlace.appendText (some 4) "two").run sampleList = (.ok (), t') ∧
        sampleList.TextAtEnd 4 "two" t' ∧ t'.textContent (some 4) = "two") ∧
      (InPlace.appendText (some 3) "!").run sampleList =
        (.error (.notAnElement (some 3)), sampleList) ∧
      (InPlace.appendText (some 7) "!").run sampleList =
        (.error (.notFound (some 7)), sampleList) := by
  have hreach : sampleList.Reachable := ⟨_, rfl⟩
  refine ⟨hreach, ?_, ?_, ?_, ?_⟩
  · obtain ⟨haccepted, -⟩ := hreach.appendText_atEnd (some 2) " more"
    obtain ⟨t', ha, -, hatEnd⟩ := haccepted 2 rfl rfl
    refine ⟨t', ha, hatEnd, ?_⟩
    have hold : sampleList.textContent (some 2) = "one" := by decide +kernel
    rw [hatEnd.textContent, hold]
    rfl
  · obtain ⟨haccepted, -⟩ := hreach.appendText_atEnd (some 4) "two"
    obtain ⟨t', -, hrun, hatEnd⟩ := haccepted 4 rfl rfl
    refine ⟨t', hrun, hatEnd, ?_⟩
    have hold : sampleList.textContent (some 4) = "" := by decide +kernel
    rw [hatEnd.textContent, hold]
    rfl
  · obtain ⟨-, -, hrefused⟩ := hreach.appendText_atEnd (some 3) "!"
    exact (hrefused (Option.isSome_iff_ne_none.mp rfl) rfl).2
  · obtain ⟨-, hmissing, -⟩ := hreach.appendText_atEnd (some 7) "!"
    exact (hmissing rfl).2

end Tree

end ClassSheet.Dom
