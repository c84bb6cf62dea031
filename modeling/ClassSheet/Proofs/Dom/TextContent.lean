import ClassSheet.Proofs.Dom.Growth
import ClassSheet.Proofs.Dom.Reachable

/-! # The text of an element

Adding text to an element is accepted whenever the element is there (`Arranged.exists_appendText`),
and the text of the element grows by it at the end (`Arranged.textContent_appendText`), whether the
last child takes it or a new node does. -/

namespace ClassSheet.Dom

namespace Tree

/-- The text of nodes, one after the other. -/
def joinedText (t : Tree) (nodes : List Nat) : String :=
  String.join (nodes.filterMap fun i => t.text? (some i))

/-- The texts of more nodes stand behind those of the first ones. -/
theorem joinedText_append (t : Tree) (xs ys : List Nat) :
    t.joinedText (xs ++ ys) = t.joinedText xs ++ t.joinedText ys := by
  simp [joinedText, List.filterMap_append]

/-- Only the texts of the nodes matter. -/
theorem joinedText_congr {t t' : Tree} {nodes : List Nat}
    (h : ∀ i ∈ nodes, t'.text? (some i) = t.text? (some i)) :
    t'.joinedText nodes = t.joinedText nodes :=
  congrArg String.join (List.filterMap_congr h)

/-- A text behind nodes whose texts are those of another tree. -/
theorem joinedText_concat {t t' : Tree} {front : List Nat} {l : Nat} {s : String}
    (hl : t'.text? (some l) = some s)
    (hfront : ∀ i ∈ front, t'.text? (some i) = t.text? (some i)) :
    t'.joinedText (front ++ [l]) = t.joinedText front ++ s := by
  rw [joinedText_append, joinedText_congr hfront]
  simp [joinedText, hl]

/-- The texts after the text of one node has changed. -/
theorem text?_setText {t : Tree} {l : Nat} {old : String} (ht : t.text? (some l) = some old)
    (s : String) (j : Nat) :
    (t.modify (some l) fun n => { n with data := .text s }).text? (some j) =
      if j = l then some s else t.text? (some j) := by
  rw [text?, get?_modify]
  by_cases hj : j = l
  · obtain ⟨n, hn, -⟩ := Option.bind_eq_some_iff.mp ht
    subst hj
    simp [hn, Node.text?]
  · rw [if_neg (by simpa using Ne.symm hj), if_neg hj, text?]

namespace Arranged

variable {t t' : Tree} {kids kids' : Nat → List Nat}

/-- The text of an element is that of the nodes which document order lists below it. -/
theorem textContent_eq (h : t.Arranged kids) {i : Nat} {nodes : List Nat}
    (hl : t.Lists (kids i) nodes) : t.textContent (some i) = t.joinedText nodes := by
  have hdescendants := h.lists_descendants i
  rw [h.children_eq] at hdescendants
  rw [textContent, hdescendants.unique hl]
  rfl

/-! ### Adding text -/

/-- Text may be added to every element. -/
theorem exists_appendText (h : t.Arranged kids) {r : NodeRef} {e : Element}
    (he : t.element? r = some e) (s : String) : ∃ t', t.appendText r s = .ok t' := by
  obtain ⟨i, rfl⟩ : ∃ i, r = some i := by
    cases r with
    | none => cases he
    | some i => exact ⟨i, rfl⟩
  unfold Tree.appendText
  rw [requireElement_eq_ok_iff.mpr he]
  dsimp only
  split
  · exact ⟨_, rfl⟩
  · exact ⟨_, h.appendChild_create (mayHaveChildren_of_element? he) (.text s)⟩

/-- If the last child is a text, it comes last in document order. -/
private theorem exists_lists_concat (h : t.Arranged kids) {i l : Nat} {old : String}
    (hl : t.link (·.lastChild) i = some l) (ht : t.text? (some l) = some old) :
    ∃ front, t.Lists (kids i) (front ++ [l]) ∧ l ∉ front := by
  obtain ⟨cs, hcs⟩ : ∃ cs, kids i = cs ++ [l] := by
    rw [h.lastChild] at hl
    exact List.getLast?_eq_some_iff.mp hl
  -- a text has nothing below it
  have hleaf : t.children (some l) = [] := by
    rw [h.children_eq]
    by_contra hne
    have hmay := h.mayHaveChildren hne
    rw [mayHaveChildren_of_text? ht] at hmay
    exact Bool.false_ne_true hmay
  obtain ⟨front, hfront⟩ := h.exists_lists cs
  have hlists : t.Lists (kids i) (front ++ [l]) := by
    rw [hcs]
    exact hfront.append (.leaf hleaf)
  have hpairwise := h.pairwise_children i
  rw [h.children_eq] at hpairwise
  have hnodup := h.nodup_lists hlists hpairwise
  exact ⟨front, hlists, fun hmem =>
    List.disjoint_of_nodup_append hnodup hmem List.mem_cons_self⟩

/-- Text that goes into the last child. -/
private theorem textContent_extended (h : t.Arranged kids) {i l : Nat} {old s : String}
    (hl : t.link (·.lastChild) i = some l) (ht : t.text? (some l) = some old) :
    (t.modify (some l) fun n => { n with data := .text (old ++ s) }).textContent (some i) =
      t.textContent (some i) ++ s := by
  -- the links stay, so both trees list the same nodes
  have h' := h.modify_text ht (old ++ s)
  obtain ⟨front, hlists, hnotmem⟩ := h.exists_lists_concat hl ht
  have hlists' : (t.modify (some l) fun n => { n with data := .text (old ++ s) }).Lists (kids i)
      (front ++ [l]) := by
    refine hlists.congr fun j _ => ?_
    rw [h'.children_eq, h.children_eq]
  -- and only the last of them has another text
  have hlast : (t.modify (some l) fun n =>
      { n with data := .text (old ++ s) }).text? (some l) = some (old ++ s) := by
    rw [text?_setText ht, if_pos rfl]
  have hother : ∀ j ∈ front, (t.modify (some l) fun n =>
      { n with data := .text (old ++ s) }).text? (some j) = t.text? (some j) := by
    intro j hj
    rw [text?_setText ht, if_neg]
    rintro rfl
    exact hnotmem hj
  rw [h'.textContent_eq hlists', h.textContent_eq hlists, joinedText_concat hlast hother,
    joinedText_concat ht fun _ _ => rfl, String.append_assoc]

/-- Text that goes into a new node. -/
private theorem textContent_added (h : t.Arranged kids) {i : Nat} {e : Element}
    (he : t.element? (some i) = some e) (s : String) :
    (t.grow i (.text s)).textContent (some i) = t.textContent (some i) ++ s := by
  have hmay := mayHaveChildren_of_element? he
  have h' := h.grow hmay (.text s)
  obtain ⟨below, hbelow⟩ := h.exists_lists (kids i)
  have hdescendants (j : Nat) (hj : j ∈ below) : t.Below j i := by
    rw [h.below_iff, h.children_eq]
    exact (h.mem_lists hbelow).mp hj
  -- no node below the element is the element, so only the element has another child
  have hbelow' : (t.grow i (.text s)).Lists (kids i) below := by
    refine hbelow.congr fun j hj => ?_
    have hne : j ≠ i := by
      rintro rfl
      exact h.acyclic j (hdescendants j hj)
    rw [h.children_grow hmay, if_neg hne]
  have hlists' : (t.grow i (.text s)).Lists
      (Function.update kids i (kids i ++ [t.size]) i) (below ++ [t.size]) := by
    rw [Function.update_self]
    exact hbelow'.append (.leaf (h.children_grow_self hmay (.text s)))
  have htext (j : Nat) : (t.grow i (.text s)).text? (some j) =
      if j = t.size then some s else t.text? (some j) := by
    rw [text?_eq_data?, data?_grow, text?_eq_data?]
    split <;> rfl
  have hother : ∀ j ∈ below, (t.grow i (.text s)).text? (some j) = t.text? (some j) := by
    intro j hj
    rw [htext, if_neg]
    rintro rfl
    obtain ⟨p, hp, -⟩ := Relation.TransGen.head'_iff.mp (hdescendants _ hj)
    exact absurd (lt_size_of_link hp) (Nat.lt_irrefl _)
  have hlast : (t.grow i (.text s)).text? (some t.size) = some s := by rw [htext, if_pos rfl]
  rw [h'.textContent_eq hlists', h.textContent_eq hbelow, joinedText_concat hlast hother]

/-- The text of an element ends with the text that was added last. -/
theorem textContent_appendText (h : t.Arranged kids) {r : NodeRef} {s : String}
    (ha : t.appendText r s = .ok t') : t'.textContent r = t.textContent r ++ s := by
  obtain ⟨i, e, rfl, he, ⟨l, old, hl, ht, rfl⟩ | ⟨-, rfl⟩⟩ := appendText_eq_ok ha
  · exact h.textContent_extended hl ht
  · exact h.textContent_added he s

end Arranged

end Tree

end ClassSheet.Dom
