import ClassSheet.Proofs.Dom.Stylesheet

/-! # Asking twice for a stylesheet

A call for a `style` element adds what is missing for it and leaves the rest of the document as it
was (`Document.Completed`). A second call finds the element that the first one has found or added,
so it changes nothing at all (`Reachable.ensureStyle_again`). -/

namespace ClassSheet.Dom.Document

variable {d d' : Document} {id : String} {p s : Nat}

/-! ### What is missing -/

/-- An empty `style` element with an `id`. -/
def styleForest (id : String) : Forest :=
  .cons (.element ⟨"style", [⟨"id", id⟩], .empty⟩) .nil .nil

/-- An empty `head`, but for a `style` element with an `id`. -/
def headForest (id : String) : Forest :=
  .cons (.element ⟨"head", [], .empty⟩) (styleForest id) .nil

/-- The document `d'` is `d` with what was missing for the `style` element `s` with an `id`. -/
inductive Completed (d : Document) (id : String) : Nat → Document → Prop
  /-- The known `head` has such a child: nothing is missing. -/
  | found {p s : Nat} (head : d.head = some p) (mem : s ∈ d.tree.children (some p))
      (style : isStyle d.tree id s = true) : d.Completed id s d
  /-- No child of the known `head` is such an element: it comes behind the others. -/
  | added {p : Nat} {t : Tree} (head : d.head = some p)
      (absent : ∀ i ∈ d.tree.children (some p), isStyle d.tree id i = false)
      (tree : d.tree.Added p (styleForest id) t) : d.Completed id d.tree.size { d with tree := t }
  /-- No `head` is known: one with the element in it comes behind the other children of `html`, or
      of the document if no `html` is known either. -/
  | addedHead {p : Nat} {t : Tree} (head : d.head = none) (parent : d.html.or Tree.root = some p)
      (tree : d.tree.Added p (headForest id) t) :
      d.Completed id (d.tree.size + 1) { d with tree := t, head := some d.tree.size }

/-- The forest by its only node. -/
theorem styleForest_eq (id : String) :
    styleForest id = .cons (.element (styleElement id)) .nil .nil := by
  have htag : Element.ofTag "style" = ⟨"style", [], .empty⟩ := by decide +kernel
  have hname : Text.asciiLowercase "id" = "id" := by decide +kernel
  rw [styleElement, htag, Element.setAttribute, hname]
  rfl

/-- The forest by its nodes. -/
theorem headForest_eq (id : String) :
    headForest id = .cons (.element (.ofTag "head")) (styleForest id) .nil := by
  have htag : Element.ofTag "head" = ⟨"head", [], .empty⟩ := by decide +kernel
  rw [htag, headForest]

/-! ### Looking for the element -/

/-- Only elements are looked through, but nothing else is a `style` element. -/
theorem find?_elementChildren (t : Tree) (id : String) (r : NodeRef) :
    (t.elementChildren r).find? (isStyle t id) = (t.children r).find? (isStyle t id) := by
  have hstyle (i : Nat) (hi : isStyle t id i = true) : t.isElement (some i) = true := by
    rw [isStyle, Bool.and_eq_true, beq_iff_eq] at hi
    obtain ⟨e, he, -⟩ := Option.map_eq_some_iff.mp hi.1
    exact Option.isSome_iff_exists.mpr ⟨e, he⟩
  rw [Tree.elementChildren, List.find?_filter]
  congr 1
  funext i
  rw [Bool.eq_iff_iff, decide_eq_true_eq]
  exact ⟨And.right, fun hi => ⟨hstyle i hi, hi⟩⟩

/-- Whether a node is a `style` element depends on its data only. -/
theorem isStyle_congr {t t' : Tree} {i : Nat} (h : t'.data? i = t.data? i) :
    isStyle t' id i = isStyle t id i := by
  have helement : t'.element? (some i) = t.element? (some i) := by
    rw [Tree.element?_eq_data?, h, Tree.element?_eq_data?]
  unfold isStyle Tree.tag? Tree.attribute?
  rw [helement]

/-- A call that finds the element changes nothing. -/
theorem ensureStyle_of_find? (hhead : d.head = some p)
    (hfind : (d.tree.elementChildren (some p)).find? (isStyle d.tree id) = some s) :
    d.ensureStyle id = (.ok (some s), d) := by
  simp [ensureStyle, hhead, hfind]

/-- An element that was added because there was none is the one that is found. -/
theorem Sound.find?_withStyle (h : d.Sound) (hhead : d.head = some p)
    (hnone : (d.tree.children (some p)).find? (isStyle d.tree id) = none) :
    ((d.withStyle p id).tree.elementChildren (some p)).find? (isStyle (d.withStyle p id).tree id) =
      some d.tree.size := by
  have hk := h.tree.arranged
  have hp := Tree.mayHaveChildren_of_isElement (h.head p hhead)
  have hchildren : (d.withStyle p id).tree.children (some p) =
      d.tree.children (some p) ++ [d.tree.size] := by
    rw [Document.withStyle, hk.children_grow hp, if_pos rfl]
  -- the children in front of the new one are as they were
  have hold : (d.tree.children (some p)).find? (isStyle (d.withStyle p id).tree id) = none := by
    rw [List.find?_eq_none] at hnone ⊢
    intro i hi
    have hlt : i < d.tree.size := hk.lt_size_of_mem hi
    have hdata : (d.withStyle p id).tree.data? i = d.tree.data? i := by
      rw [Document.withStyle, Tree.data?_grow, if_neg (Nat.ne_of_lt hlt)]
    rw [isStyle_congr hdata]
    exact hnone i hi
  rw [find?_elementChildren, hchildren, List.find?_append, hold, Option.none_or,
    List.find?_cons_of_pos (d.isStyle_withStyle p id)]

namespace Ensured

variable (he : d.Ensured id s d') (h : d.Sound)
include he h

/-- A second call finds what the first one has found or added. -/
theorem again : d'.ensureStyle id = (.ok (some s), d') := by
  cases he with
  | found hhead hfirst => exact ensureStyle_of_find? hhead hfirst
  | added hhead hnone =>
    rw [find?_elementChildren] at hnone
    exact ensureStyle_of_find? hhead (h.find?_withStyle hhead hnone)
  | @addedHead p hhead hanchor =>
    have hsound := h.withHead hhead hanchor
    -- the new `head` had no child before
    have hnone : ((d.withHead p).tree.children (some d.tree.size)).find?
        (Document.isStyle (d.withHead p).tree id) = none := by
      obtain ⟨q, hq, hmay⟩ := h.exists_anchor
      obtain rfl := Option.some.inj (hanchor.symm.trans hq)
      rw [Document.withHead, h.tree.arranged.children_grow_self hmay, List.find?_nil]
    exact ensureStyle_of_find? rfl (hsound.find?_withStyle rfl hnone)

/-- The first call leaves nothing that was not there or missing. -/
theorem completed : d.Completed id s d' := by
  have hk := h.tree.arranged
  cases he with
  | found hhead hfirst =>
    have hmem := List.mem_of_mem_filter (List.mem_of_find?_eq_some hfirst)
    exact .found hhead hmem (List.find?_some hfirst)
  | @added p hhead hnone =>
    rw [find?_elementChildren, List.find?_eq_none] at hnone
    have hadded := hk.added_leaf (Tree.mayHaveChildren_of_isElement (h.head p hhead))
      (.element (styleElement id))
    rw [← styleForest_eq] at hadded
    exact .added hhead (fun i hi => Bool.not_eq_true _ ▸ hnone i hi) hadded
  | @addedHead p hhead hanchor =>
    obtain ⟨q, hq, hmay⟩ := h.exists_anchor
    obtain rfl := Option.some.inj (hanchor.symm.trans hq)
    have hsound := h.withHead hhead hanchor
    -- the element comes below the new `head`, and nothing behind that
    have hinner := hsound.tree.arranged.added_leaf
      (Tree.mayHaveChildren_of_isElement (hsound.head _ rfl)) (.element (styleElement id))
    rw [← styleForest_eq] at hinner
    have hadded := hk.added_cons hmay hinner (.nil _ p)
    rw [← headForest_eq] at hadded
    have hsize : (d.withHead p).tree.size = d.tree.size + 1 := d.tree.size_grow p _
    rw [anchor, hhead, Option.none_or] at hanchor
    rw [hsize]
    exact .addedHead hhead hanchor hadded

end Ensured

/-- A call for a `style` element adds what is missing and nothing else, and a second call changes
    nothing and gives the same element. -/
theorem Reachable.ensureStyle_again (h : d.Reachable) (id : String) :
    ∃ s d', d.ensureStyle id = (.ok (some s), d') ∧ d.Completed id s d' ∧
      d'.ensureStyle id = (.ok (some s), d') := by
  obtain ⟨s, d', hok, he⟩ := h.sound.exists_ensured id
  exact ⟨s, d', hok, he.completed h.sound, he.again h.sound⟩

/-- Without a known `head` two elements are added, and only by the first of two calls. -/
theorem ensureStyle_again_sampleHeadless :
    ∃ d', sampleHeadless.locate.ensureStyle "css" = (.ok (some 5), d') ∧
      sampleHeadless.locate.Completed "css" 5 d' ∧ d'.tree.size = 6 ∧
      d'.ensureStyle "css" = (.ok (some 5), d') := by
  have hreach : sampleHeadless.locate.Reachable :=
    ⟨[.edit (.removeChild (some 1) (some 2)), .locate], Or.inr rfl⟩
  obtain ⟨s, d', hok, hcompleted, hagain⟩ := hreach.ensureStyle_again "css"
  have hnode : (sampleHeadless.locate.ensureStyle "css").1.toOption = some (some 5) := by
    decide +kernel
  have hsize : (sampleHeadless.locate.ensureStyle "css").2.tree.size = 6 := by decide +kernel
  rw [hok] at hnode hsize
  obtain rfl := Option.some.inj (Option.some.inj hnode)
  exact ⟨d', hok, hcompleted, hsize, hagain⟩

end ClassSheet.Dom.Document
