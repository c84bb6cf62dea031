import ClassSheet.Proofs.Dom.Attributes
import ClassSheet.Proofs.Dom.Elements
import ClassSheet.Proofs.Dom.Growth
import ClassSheet.Proofs.Dom.Preorder

/-! # The stylesheet in its document

A document keeps its `html` and `head` as they were when they were last looked up, whatever becomes
of them in the tree. A `style` element is found or added below the known `head`, and a `head` is
added if none is known (`Document.Ensured`); so the `style` element is connected if the node below
which all this happens is (`Document.anchor`). That holds after every lookup, and of the documents
that a history begins with, but it is lost when that node is taken out of the tree
(`Reachable.ensureStyle_connected`). -/

namespace ClassSheet.Dom

namespace Tree

/-! ### One more node -/

namespace Arranged

variable {t : Tree} {kids : Nat → List Nat} {p : Nat} (h : t.Arranged kids)
include h

/-- A child is connected if its parent is. -/
theorem isConnected_of_isChild {c : Nat} (hc : t.IsChild c p) :
    t.isConnected (some c) = t.isConnected (some p) := by
  rw [Bool.eq_iff_iff, h.isConnected_iff, h.isConnected_iff]
  constructor
  · intro hw
    rcases Relation.ReflTransGen.cases_head hw with rfl | ⟨q, hq, hw⟩
    · -- the document is no child
      exact nomatch h.root_parent.symm.trans hc
    · obtain rfl := Option.some.inj (hc.symm.trans hq)
      exact hw
  · exact .head hc

variable (hp : t.mayHaveChildren p = true) (d : NodeData)
include hp

/-- A new node is a child of the node that it was added below. -/
theorem mem_children_grow : t.size ∈ (t.grow p d).children (some p) := by
  rw [h.children_grow hp, if_pos rfl]
  exact List.mem_append_right _ List.mem_cons_self

/-- A new node is connected if its parent was. -/
theorem isConnected_grow :
    (t.grow p d).isConnected (some t.size) = t.isConnected (some p) := by
  have hgrow := h.grow hp d
  have hchild : (t.grow p d).IsChild t.size p := by rw [IsChild, link_parent_grow, if_pos rfl]
  have hparent (i : Nat) (hi : i < t.size) :
      (t.grow p d).link (·.parent) i = t.link (·.parent) i := by
    rw [link_parent_grow, if_neg (Nat.ne_of_lt hi)]
  rw [hgrow.isConnected_of_isChild hchild, Bool.eq_iff_iff, hgrow.isConnected_iff,
    h.isConnected_iff]
  exact h.within_iff_of_link_parent_eq hparent (lt_size_of_mayHaveChildren hp)

end Arranged

end Tree

namespace Document

variable {d d' : Document} {id : String}

/-! ### The known nodes -/

/-- The tree can be reached, and the known `html` and `head` are elements in it. -/
structure Sound (d : Document) : Prop where
  tree : d.tree.Reachable
  html : ∀ i, d.html = some i → d.tree.isElement (some i) = true
  head : ∀ i, d.head = some i → d.tree.isElement (some i) = true

/-- The node below which a stylesheet is put: the known `head`, or the node below which a `head` is
    put if none is known. -/
def anchor (d : Document) : NodeRef := d.head.or (d.html.or Tree.root)

/-- What holds of a known node, and of the one that stands in for it, holds of the one that is
    taken. -/
private theorem exists_or {P : Nat → Prop} {r r' : NodeRef} (hr : ∀ i, r = some i → P i)
    (hr' : ∃ i, r' = some i ∧ P i) : ∃ i, r.or r' = some i ∧ P i := by
  cases r with
  | none => exact hr'
  | some i => exact ⟨i, rfl, hr i rfl⟩

/-- There is always an anchor, and it may have children. -/
theorem Sound.exists_anchor (h : d.Sound) :
    ∃ p, d.anchor = some p ∧ d.tree.mayHaveChildren p = true := by
  have hroot := Tree.mayHaveChildren_iff.mpr (Or.inl h.tree.arranged.root_data)
  have hhtml := exists_or (fun i hi => Tree.mayHaveChildren_of_isElement (h.html i hi))
    ⟨0, rfl, hroot⟩
  exact exists_or (fun i hi => Tree.mayHaveChildren_of_isElement (h.head i hi)) hhtml

/-! ### What a call does -/

/-- The element that is added for a stylesheet. -/
def styleElement (id : String) : Element := (Element.ofTag "style").setAttribute "id" id

/-- The tag of the new element is `style`. -/
theorem tag_styleElement (id : String) : (styleElement id).tag = "style" :=
  show Text.asciiLowercase "style" = "style" by decide +kernel

/-- The new element has the `id` that was asked for. -/
theorem attribute?_styleElement (id : String) : (styleElement id).attribute? "id" = some id := by
  rw [styleElement, Element.attribute?_setAttribute, if_pos (by decide +kernel)]

/-- The document with a new `head` below `p`. -/
def withHead (d : Document) (p : Nat) : Document :=
  { d with head := some d.tree.size, tree := d.tree.grow p (.element (.ofTag "head")) }

/-- The document with a new `style` element below `p`. -/
def withStyle (d : Document) (p : Nat) (id : String) : Document :=
  { d with tree := d.tree.grow p (.element (styleElement id)) }

/-- The document `d'` is `d` with the `style` element `s` for an `id` below the known `head`: it was
    there, or it is new, or both are new. -/
inductive Ensured (d : Document) (id : String) : Nat → Document → Prop
  | found {p s : Nat} (head : d.head = some p)
      (first : (d.tree.elementChildren (some p)).find? (isStyle d.tree id) = some s) :
      d.Ensured id s d
  | added {p : Nat} (head : d.head = some p)
      (absent : (d.tree.elementChildren (some p)).find? (isStyle d.tree id) = none) :
      d.Ensured id d.tree.size (d.withStyle p id)
  | addedHead {p : Nat} (head : d.head = none) (anchor : d.anchor = some p) :
      d.Ensured id (d.withHead p).tree.size ((d.withHead p).withStyle d.tree.size id)

/-- The new element is the one that a later call looks for. -/
theorem isStyle_withStyle (d : Document) (p : Nat) (id : String) :
    isStyle (d.withStyle p id).tree id d.tree.size = true := by
  have helement : (d.withStyle p id).tree.element? (some d.tree.size) =
      some (styleElement id) := by
    rw [Tree.element?_eq_some_iff, withStyle, Tree.data?_grow, if_pos rfl]
  rw [isStyle, Tree.tag?, Tree.attribute?, helement, Option.map_some, Option.bind_some,
    tag_styleElement, attribute?_styleElement, beq_self_eq_true, beq_self_eq_true, Bool.and_self]

namespace Sound

variable (h : d.Sound)
include h

/-- A `head` is added below the anchor, and this does not fail. -/
theorem addHead_eq {p : Nat} (hhead : d.head = none) (hanchor : d.anchor = some p) :
    d.addHead = (.ok (), d.withHead p) := by
  obtain ⟨q, hq, hp⟩ := h.exists_anchor
  obtain rfl := Option.some.inj (hanchor.symm.trans hq)
  rw [anchor, hhead, Option.none_or] at hanchor
  have hnew : d.tree.createElement "head" =
      (some d.tree.size, (d.tree.create (.element (.ofTag "head"))).2) := rfl
  rw [addHead, hnew]
  dsimp only
  rw [hanchor, h.tree.arranged.appendChild_create hp, withHead]

/-- A `style` element is added below the known `head`, and this does not fail. -/
theorem addStyle_eq {p : Nat} (hhead : d.head = some p) (id : String) :
    d.addStyle id = (.ok (some d.tree.size), d.withStyle p id) := by
  have hp := Tree.mayHaveChildren_of_isElement (h.head p hhead)
  have hnew : d.tree.createElement "style" =
      (some d.tree.size, (d.tree.create (.element (.ofTag "style"))).2) := rfl
  rw [addStyle, hnew]
  dsimp only
  rw [Tree.setAttribute_create, hhead]
  dsimp only
  rw [h.tree.arranged.appendChild_create hp, withStyle, styleElement, hhead]

/-- A new `head` keeps the document sound. -/
theorem withHead {p : Nat} (hhead : d.head = none) (hanchor : d.anchor = some p) :
    (d.withHead p).Sound where
  tree := reachable_addHead h.tree (h.addHead_eq hhead hanchor)
  html i hi := Tree.isElement_grow (h.html i hi) p _
  head i hi := by
    obtain rfl := Option.some.inj hi
    exact Tree.isElement_iff.mpr ⟨_, by rw [Document.withHead, Tree.data?_grow, if_pos rfl]⟩

/-- A new `style` element keeps the document sound. -/
theorem withStyle {p : Nat} (hhead : d.head = some p) (id : String) :
    (d.withStyle p id).Sound where
  tree := (isElement_addStyle h.tree (h.addStyle_eq hhead id)).1
  html i hi := Tree.isElement_grow (h.html i hi) p _
  head i hi := Tree.isElement_grow (h.head i hi) p _

/-- The new `style` element is a child of the `head`. -/
theorem mem_children_withStyle {p : Nat} (hhead : d.head = some p) (id : String) :
    d.tree.size ∈ (d.withStyle p id).tree.children (some p) :=
  h.tree.arranged.mem_children_grow (Tree.mayHaveChildren_of_isElement (h.head p hhead)) _

/-- The new `style` element is connected if the `head` is. -/
theorem isConnected_withStyle {p : Nat} (hhead : d.head = some p) (id : String) :
    (d.withStyle p id).tree.isConnected (some d.tree.size) = d.tree.isConnected (some p) :=
  h.tree.arranged.isConnected_grow (Tree.mayHaveChildren_of_isElement (h.head p hhead)) _

/-- The call does not fail. -/
theorem exists_ensured (id : String) :
    ∃ s d', d.ensureStyle id = (.ok (some s), d') ∧ d.Ensured id s d' := by
  cases hhead : d.head with
  | some p =>
    cases hfind : (d.tree.elementChildren (some p)).find? (isStyle d.tree id) with
    | some s =>
      refine ⟨s, d, ?_, .found hhead hfind⟩
      simp [ensureStyle, hhead, hfind]
    | none =>
      refine ⟨_, _, ?_, .added hhead hfind⟩
      rw [← h.addStyle_eq hhead]
      simp [ensureStyle, hhead, hfind]
  | none =>
    -- the new `head` is known from then on, so the rest goes as below a known one
    obtain ⟨p, hanchor, -⟩ := h.exists_anchor
    refine ⟨_, _, ?_, .addedHead hhead hanchor⟩
    rw [← (h.withHead hhead hanchor).addStyle_eq rfl id, ensureStyle, hhead,
      h.addHead_eq hhead hanchor]
    rfl

end Sound

namespace Ensured

variable {s : Nat} (h : d.Sound) (he : d.Ensured id s d')
include he

/-- The node is a `style` element with the `id`. -/
theorem isStyle : Document.isStyle d'.tree id s = true := by
  cases he with
  | found _ hfirst => exact List.find?_some hfirst
  | added => exact d.isStyle_withStyle ..
  | addedHead => exact (d.withHead _).isStyle_withStyle ..

include h

/-- The document stays sound. -/
theorem sound : d'.Sound := by
  cases he with
  | found => exact h
  | added hhead => exact h.withStyle hhead id
  | addedHead hhead hanchor => exact (h.withHead hhead hanchor).withStyle rfl id

/-- The node is a child of the `head` that is known afterwards. -/
theorem mem_children : s ∈ d'.tree.children d'.head := by
  cases he with
  | found hhead hfirst =>
    rw [hhead]
    exact List.mem_of_mem_filter (List.mem_of_find?_eq_some hfirst)
  | @added p hhead _ =>
    have hhead' : (d.withStyle p id).head = some p := hhead
    rw [hhead']
    exact h.mem_children_withStyle hhead id
  | addedHead hhead hanchor => exact (h.withHead hhead hanchor).mem_children_withStyle rfl id

/-- The node is connected if the anchor was. -/
theorem isConnected : d'.tree.isConnected (some s) = d.tree.isConnected d.anchor := by
  cases he with
  | @found p _ hhead hfirst =>
    rw [anchor, hhead, Option.some_or]
    refine h.tree.arranged.isConnected_of_isChild ((h.tree.arranged.isChild_iff s p).mpr ?_)
    exact List.mem_of_mem_filter (List.mem_of_find?_eq_some hfirst)
  | added hhead _ =>
    rw [h.isConnected_withStyle hhead, anchor, hhead, Option.some_or]
  | @addedHead p hhead hanchor =>
    -- the `style` element hangs below the new `head`, and that below the anchor
    obtain ⟨q, hq, hmay⟩ := h.exists_anchor
    obtain rfl := Option.some.inj (hanchor.symm.trans hq)
    rw [(h.withHead hhead hanchor).isConnected_withStyle rfl, hanchor]
    exact h.tree.arranged.isConnected_grow hmay _

end Ensured

/-! ### What happens to a document -/

/-- Something that is done to a document. -/
inductive Change where
  | edit (e : Edit)
  | locate
  | ensureStyle (id : String)

/-- The document after a change. -/
def Change.apply (d : Document) : Change → Document
  | edit e => { d with tree := e.apply d.tree }
  | locate => d.locate
  | ensureStyle id => (d.ensureStyle id).2

/-- The document after changes, one after the other. -/
def after (d : Document) (changes : List Change) : Document := changes.foldl Change.apply d

/-- Some changes lead to the document, beginning with the one without an element or with the one
    that has an empty `html`, `head` and `body`. -/
def Reachable (d : Document) : Prop :=
  ∃ changes, empty.after changes = d ∨ skeleton.after changes = d

/-- An element that is looked up is a child. -/
theorem mem_of_childWithTag {t : Tree} {parent : NodeRef} {tag : String} {i : Nat}
    (h : childWithTag t parent tag = some i) :
    i ∈ t.children parent ∧ t.isElement (some i) = true :=
  List.mem_filter.mp (List.mem_of_find?_eq_some h)

/-- No child is looked up where nothing is known. -/
theorem childWithTag_none (t : Tree) (tag : String) : childWithTag t none tag = none := by
  cases h : childWithTag t none tag with
  | none => rfl
  | some i =>
    have hchildren : t.children none = [] := by
      unfold Tree.children
      cases t.size <;> rfl
    have hmem := (mem_of_childWithTag h).1
    rw [hchildren] at hmem
    cases hmem

/-- The document without an element is sound. -/
theorem sound_empty : empty.Sound := ⟨⟨[], rfl⟩, nofun, nofun⟩

/-- The document with an empty `html`, `head` and `body` is sound. -/
theorem sound_skeleton : skeleton.Sound := by
  refine ⟨⟨[.createElement "html", .createElement "head", .createElement "body",
    .appendChild (some 0) (some 1), .appendChild (some 1) (some 2),
    .appendChild (some 1) (some 3)], rfl⟩, fun i hi => ?_, fun i hi => ?_⟩
  · obtain rfl : 1 = i := Option.some.inj hi
    decide +kernel
  · obtain rfl : 2 = i := Option.some.inj hi
    decide +kernel

namespace Sound

/-- The nodes that are known stay elements, whatever is done. -/
theorem apply (h : d.Sound) (c : Change) : (c.apply d).Sound := by
  cases c with
  | edit e =>
    have hedited := Tree.edited_apply d.tree e
    exact ⟨h.tree.apply e, fun i hi => hedited.isElement (h.html i hi),
      fun i hi => hedited.isElement (h.head i hi)⟩
  | locate =>
    -- only elements are looked through
    exact ⟨h.tree, fun i hi => (mem_of_childWithTag hi).2,
      fun i hi => (mem_of_childWithTag hi).2⟩
  | ensureStyle id =>
    obtain ⟨s, d', hok, he⟩ := h.exists_ensured id
    rw [Change.apply, hok]
    exact he.sound h

/-- Whatever is done to a document, it stays sound. -/
theorem after (h : d.Sound) (changes : List Change) : (d.after changes).Sound := by
  induction changes generalizing d with
  | nil => exact h
  | cons c changes ih => exact ih (h.apply c)

/-- Directly after a lookup the anchor hangs below the document. -/
theorem isConnected_anchor_locate (h : d.Sound) :
    d.locate.tree.isConnected d.locate.anchor = true := by
  have hk := h.tree.arranged
  have hchild {p : NodeRef} {tag : String} {i : Nat} (hp : d.tree.isConnected p = true)
      (hi : childWithTag d.tree p tag = some i) : d.tree.isConnected (some i) = true := by
    cases p with
    | none => cases hp
    | some p =>
      have hmem := (mem_of_childWithTag hi).1
      rwa [hk.isConnected_of_isChild ((hk.isChild_iff i p).mpr hmem)]
  have hroot : d.tree.isConnected Tree.root = true := hk.isConnected_iff.mpr .refl
  have hhead : d.locate.head = childWithTag d.tree d.locate.html "head" := rfl
  -- `html` is a child of the document if it is found, and then `head` is one of `html`
  rw [anchor]
  cases hhtml : d.locate.html with
  | none =>
    rw [hhtml, childWithTag_none] at hhead
    rw [hhead]
    exact hroot
  | some i =>
    have hconnected := hchild hroot hhtml
    rw [hhtml] at hhead
    cases hfound : d.locate.head with
    | none => exact hconnected
    | some j => exact hchild hconnected (hhead.symm.trans hfound)

end Sound

/-- Every document that changes lead to is sound. -/
theorem Reachable.sound (h : d.Reachable) : d.Sound := by
  obtain ⟨changes, rfl | rfl⟩ := h
  · exact sound_empty.after changes
  · exact sound_skeleton.after changes

/-- A call for a `style` element does not fail. It gives a `style` element with the `id`, below the
    `head` that is known then, and this is connected exactly if the anchor of the document was. The
    anchor is connected in the documents that a history begins with and after every lookup. -/
theorem Reachable.ensureStyle_connected (h : d.Reachable) (id : String) :
    (∃ s d', d.ensureStyle id = (.ok (some s), d') ∧ d'.tree.tag? (some s) = some "style" ∧
      d'.tree.attribute? (some s) "id" = some id ∧ s ∈ d'.tree.children d'.head ∧
      d'.tree.isConnected (some s) = d.tree.isConnected d.anchor) ∧
    empty.tree.isConnected empty.anchor = true ∧
    skeleton.tree.isConnected skeleton.anchor = true ∧
    d.locate.tree.isConnected d.locate.anchor = true := by
  refine ⟨?_, by decide +kernel, by decide +kernel, h.sound.isConnected_anchor_locate⟩
  obtain ⟨s, d', hok, he⟩ := h.sound.exists_ensured id
  have hstyle := he.isStyle
  rw [isStyle, Bool.and_eq_true, beq_iff_eq, beq_iff_eq] at hstyle
  exact ⟨s, d', hok, hstyle.1, hstyle.2, he.mem_children h.sound, he.isConnected h.sound⟩

/-- The document with empty elements, after its `head` has been taken out. -/
def sampleHeadless : Document := skeleton.after [.edit (.removeChild (some 1) (some 2))]

/-- The stylesheet follows the `head` that was taken out. -/
theorem not_isConnected_sampleHeadless :
    ¬ ∀ (d : Document) (id : String) (s : NodeRef) (d' : Document), d.Reachable →
      d.ensureStyle id = (.ok s, d') → d'.tree.tag? s = some "style" ∧
        d'.tree.attribute? s "id" = some id ∧ d'.tree.isConnected s = true := by
  intro hlive
  have hreach : sampleHeadless.Reachable := ⟨_, Or.inr rfl⟩
  have hconnected := (hlive sampleHeadless "css" (some 4)
    (sampleHeadless.ensureStyle "css").2 hreach rfl).2.2
  have hcut : (sampleHeadless.ensureStyle "css").2.tree.isConnected (some 4) = false := by
    decide +kernel
  rw [hcut] at hconnected
  cases hconnected

/-- After a lookup a new `head` is put below `html`. -/
theorem ensureStyle_connected_sampleHeadless :
    ∃ s d', sampleHeadless.locate.ensureStyle "css" = (.ok (some s), d') ∧
      d'.tree.isConnected (some s) = true := by
  have hreach : sampleHeadless.locate.Reachable :=
    ⟨[.edit (.removeChild (some 1) (some 2)), .locate], Or.inr rfl⟩
  obtain ⟨⟨s, d', hok, -, -, -, hconnected⟩, -⟩ := hreach.ensureStyle_connected "css"
  exact ⟨s, d', hok, hconnected.trans (by decide +kernel)⟩

end Document

end ClassSheet.Dom
