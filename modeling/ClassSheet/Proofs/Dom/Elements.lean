import ClassSheet.Proofs.Dom.Reachable
import ClassSheet.Dom.Document

/-! # Elements

An element stays one under every edit of the tree (`Edited.isElement`). In particular the `style`
element that a document is asked for is an element (`Document.isElement_ensureStyle`), and it is one
whatever happens to the document later. -/

namespace ClassSheet.Dom

namespace Tree

/-! ### Elements stay -/

/-- A node is an element if its data are one. -/
theorem isElement_iff {t : Tree} {i : Nat} :
    t.isElement (some i) = true ↔ ∃ e, t.data? i = some (.element e) := by
  rw [isElement, Option.isSome_iff_exists]
  exact exists_congr fun _ => element?_eq_some_iff

/-- Elements may have children. -/
theorem mayHaveChildren_of_isElement {t : Tree} {i : Nat} (h : t.isElement (some i) = true) :
    t.mayHaveChildren i = true :=
  mayHaveChildren_iff.mpr (Or.inr (isElement_iff.mp h))

/-- Data that are not there yet replace no element. -/
theorem isElement_create {t : Tree} {i : Nat} (h : t.isElement (some i) = true) (d : NodeData) :
    (t.create d).2.isElement (some i) = true := by
  rw [isElement_iff] at h ⊢
  obtain ⟨e, he⟩ := h
  exact ⟨e, by rw [data?_create, if_neg (Nat.ne_of_lt (lt_size_of_data? he)), he]⟩

/-- `createElement` makes an element. -/
theorem isElement_createElement (t : Tree) (tag : String) :
    (t.createElement tag).2.isElement (t.createElement tag).1 = true := by
  have hdata : (t.createElement tag).2.data? t.size = some (.element (.ofTag tag)) := by
    rw [createElement, data?_create, if_pos rfl]
  exact isElement_iff.mpr ⟨.ofTag tag, hdata⟩

/-- Hanging up a node leaves an element one. -/
theorem isElement_linkLast {t : Tree} {i : Nat} (h : t.isElement (some i) = true)
    (p c : NodeRef) : (t.linkLast p c).isElement (some i) = true := by
  rwa [isElement_iff, data?_linkLast, ← isElement_iff]

/-- A new node below another leaves an element one. -/
theorem isElement_grow {t : Tree} {i : Nat} (h : t.isElement (some i) = true) (p : Nat)
    (d : NodeData) : (t.grow p d).isElement (some i) = true :=
  isElement_linkLast (isElement_create h d) _ _

/-- Cutting off a node leaves an element one. -/
theorem isElement_detach {t : Tree} {i : Nat} (h : t.isElement (some i) = true) (r : NodeRef) :
    (t.detach r).isElement (some i) = true := by
  rwa [isElement_iff, data?_detach, ← isElement_iff]

/-- An element is replaced by an element. -/
theorem isElement_putElement {t : Tree} {i : Nat} (h : t.isElement (some i) = true) (r : NodeRef)
    (e : Element) : (t.putElement r e).isElement (some i) = true := by
  rw [isElement_iff] at h ⊢
  rw [putElement, data?_modify_data]
  split
  · exact ⟨e, rfl⟩
  · exact h

/-- `appendChild` leaves an element one. -/
theorem isElement_appendChild {t t' : Tree} {i : Nat} (h : t.isElement (some i) = true)
    {parent child : NodeRef} (ha : t.appendChild parent child = .ok t') :
    t'.isElement (some i) = true := by
  obtain ⟨p, c, -, -, -, -, -, -, rfl⟩ := appendChild_eq_ok ha
  exact isElement_linkLast (isElement_detach h _) _ _

/-- `appendText` changes the data of texts only. -/
theorem isElement_appendText {t t' : Tree} {i : Nat} (h : t.isElement (some i) = true)
    {r : NodeRef} {s : String} (ha : t.appendText r s = .ok t') : t'.isElement (some i) = true := by
  obtain ⟨j, e, rfl, he, ⟨l, old, -, ht, rfl⟩ | ⟨-, rfl⟩⟩ := appendText_eq_ok ha
  · -- the node that is changed is a text
    rw [isElement_iff] at h ⊢
    obtain ⟨e', he'⟩ := h
    refine ⟨e', ?_⟩
    rw [data?_modify_data, if_neg, he']
    rintro ⟨hl, -⟩
    rw [text?_eq_some_iff, Option.some.inj hl, he'] at ht
    exact nomatch ht
  · exact isElement_grow h _ _

/-- No edit turns an element into anything else. -/
theorem Edited.isElement {t t' : Tree} (h : t.Edited t') {r : NodeRef}
    (hr : t.isElement r = true) : t'.isElement r = true := by
  cases r with
  | none => cases hr
  | some i =>
    -- by what the edit has done
    cases h with
    | unchanged => exact hr
    | created d => exact isElement_create hr d
    | moved ha => exact isElement_appendChild hr ha
    | detached c => exact isElement_detach hr _
    | textAdded ha => exact isElement_appendText hr ha
    | replaced _ e' => exact isElement_putElement hr _ e'

end Tree

/-! ### The `style` element -/

namespace Document

variable {d d' : Document} {id : String}

/-- A document is reachable after a `head` has been added. -/
theorem reachable_addHead (h : d.tree.Reachable) (hok : d.addHead = (.ok (), d')) :
    d'.tree.Reachable := by
  have hcreated := h.createElement "head"
  unfold addHead at hok
  cases hnew : d.tree.createElement "head" with
  | mk head t =>
    rw [hnew] at hok hcreated
    dsimp only at hok
    split at hok
    · next t' ht' =>
      obtain ⟨-, rfl⟩ := Prod.mk.inj hok
      exact hcreated.appendChild ht'
    · cases hok

/-- The new element gets its `id` and its place, and both leave it an element. -/
theorem isElement_addStyle (h : d.tree.Reachable) {style : NodeRef}
    (hok : d.addStyle id = (.ok style, d')) :
    d'.tree.Reachable ∧ d'.tree.isElement style = true := by
  have hcreated := h.createElement "style"
  have helement := Tree.isElement_createElement d.tree "style"
  unfold addStyle at hok
  cases hnew : d.tree.createElement "style" with
  | mk child t =>
    rw [hnew] at hok hcreated helement
    dsimp only at hok
    split at hok
    · cases hok
    · next t' ht' =>
      split at hok
      · cases hok
      · next t'' ht'' =>
        obtain ⟨hstyle, rfl⟩ := Prod.mk.inj hok
        obtain rfl := Except.ok.inj hstyle
        -- setting the `id` and hanging up the node are two edits
        have hset := Tree.edited_apply t (.setAttribute child "id" id)
        rw [Edit.apply, ht'] at hset
        have hmoved := Tree.edited_apply t' (.appendChild d.head child)
        rw [Edit.apply, ht''] at hmoved
        exact ⟨(hcreated.setAttribute ht').appendChild ht'',
          hmoved.isElement (hset.isElement helement)⟩

/-- The `style` element that a document has or gets is an element. -/
theorem isElement_ensureStyle (h : d.tree.Reachable) {style : NodeRef}
    (hok : d.ensureStyle id = (.ok style, d')) :
    d'.tree.Reachable ∧ d'.tree.isElement style = true := by
  unfold ensureStyle at hok
  split at hok
  · split at hok
    · next i hfind =>
      obtain ⟨hstyle, rfl⟩ := Prod.mk.inj hok
      obtain rfl := Except.ok.inj hstyle
      -- it was found by its tag
      have hfound := List.find?_some hfind
      rw [isStyle, Bool.and_eq_true, beq_iff_eq] at hfound
      obtain ⟨e, he, -⟩ := Option.map_eq_some_iff.mp hfound.1
      exact ⟨h, Option.isSome_iff_exists.mpr ⟨e, he⟩⟩
    · exact isElement_addStyle h hok
  · split at hok
    · next d'' hhead => exact isElement_addStyle (reachable_addHead h hhead) hok
    · cases hok

end Document

end ClassSheet.Dom
