import ClassSheet.Html.Load
import ClassSheet.Proofs.Dom.Reachable

/-! # Documents from markup

The document of a page comes about by edits of a tree, like any other document, so it has all that
reachable trees have (`reachable_of_document`). -/

namespace ClassSheet.Html

open ClassSheet.Dom

variable {t t' : Tree} {parent : NodeRef}

/-- Two steps that succeed are one that succeeds and then the other. -/
private theorem exists_of_bind_eq_ok {α β : Type} {x : Except Error α} {f : α → Except Error β}
    {b : β} (h : x.bind f = .ok b) : ∃ a, x = .ok a ∧ f a = .ok b := by
  cases x with
  | error e => cases h
  | ok a => exact ⟨a, rfl, h⟩

/-! ### Adding pieces -/

/-- Setting attributes, one after the other, is a row of edits. -/
theorem reachable_setAttributes {r : NodeRef} (attributes : Attributes) (h : t.Reachable)
    (hok : attributes.foldlM (fun t a => t.setAttribute r a.1 a.2) t = .ok t') :
    t'.Reachable := by
  induction attributes generalizing t with
  | nil =>
    obtain rfl : t = t' := Except.ok.inj hok
    exact h
  | cons a attributes ih =>
    rw [List.foldlM_cons] at hok
    obtain ⟨t₁, hset, hok⟩ := exists_of_bind_eq_ok hok
    exact ih (h.setAttribute hset) hok

/-- Adding an element is a row of edits. -/
theorem reachable_addElement {tag : String} {attributes : Attributes} {child : NodeRef}
    (h : t.Reachable) (hok : addElement t parent tag attributes = .ok (child, t')) :
    t'.Reachable := by
  obtain ⟨t₁, hset, hok⟩ := exists_of_bind_eq_ok hok
  obtain ⟨t₂, happend, hok⟩ := exists_of_bind_eq_ok hok
  obtain ⟨-, rfl⟩ := Prod.mk.inj (Except.ok.inj hok)
  have hattributes := reachable_setAttributes attributes (h.createElement tag) hset
  exact hattributes.appendChild happend

/-- A leaf comes about by an edit that creates a node and one that hangs it up. -/
theorem reachable_addLeaf {data : NodeData} (e : Edit) (hcreate : e.apply t = (t.create data).2)
    (h : t.Reachable) (hok : addLeaf t parent data = .ok t') : t'.Reachable := by
  have hcreated := h.apply e
  rw [hcreate] at hcreated
  exact hcreated.appendChild hok

/-- Whatever waits, adding it takes a reachable tree to a reachable one. -/
theorem reachable_addWaiting {waiting : Waiting} (h : t.Reachable)
    (hok : addWaiting t waiting = .ok t') : t'.Reachable := by
  -- in the order of the additions, not along the markup
  induction t, waiting using addWaiting.induct with
  | case1 t =>
    rw [addWaiting] at hok
    obtain rfl : t = t' := Except.ok.inj hok
    exact h
  | case2 t parent waiting ih =>
    rw [addWaiting] at hok
    exact ih h hok
  | case3 t parent ms waiting ih | case4 t parent ms waiting ih =>
    rw [addWaiting] at hok
    exact ih h hok
  | case5 t parent ms waiting s hblank ih =>
    rw [addWaiting, if_pos hblank] at hok
    exact ih h hok
  | case6 t parent ms waiting s hblank ih =>
    rw [addWaiting, if_neg hblank] at hok
    obtain ⟨t₁, hadd, hok⟩ := exists_of_bind_eq_ok hok
    exact ih t₁ (reachable_addLeaf (.createText s) rfl h hadd) hok
  | case7 t parent ms waiting s ih =>
    rw [addWaiting] at hok
    obtain ⟨t₁, hadd, hok⟩ := exists_of_bind_eq_ok hok
    exact ih t₁ (reachable_addLeaf (.createComment s) rfl h hadd) hok
  | case8 t parent ms waiting tag attributes children ih =>
    rw [addWaiting] at hok
    obtain ⟨⟨child, t₁⟩, hadd, hok⟩ := exists_of_bind_eq_ok hok
    exact ih child t₁ (reachable_addElement h hadd) hok

/-- The document of a page is reachable. -/
theorem reachable_of_document {page : String} {d : Document} (hok : document page = .ok d) :
    d.tree.Reachable := by
  unfold document documentOf at hok
  cases hadd : addWaiting Tree.new [(Tree.root, Markup.ofPage page)] with
  | error e =>
    rw [hadd] at hok
    cases hok
  | ok t =>
    rw [hadd] at hok
    obtain rfl := Except.ok.inj hok
    exact reachable_addWaiting ⟨[], rfl⟩ hadd

end ClassSheet.Html
