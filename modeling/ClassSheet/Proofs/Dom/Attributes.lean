import ClassSheet.Proofs.Dom.Elements

/-! # Attributes

`Element.Built` says how an element may come about: it is made for a tag, and then its attributes
and classes are changed. Every element of a reachable tree has come about like this
(`Tree.Reachable.allBuilt`). So all its attributes have names in lower case, and asking for a name
with a capital finds nothing (`Tree.Reachable.attribute?_eq_none`). -/

namespace ClassSheet.Text

/-- A character that has been lowered stays as it is. -/
theorem asciiLower_asciiLower (c : Char) : asciiLower (asciiLower c) = asciiLower c := by
  by_cases hc : c.toNat ≤ 90
  · have hlow : ∀ n ≤ 90, asciiLower (asciiLower (Char.ofNat n)) = asciiLower (Char.ofNat n) := by
      decide +kernel
    simpa using hlow c.toNat hc
  · -- the capitals end with the character 90
    have hkept : asciiLower c = c := by
      unfold asciiLower
      rw [if_neg]
      intro hupper
      rw [Bool.and_eq_true, decide_eq_true_eq, decide_eq_true_eq] at hupper
      exact hc hupper.2
    rw [hkept, hkept]

/-- There are no capitals left to lower. -/
theorem asciiLowercase_asciiLowercase (s : String) :
    asciiLowercase (asciiLowercase s) = asciiLowercase s := by
  have hcomp : asciiLower ∘ asciiLower = asciiLower := funext asciiLower_asciiLower
  rw [asciiLowercase, asciiLowercase, ← String.toList_inj]
  simp [hcomp]

end ClassSheet.Text

namespace ClassSheet.Dom

open ClassSheet.Text

namespace Element

/-- An element that is made for a tag and then changed in its attributes and classes. -/
inductive Built : Element → Prop
  | ofTag (tag : String) : Built (.ofTag tag)
  | setAttribute {e : Element} (h : e.Built) (name value : String) :
    Built (e.setAttribute name value)
  | removeAttribute {e : Element} (h : e.Built) (name : String) : Built (e.removeAttribute name).2
  | addClass {e : Element} (h : e.Built) (token : String) : Built (e.addClass token).2
  | removeClass {e : Element} (h : e.Built) (token : String) : Built (e.removeClass token).2

/-! ### Classes that are added and removed -/

/-- A class that is added changes both the list and the attribute, or nothing. -/
theorem addClass_eq_or (e : Element) (token : String) :
    e.addClass token = (true, e.withClasses (e.classes.add token).2) ∨
      e.addClass token = (false, e) := by
  unfold addClass
  split
  · next heq => exact Or.inl (by rw [heq])
  · exact Or.inr rfl

/-- A class that is removed changes both the list and the attribute, or nothing. -/
theorem removeClass_eq_or (e : Element) (token : String) :
    e.removeClass token = (true, e.withClasses (e.classes.remove token).2) ∨
      e.removeClass token = (false, e) := by
  unfold removeClass
  split
  · next heq => exact Or.inl (by rw [heq])
  · exact Or.inr rfl

/-! ### Setting an attribute -/

/-- An attribute that was put is found under its name, and the others are found as before. -/
theorem find?_putAttribute (name value query : String) (as : List Attribute) :
    ((putAttribute name value as).find? (·.name == query)).map (·.value) =
      if query = name then some value else (as.find? (·.name == query)).map (·.value) := by
  induction as with
  | nil =>
    rw [putAttribute]
    by_cases hquery : query = name
    · simp [hquery]
    · simp [hquery, Ne.symm hquery]
  | cons a as ih =>
    rw [putAttribute]
    -- the first attribute is replaced, found or passed over
    by_cases ha : a.name = name
    · by_cases hquery : query = name
      · simp [ha, hquery]
      · simp [ha, hquery, Ne.symm hquery]
    · by_cases hfirst : a.name = query
      · simp [hfirst, show query ≠ name by rwa [← hfirst]]
      · simpa [ha, hfirst] using ih

/-- A set attribute is found under its name in lower case, and the others are as they were. -/
theorem attribute?_setAttribute (e : Element) (name value query : String) :
    (e.setAttribute name value).attribute? query =
      if query = asciiLowercase name then some value else e.attribute? query :=
  find?_putAttribute _ value query e.attributes

/-! ### Names of attributes -/

/-- Putting an attribute adds no name but its own. -/
theorem mem_putAttribute {name value : String} {as : List Attribute} {a : Attribute}
    (h : a ∈ putAttribute name value as) : a.name = name ∨ a ∈ as := by
  induction as with
  | nil =>
    rw [putAttribute, List.mem_singleton] at h
    exact Or.inl (congrArg Attribute.name h)
  | cons b as ih =>
    rw [putAttribute] at h
    split at h
    · rcases List.mem_cons.mp h with rfl | h
      · exact Or.inl rfl
      · exact Or.inr (List.mem_cons_of_mem b h)
    · rcases List.mem_cons.mp h with rfl | h
      · exact Or.inr List.mem_cons_self
      · exact (ih h).imp_right (List.mem_cons_of_mem b)

/-- The name of every attribute is in lower case. -/
theorem Built.asciiLowercase_name {e : Element} (h : e.Built) :
    ∀ a ∈ e.attributes, asciiLowercase a.name = a.name := by
  -- a class list is kept in an attribute, too
  have hclass (e : Element) (classes : ClassList)
      (he : ∀ a ∈ e.attributes, asciiLowercase a.name = a.name) :
      ∀ a ∈ (e.withClasses classes).attributes, asciiLowercase a.name = a.name := by
    intro a ha
    rcases mem_putAttribute ha with hname | ha
    · rw [hname]
      decide +kernel
    · exact he a ha
  induction h with
  | ofTag tag => exact fun _ ha => nomatch ha
  | setAttribute _ name value ih =>
    intro a ha
    rcases mem_putAttribute ha with hname | ha
    · rw [hname, asciiLowercase_asciiLowercase]
    · exact ih a ha
  | removeAttribute _ name ih =>
    intro a ha
    unfold Element.removeAttribute at ha
    split at ha
    · exact ih a ha
    · exact ih a (List.mem_of_mem_eraseP ha)
  | @addClass e _ token ih =>
    rcases e.addClass_eq_or token with heq | heq <;> rw [heq]
    · exact hclass e _ ih
    · exact ih
  | @removeClass e _ token ih =>
    rcases e.removeClass_eq_or token with heq | heq <;> rw [heq]
    · exact hclass e _ ih
    · exact ih

/-- No attribute is found under a name with a capital. -/
theorem Built.attribute?_eq_none {e : Element} (h : e.Built) {query : String}
    (hquery : asciiLowercase query ≠ query) : e.attribute? query = none := by
  rw [attribute?, Option.map_eq_none_iff, List.find?_eq_none]
  intro a ha hname
  have hlower := h.asciiLowercase_name a ha
  rw [beq_iff_eq.mp hname] at hlower
  exact hquery hlower

end Element

namespace Tree

/-- What is found on an element one of whose attributes has been set. -/
theorem attribute?_setAttribute {t t' : Tree} {i : Nat} {name value : String}
    (h : t.setAttribute (some i) name value = .ok t') (query : String) :
    t'.attribute? (some i) query =
      if query = asciiLowercase name then some value else t.attribute? (some i) query := by
  obtain ⟨e, he, rfl⟩ := exists_of_map_requireElement h
  have hput : (t.putElement (some i) (e.setAttribute name value)).element? (some i) =
      some (e.setAttribute name value) := by
    rw [element?_eq_some_iff, putElement, data?_modify_data,
      if_pos ⟨rfl, lt_size_of_element? he⟩]
  rw [attribute?, hput, attribute?, he, Option.bind_some, Option.bind_some,
    Element.attribute?_setAttribute]

/-! ### The elements of a tree -/

/-- Whether every element of a tree has come about by edits of elements. -/
def AllBuilt (t : Tree) : Prop := ∀ i e, t.data? i = some (.element e) → e.Built

/-- The document alone has no element. -/
theorem allBuilt_new : new.AllBuilt := by
  intro i e he
  cases i with
  | zero => cases he
  | succ i => cases he

namespace AllBuilt

variable {t t' : Tree} (h : t.AllBuilt)
include h

/-- Only the data of nodes matter. -/
theorem of_data?_eq (hdata : ∀ i, t'.data? i = t.data? i) : t'.AllBuilt := by
  intro i e he
  rw [hdata] at he
  exact h i e he

/-- A new node may be an element that was built. -/
theorem create {d : NodeData} (hd : ∀ e, d = .element e → e.Built) : (t.create d).2.AllBuilt := by
  intro i e he
  rw [data?_create] at he
  split at he
  · exact hd e (Option.some.inj he)
  · exact h i e he

/-- The new data of a node may be an element that was built. -/
theorem modify_data (r : NodeRef) {d : NodeData} (hd : ∀ e, d = .element e → e.Built) :
    (t.modify r fun n => { n with data := d }).AllBuilt := by
  intro i e he
  rw [data?_modify_data] at he
  split at he
  · exact hd e (Option.some.inj he)
  · exact h i e he

/-- An element may be replaced by one that was built. -/
theorem putElement (r : NodeRef) {e : Element} (he : e.Built) : (t.putElement r e).AllBuilt :=
  h.modify_data r fun _ heq => NodeData.element.inj heq ▸ he

/-- Moving a node changes no data. -/
theorem appendChild {parent child : NodeRef} (ha : t.appendChild parent child = .ok t') :
    t'.AllBuilt := by
  obtain ⟨p, c, -, -, -, -, -, -, rfl⟩ := appendChild_eq_ok ha
  exact h.of_data?_eq fun i => by rw [data?_linkLast, data?_detach]

/-- Adding text changes no element. -/
theorem appendText {r : NodeRef} {s : String} (ha : t.appendText r s = .ok t') : t'.AllBuilt := by
  obtain ⟨i, e, -, -, ⟨l, old, -, -, rfl⟩ | ⟨-, rfl⟩⟩ := appendText_eq_ok ha
  · exact h.modify_data _ fun _ heq => nomatch heq
  · have hcreated : (t.create (.text s)).2.AllBuilt := h.create fun _ heq => nomatch heq
    exact hcreated.of_data?_eq fun i => by rw [grow, data?_linkLast]

/-- An element of the tree was built. -/
theorem built {r : NodeRef} {e : Element} (he : t.element? r = some e) : e.Built := by
  cases r with
  | none => cases he
  | some i => exact h i e (element?_eq_some_iff.mp he)

/-- An edit that is refused leaves the tree, and any other has to leave elements that were built. -/
private theorem getD {result : Option Tree} (hresult : ∀ t', result = some t' → t'.AllBuilt) :
    (result.getD t).AllBuilt := by
  cases result with
  | none => exact h
  | some t' => exact hresult t' rfl

/-- Every edit leaves elements that have come about by edits of elements. -/
theorem apply (edit : Edit) : (edit.apply t).AllBuilt := by
  -- an edit of an element is one of the ways in which elements are built; the others make no
  -- element
  cases edit with
  | createElement tag => exact h.create fun _ heq => NodeData.element.inj heq ▸ .ofTag tag
  | createText text => exact h.create fun _ heq => nomatch heq
  | createComment text => exact h.create fun _ heq => nomatch heq
  | appendChild parent child =>
    exact h.getD fun t' ht' => h.appendChild (eq_ok_of_toOption ht')
  | removeChild parent child =>
    refine h.getD fun t' ht' => ?_
    obtain ⟨c, -, -, rfl⟩ := removeChild_eq_ok (eq_ok_of_toOption ht')
    exact h.of_data?_eq fun i => by rw [data?_detach]
  | appendText node text =>
    exact h.getD fun t' ht' => h.appendText (eq_ok_of_toOption ht')
  | setAttribute node name value =>
    refine h.getD fun t' ht' => ?_
    obtain ⟨e, he, rfl⟩ := exists_of_map_requireElement (eq_ok_of_toOption ht')
    exact h.putElement node ((h.built he).setAttribute name value)
  | removeAttribute node name =>
    refine h.getD fun t' ht' => ?_
    simp only [removeAttribute?, Option.map_map, Option.map_eq_some_iff] at ht'
    obtain ⟨e, he, rfl⟩ := ht'
    exact h.putElement node ((h.built he).removeAttribute name)
  | addClass node token =>
    refine h.getD fun t' ht' => ?_
    obtain ⟨result, hresult, rfl⟩ := Option.map_eq_some_iff.mp ht'
    obtain ⟨e, he, rfl⟩ := exists_of_map_requireElement (eq_ok_of_toOption hresult)
    exact h.putElement node ((h.built he).addClass token)
  | removeClass node token =>
    refine h.getD fun t' ht' => ?_
    simp only [removeClass?, Option.map_map, Option.map_eq_some_iff] at ht'
    obtain ⟨e, he, rfl⟩ := ht'
    exact h.putElement node ((h.built he).removeClass token)

end AllBuilt

/-- Every element of a reachable tree has come about by edits of elements. -/
theorem Reachable.allBuilt {t : Tree} (h : t.Reachable) : t.AllBuilt := by
  obtain ⟨edits, rfl⟩ := h
  -- the edits are made from the first to the last, so the last one is the step
  induction edits using List.reverseRecOn with
  | nil => exact allBuilt_new
  | append_singleton edits edit ih =>
    rw [ofEdits, List.foldl_concat]
    exact ih.apply edit

/-- In a reachable tree, nothing is found under a name with a capital. -/
theorem Reachable.attribute?_eq_none {t : Tree} (h : t.Reachable) {query : String}
    (hquery : asciiLowercase query ≠ query) (r : NodeRef) : t.attribute? r query = none := by
  rw [attribute?, Option.bind_eq_none_iff]
  exact fun e he => (h.allBuilt.built he).attribute?_eq_none hquery

end Tree

end ClassSheet.Dom
