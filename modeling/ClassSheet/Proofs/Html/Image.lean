import ClassSheet.Proofs.Dom.ClassAttribute
import ClassSheet.Proofs.Dom.Growth
import ClassSheet.Proofs.Html.Load

/-! # The tree that markup stands for

`forestOf` goes along the nesting of markup and says which nodes it stands for. A document comes
about otherwise, one node at a time from a list of what waits, but it shows the same forest, with
its nodes numbered in document order (`documentOf_shows`). `Becomes` says what comes of the pieces
that wait in front, whatever waits behind them: there is one lemma for each kind of piece, and
`becomes_forestOf` puts them together along the nesting. -/

namespace ClassSheet.Html

open ClassSheet.Dom ClassSheet.Text

/-! ### What markup stands for -/

/-- The names of attributes in lower case, each where it comes first. -/
def attributeNames (attributes : Attributes) : List String :=
  (attributes.map fun a => asciiLowercase a.1).eraseDups

/-- The last value for a name in lower case. -/
def lastValue? (attributes : Attributes) (name : String) : Option String :=
  (attributes.reverse.find? fun a => asciiLowercase a.1 == name).map (·.2)

/-- The element that a tag with attributes stands for. -/
def elementOf (tag : String) (attributes : Attributes) : Element where
  tag := asciiLowercase tag
  attributes := (attributeNames attributes).map fun name =>
    ⟨name, (lastValue? attributes name).getD ""⟩
  classes := .ofValue ((lastValue? attributes "class").getD "")

mutual

/-- What a piece of markup stands for, in front of other nodes: nothing, or one more of them. -/
def Markup.forest : Markup → Forest → Forest
  | .doctype, rest | .instruction, rest => rest
  | .text s, rest => if isBlankText s then rest else .cons (.text s) .nil rest
  | .comment s, rest => .cons (.comment s) .nil rest
  | .element tag attributes children, rest =>
    .cons (.element (elementOf tag attributes)) (forestOf children) rest

/-- The nodes that markup stands for. -/
def forestOf : List Markup → Forest
  | [] => .nil
  | m :: ms => m.forest (forestOf ms)

end

/-! ### Elements -/

/-- An element with attributes set, one after the other. -/
def setAll (e : Element) (attributes : Attributes) : Element :=
  attributes.foldl (fun e a => e.setAttribute a.1 a.2) e

/-- The last attribute is set last. -/
theorem setAll_concat (e : Element) (attributes : Attributes) (a : String × String) :
    setAll e (attributes ++ [a]) = (setAll e attributes).setAttribute a.1 a.2 :=
  List.foldl_concat ..

/-- Setting attributes builds an element. -/
theorem built_setAll (tag : String) (attributes : Attributes) :
    (setAll (.ofTag tag) attributes).Built := by
  induction attributes using List.reverseRecOn with
  | nil => exact .ofTag tag
  | append_singleton attributes a ih =>
    rw [setAll_concat]
    exact ih.setAttribute a.1 a.2

/-- Setting attributes keeps the tag. -/
theorem tag_setAll (e : Element) (attributes : Attributes) :
    (setAll e attributes).tag = e.tag := by
  induction attributes using List.reverseRecOn with
  | nil => rfl
  | append_singleton attributes a ih =>
    rw [setAll_concat]
    exact ih

/-- The value that is set last is found. -/
theorem attribute?_setAll (tag : String) (attributes : Attributes) (name : String) :
    (setAll (.ofTag tag) attributes).attribute? name = lastValue? attributes name := by
  induction attributes using List.reverseRecOn with
  | nil => rfl
  | append_singleton attributes a ih =>
    rw [setAll_concat, Element.attribute?_setAttribute, ih, lastValue?, lastValue?,
      List.reverse_concat, List.find?_cons]
    by_cases hname : name = asciiLowercase a.1
    · simp [hname]
    · have hpassed : (asciiLowercase a.1 == name) = false := beq_false_of_ne (Ne.symm hname)
      rw [if_neg hname, hpassed]

/-- A name comes to the end when it is set for the first time, and stays where it is after that. -/
theorem map_name_setAll (tag : String) (attributes : Attributes) :
    (setAll (.ofTag tag) attributes).attributes.map (·.name) = attributeNames attributes := by
  induction attributes using List.reverseRecOn with
  | nil => rfl
  | append_singleton attributes a ih =>
    rw [setAll_concat, Element.setAttribute, Element.map_name_putAttribute, ih, attributeNames,
      attributeNames, List.map_append, List.eraseDups_append]
    -- both sides ask whether the name has come before
    by_cases hmem : asciiLowercase a.1 ∈ attributes.map fun a => asciiLowercase a.1
    · rw [if_pos (List.mem_eraseDups.mpr hmem)]
      simp [List.removeAll, List.mem_map.mp hmem]
    · rw [if_neg (mt List.mem_eraseDups.mp hmem)]
      simp [List.removeAll, hmem, List.eraseDups_cons]

/-- Setting the attributes of a tag one after the other makes the element that it stands for. -/
theorem setAll_ofTag (tag : String) (attributes : Attributes) :
    setAll (.ofTag tag) attributes = elementOf tag attributes := by
  have hbuilt := built_setAll tag attributes
  have htag : (setAll (.ofTag tag) attributes).tag = asciiLowercase tag := tag_setAll _ attributes
  have hattributes : (setAll (.ofTag tag) attributes).attributes =
      (attributeNames attributes).map fun name =>
        ⟨name, (lastValue? attributes name).getD ""⟩ := by
    rw [Element.attributes_eq_map hbuilt.nodup_names, map_name_setAll]
    exact List.map_congr_left fun name _ => by
      rw [← attribute?_setAll tag attributes name, Element.attribute?]
  have hclasses : (setAll (.ofTag tag) attributes).classes =
      .ofValue ((lastValue? attributes "class").getD "") := by
    rw [hbuilt.inStep, attribute?_setAll]
  rw [elementOf, ← htag, ← hattributes, ← hclasses]

/-! ### Single nodes -/

variable {t : Tree} {kids : Nat → List Nat} {p : Nat}

/-- The attributes that are set on a new element might have been there from the beginning. -/
theorem foldlM_setAttribute_create (t : Tree) (e : Element) (attributes : Attributes) :
    attributes.foldlM (fun t' a => t'.setAttribute (some t.size) a.1 a.2)
      (t.create (.element e)).2 = .ok (t.create (.element (setAll e attributes))).2 := by
  induction attributes generalizing e with
  | nil => rfl
  | cons a attributes ih =>
    rw [List.foldlM_cons, Tree.setAttribute_create]
    exact ih (e.setAttribute a.1 a.2)

/-- A leaf that is added is a new node below its parent. -/
theorem addLeaf_eq_grow (h : t.Arranged kids) (hp : t.mayHaveChildren p = true) (d : NodeData) :
    addLeaf t (some p) d = .ok (t.grow p d) :=
  h.appendChild_create hp d

/-- An element that is added, with all its attributes, is a new node below its parent. -/
theorem addElement_eq_grow (h : t.Arranged kids) (hp : t.mayHaveChildren p = true) (tag : String)
    (attributes : Attributes) :
    addElement t (some p) tag attributes =
      .ok (some t.size, t.grow p (.element (elementOf tag attributes))) := by
  have hset := foldlM_setAttribute_create t (.ofTag tag) attributes
  have happend := h.appendChild_create hp (.element (elementOf tag attributes))
  rw [setAll_ofTag] at hset
  unfold addElement
  simp only [Tree.createElement]
  rw [show (t.create (.element (.ofTag tag))).1 = some t.size from rfl, hset]
  simp only [bind, Except.bind, happend]
  rfl

/-! ### Everything that waits -/

/-- Pieces that wait in front become the nodes of a forest, whatever waits behind them. -/
def Becomes (ms : List Markup) (f : Forest) : Prop :=
  ∀ (t : Tree) (p : Nat) (waiting : Waiting), t.Reachable → t.mayHaveChildren p = true →
    ∃ t', t'.Reachable ∧ t.Added p f t' ∧
      addWaiting t ((some p, ms) :: waiting) = addWaiting t' waiting

namespace Becomes

/-- No tokens become the empty forest. -/
theorem nil : Becomes [] .nil := by
  intro t p waiting h hp
  refine ⟨t, h, .nil t p, ?_⟩
  rw [addWaiting]

variable {ms : List Markup} {rest : Forest} (hrest : Becomes ms rest)
include hrest

/-- A piece that is left out. -/
theorem skip {m : Markup}
    (hskip : ∀ (t : Tree) (r : NodeRef) (waiting : Waiting),
      addWaiting t ((r, m :: ms) :: waiting) = addWaiting t ((r, ms) :: waiting)) :
    Becomes (m :: ms) rest := by
  intro t p waiting h hp
  rw [hskip]
  exact hrest t p waiting h hp

/-- A text or a comment. -/
theorem leaf {m : Markup} {d : NodeData}
    (hadd : ∀ (t : Tree) (r : NodeRef) (waiting : Waiting),
      addWaiting t ((r, m :: ms) :: waiting) =
        (addLeaf t r d).bind fun t => addWaiting t ((r, ms) :: waiting))
    (hreach : ∀ (t t' : Tree) (r : NodeRef), t.Reachable → addLeaf t r d = .ok t' →
      t'.Reachable) : Becomes (m :: ms) (.cons d .nil rest) := by
  intro t p waiting h hp
  have hleaf := addLeaf_eq_grow h.arranged hp d
  have hmay := (h.arranged.added_leaf hp d).mayHaveChildren hp
  obtain ⟨t', h', hadded, hrun⟩ := hrest (t.grow p d) p waiting (hreach _ _ _ h hleaf) hmay
  refine ⟨t', h', h.arranged.added_cons hp (.nil _ _) hadded, ?_⟩
  rw [hadd, hleaf]
  exact hrun

/-- An element: its children wait in front of what follows it. -/
theorem element {children : List Markup} {below : Forest} (hbelow : Becomes children below)
    (tag : String) (attributes : Attributes) :
    Becomes (.element tag attributes children :: ms)
      (.cons (.element (elementOf tag attributes)) below rest) := by
  intro t p waiting h hp
  -- the element is added, then its children below it, then what follows behind it
  have helement := addElement_eq_grow h.arranged hp tag attributes
  have hnew := h.arranged.added_leaf hp (.element (elementOf tag attributes))
  have hself : (t.grow p (.element (elementOf tag attributes))).mayHaveChildren t.size = true := by
    rw [Tree.mayHaveChildren_iff, Tree.data?_grow, if_pos rfl]
    exact Or.inr ⟨_, rfl⟩
  obtain ⟨t₁, h₁, hadded₁, hrun₁⟩ := hbelow (t.grow p (.element (elementOf tag attributes))) t.size
    ((some p, ms) :: waiting) (reachable_addElement h helement) hself
  obtain ⟨t₂, h₂, hadded₂, hrun₂⟩ := hrest t₁ p waiting h₁
    (hadded₁.mayHaveChildren (hnew.mayHaveChildren hp))
  refine ⟨t₂, h₂, h.arranged.added_cons hp hadded₁ hadded₂, ?_⟩
  rw [addWaiting, helement, ← hrun₂]
  exact hrun₁

end Becomes

mutual

/-- A piece becomes what it stands for, in front of what the others become. -/
theorem Becomes.cons (m : Markup) {ms : List Markup} {rest : Forest} (hrest : Becomes ms rest) :
    Becomes (m :: ms) (m.forest rest) := by
  cases m with
  | doctype | instruction =>
    rw [Markup.forest]
    refine hrest.skip fun t r waiting => ?_
    rw [addWaiting]
  | text s =>
    by_cases hblank : isBlankText s = true
    · rw [Markup.forest, if_pos hblank]
      refine hrest.skip fun t r waiting => ?_
      rw [addWaiting, if_pos hblank]
    · rw [Markup.forest, if_neg hblank]
      refine hrest.leaf (fun t r waiting => ?_) fun _ _ _ => reachable_addLeaf (.createText s) rfl
      rw [addWaiting, if_neg hblank]
      rfl
  | comment s =>
    rw [Markup.forest]
    refine hrest.leaf (fun t r waiting => ?_) fun _ _ _ => reachable_addLeaf (.createComment s) rfl
    rw [addWaiting]
    rfl
  | element tag attributes children =>
    rw [Markup.forest]
    exact hrest.element (becomes_forestOf children) tag attributes

/-- All markup becomes the nodes that it stands for. -/
theorem becomes_forestOf (ms : List Markup) : Becomes ms (forestOf ms) := by
  cases ms with
  | nil =>
    rw [forestOf]
    exact .nil
  | cons m ms =>
    rw [forestOf]
    exact (becomes_forestOf ms).cons m

end

/-! ### Whole documents -/

/-- Markup always becomes a document. Its tree shows the nodes that the markup stands for, and their
    numbers go up in document order. -/
theorem documentOf_shows (markup : List Markup) :
    ∃ t, addWaiting .new [(Tree.root, markup)] = .ok t ∧
      documentOf markup = .ok { Document.empty with tree := t }.locate ∧ t.Reachable ∧
      t.Shows [0] (.cons .document (forestOf markup) .nil) ∧
      t.descendants Tree.root = List.range' 1 (t.size - 1) := by
  have hnew : Tree.new.Reachable := ⟨[], rfl⟩
  obtain ⟨t, h, hadded, hrun⟩ := becomes_forestOf markup .new 0 [] hnew rfl
  obtain ⟨roots, hchildren, hshows, hlists⟩ := hadded.children
  have hroots : t.children (some 0) = roots := hchildren
  -- the document node waits alone, so nothing is left when its children are loaded
  have hload : addWaiting .new [(Tree.root, markup)] = .ok t := by
    rw [Tree.root, hrun, addWaiting]
  refine ⟨t, hload, ?_, h, ?_, ?_⟩
  · rw [documentOf, hload]
    rfl
  · have hdata : t.data? 0 = some .document := hadded.data? 0 Nat.one_pos
    exact .cons hdata (hroots ▸ hshows) .nil
  · -- both lists are the nodes below the root in document order
    have horder := h.arranged.lists_descendants 0
    rw [hroots] at horder
    have hsize : t.size - 1 = (forestOf markup).size := by
      rw [hadded.size]
      exact Nat.add_sub_cancel_left ..
    rw [hsize]
    exact horder.unique hlists

example :
    forestOf [.doctype, .element "DIV" [("ID", "a"), ("title", "t"), ("id", "b")]
        [.text " ", .text "x"], .comment "end"] =
      .cons (.element ⟨"div", [⟨"id", "b"⟩, ⟨"title", "t"⟩], .empty⟩)
        (.cons (.text "x") .nil .nil) (.cons (.comment "end") .nil .nil) := by
  cbv

end ClassSheet.Html
