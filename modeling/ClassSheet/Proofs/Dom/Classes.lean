import ClassSheet.Proofs.Dom.Edits

/-! # Adding classes

`Tree.addClasses` adds classes to many nodes at once. It is the effect of any number of single
additions, in whatever order the nodes are visited (`addClasses_addClasses`), and it changes the
class lists of elements and their `class` attributes but nothing else. -/

namespace ClassSheet.Dom

/-! ### Class lists -/

namespace ClassList

/-- The list with tokens added, one after the other. -/
def addAll (l : ClassList) (tokens : List String) : ClassList :=
  tokens.foldl (fun l token => (l.add token).2) l

/-- Tokens may be added in two goes. -/
theorem addAll_append (l : ClassList) (xs ys : List String) :
    l.addAll (xs ++ ys) = (l.addAll xs).addAll ys := List.foldl_append ..

/-- Added tokens come behind those of the list. -/
theorem tokens_prefix_addAll (l : ClassList) (tokens : List String) :
    l.tokens <+: (l.addAll tokens).tokens := by
  induction tokens using List.reverseRecOn with
  | nil => exact List.prefix_refl _
  | append_singleton xs x ih =>
    rw [addAll_append]
    refine ih.trans ?_
    simp only [addAll, List.foldl_cons, List.foldl_nil, add]
    split
    · exact List.prefix_append ..
    · exact List.prefix_refl _

/-- The list then has its own tokens and those that were added, as far as they are tokens. -/
theorem mem_tokens_addAll {l : ClassList} {tokens : List String} {x : String} :
    x ∈ (l.addAll tokens).tokens ↔ x ∈ l.tokens ∨ x ∈ tokens ∧ isToken x = true := by
  induction tokens using List.reverseRecOn with
  | nil => simp [addAll]
  | append_singleton xs y ih =>
    rw [addAll_append]
    simp only [addAll, List.foldl_cons, List.foldl_nil] at ih ⊢
    rw [mem_tokens_add, ih, List.mem_append, List.mem_singleton]
    constructor
    · rintro ((h | ⟨h, ht⟩) | ⟨rfl, ht⟩)
      · exact Or.inl h
      · exact Or.inr ⟨Or.inl h, ht⟩
      · exact Or.inr ⟨Or.inr rfl, ht⟩
    · rintro (h | ⟨h | rfl, ht⟩)
      · exact Or.inl (Or.inl h)
      · exact Or.inl (Or.inr ⟨h, ht⟩)
      · exact Or.inr ⟨rfl, ht⟩

/-- A token that changes a list makes it longer. -/
theorem length_lt_of_add {l l' : ClassList} {token : String} (h : l.add token = (true, l')) :
    l.tokens.length < l'.tokens.length := by
  unfold add at h
  split at h
  · obtain rfl := (Prod.mk.inj h).2
    simp
  · exact nomatch (Prod.mk.inj h).1

end ClassList

/-! ### Elements -/

namespace Element

/-- The element with classes added, one after the other. -/
def addClasses (e : Element) (names : List String) : Element :=
  names.foldl (fun e name => (e.addClass name).2) e

/-- The first class is added first. -/
theorem addClasses_cons (e : Element) (name : String) (names : List String) :
    e.addClasses (name :: names) = (e.addClass name).2.addClasses names := rfl

/-- Classes may be added in two goes. -/
theorem addClasses_append (e : Element) (xs ys : List String) :
    e.addClasses (xs ++ ys) = (e.addClasses xs).addClasses ys := List.foldl_append ..

/-- Adding a class keeps the tag. -/
@[simp] theorem tag_addClass (e : Element) (name : String) : (e.addClass name).2.tag = e.tag := by
  unfold addClass
  split <;> rfl

/-- The class list has the class added, whether it was there or not. -/
theorem classes_addClass (e : Element) (name : String) :
    (e.addClass name).2.classes = (e.classes.add name).2 := by
  unfold addClass
  split
  · next h => rw [h]; rfl
  · next l h =>
    rw [h]
    unfold ClassList.add at h
    split at h
    · exact nomatch (Prod.mk.inj h).1
    · exact (Prod.mk.inj h).2

/-- Adding classes keeps the tag. -/
@[simp] theorem tag_addClasses (e : Element) (names : List String) :
    (e.addClasses names).tag = e.tag := by
  induction names generalizing e with
  | nil => rfl
  | cons name names ih => rw [addClasses_cons, ih, tag_addClass]

/-- Adding classes that an element has changes nothing. -/
theorem addClasses_of_mem {e : Element} {names : List String}
    (h : ∀ name ∈ names, ClassList.isToken name = true → name ∈ e.classes.tokens) :
    e.addClasses names = e := by
  induction names with
  | nil => rfl
  | cons name names ih =>
    -- the first class is in the list already
    have hadd : e.classes.add name = (false, e.classes) := by
      rw [ClassList.add, if_neg]
      intro hnew
      rw [Bool.and_eq_true, Bool.not_eq_eq_eq_not, Bool.not_true, ClassList.contains] at hnew
      have hmem := h name List.mem_cons_self hnew.1
      rw [← List.contains_iff_mem, hnew.2] at hmem
      exact Bool.false_ne_true hmem
    have hname : (e.addClass name).2 = e := by rw [addClass, hadd]
    rw [addClasses_cons, hname]
    exact ih fun x hx => h x (List.mem_cons_of_mem _ hx)

/-- The class list has the classes added, one after the other. -/
theorem classes_addClasses (e : Element) (names : List String) :
    (e.addClasses names).classes = e.classes.addAll names := by
  induction names generalizing e with
  | nil => rfl
  | cons name names ih =>
    rw [addClasses_cons, ih, classes_addClass]
    rfl

/-- An attribute that is put twice has the last value. -/
theorem putAttribute_putAttribute (name v w : String) (as : List Attribute) :
    putAttribute name w (putAttribute name v as) = putAttribute name w as := by
  induction as with
  | nil => simp [putAttribute]
  | cons a as ih =>
    by_cases h : a.name = name <;> simp [putAttribute, h, ih]

/-- The `class` attribute follows the class list as soon as a class is new. -/
theorem attributes_addClasses (e : Element) (names : List String) :
    (e.addClasses names).attributes =
      if (e.addClasses names).classes = e.classes then e.attributes
      else putAttribute "class" (e.addClasses names).classes.value e.attributes := by
  -- the last class is the step, as the attribute follows the list of that moment
  induction names using List.reverseRecOn with
  | nil => simp [addClasses]
  | append_singleton names name ih =>
    have hlast : e.addClasses (names ++ [name]) = ((e.addClasses names).addClass name).2 := by
      rw [addClasses_append]
      rfl
    rw [hlast]
    generalize hx : e.addClasses names = x at ih
    unfold addClass
    -- a class that is there changes nothing, and a new one sets the attribute once more
    cases hadd : x.classes.add name with
    | mk added classes =>
      cases added with
      | false => exact ih
      | true =>
        -- the list has become longer, so it is not the first one
        have hlen := ClassList.length_lt_of_add hadd
        have hpre : e.classes.tokens.length ≤ x.classes.tokens.length := by
          rw [← hx, classes_addClasses]
          exact (ClassList.tokens_prefix_addAll ..).length_le
        have hne : classes ≠ e.classes := by
          rintro rfl
          omega
        simp only [withClasses, hne, if_false]
        rw [ih]
        split
        · rfl
        · exact putAttribute_putAttribute ..

end Element

/-! ### Trees -/

/-- The data of a node with classes added; only an element has any. -/
def NodeData.addClasses (names : List String) : NodeData → NodeData
  | element e => element (e.addClasses names)
  | data => data

namespace Tree

/-- The tree with the classes `added i` added to each node `i`. -/
def addClasses (t : Tree) (added : Nat → List String) : Tree :=
  ⟨t.nodes.mapIdx fun i n => { n with data := n.data.addClasses (added i) }⟩

/-- `addClasses` changes the data of each node. -/
theorem get?_addClasses (t : Tree) (added : Nat → List String) (i : Nat) :
    (t.addClasses added).get? (some i) =
      (t.get? (some i)).map fun n => { n with data := n.data.addClasses (added i) } := by
  simp [addClasses, get?, Array.getElem?_mapIdx]

/-- `addClasses` adds no node. -/
@[simp] theorem size_addClasses (t : Tree) (added : Nat → List String) :
    (t.addClasses added).size = t.size := by
  simp [addClasses, size]

/-- Trees with the same nodes are the same. -/
theorem ext_get? {t t' : Tree} (h : ∀ i, t.get? (some i) = t'.get? (some i)) : t = t' := by
  cases t
  cases t'
  congr
  exact Array.ext_getElem? h

/-- `addClasses` changes no link. -/
theorem link_addClasses {f : Node → NodeRef} (hf : ∀ n d, f { n with data := d } = f n) (t : Tree)
    (added : Nat → List String) (i : Nat) : (t.addClasses added).link f i = t.link f i := by
  unfold link
  rw [get?_addClasses, Option.bind_map]
  exact congrArg _ (funext fun n => hf n _)

/-- The data of a node have the classes for that node added. -/
theorem data?_addClasses (t : Tree) (added : Nat → List String) (i : Nat) :
    (t.addClasses added).data? i = (t.data? i).map (·.addClasses (added i)) := by
  unfold data?
  rw [get?_addClasses, Option.map_map, Option.map_map]
  rfl

/-- An element has the classes for its node added. -/
theorem element?_addClasses (t : Tree) (added : Nat → List String) (i : Nat) :
    (t.addClasses added).element? (some i) =
      (t.element? (some i)).map (·.addClasses (added i)) := by
  rw [element?_eq_data?, element?_eq_data?, data?_addClasses]
  cases t.data? i with
  | none => rfl
  | some d => cases d <;> rfl

/-- A node to which no class is added stays as it is. -/
theorem get?_addClasses_of_eq_nil (t : Tree) {added : Nat → List String} {i : Nat}
    (h : added i = []) : (t.addClasses added).get? (some i) = t.get? (some i) := by
  rw [get?_addClasses, h]
  cases t.get? (some i) with
  | none => rfl
  | some n =>
    obtain ⟨_, _, _, _, _, d⟩ := n
    cases d <;> rfl

/-- The node of an element keeps its links when classes are added. -/
theorem get?_addClasses_self {t : Tree} {i : Nat} {e : Element} (he : t.element? (some i) = some e)
    (added : Nat → List String) :
    (t.addClasses added).get? (some i) = (t.get? (some i)).map fun n =>
      { n with data := .element (e.addClasses (added i)) } := by
  obtain ⟨n, hn, hne⟩ := Option.bind_eq_some_iff.mp he
  rw [get?_addClasses, hn]
  obtain ⟨_, _, _, _, _, d⟩ := n
  cases d with
  | element e' =>
    obtain rfl := Option.some.inj hne
    rfl
  | _ => cases hne

/-- Adding no class changes nothing. -/
theorem addClasses_nil (t : Tree) : t.addClasses (fun _ => []) = t :=
  ext_get? fun _ => t.get?_addClasses_of_eq_nil rfl

/-- Adding classes that the elements have changes nothing. -/
theorem addClasses_of_mem {t : Tree} {added : Nat → List String}
    (h : ∀ i e, t.element? (some i) = some e →
      ∀ name ∈ added i, ClassList.isToken name = true → name ∈ e.classes.tokens) :
    t.addClasses added = t := by
  refine ext_get? fun i => ?_
  rw [get?_addClasses]
  cases hn : t.get? (some i) with
  | none => rfl
  | some n =>
    obtain ⟨_, _, _, _, _, d⟩ := n
    cases d with
    | element e =>
      have he : t.element? (some i) = some e := by
        rw [element?, hn]
        rfl
      rw [Option.map_some, NodeData.addClasses, Element.addClasses_of_mem (h i e he)]
    | _ => rfl

/-- Classes that are added in two goes may be added in one. -/
theorem addClasses_addClasses (t : Tree) (a b : Nat → List String) :
    (t.addClasses a).addClasses b = t.addClasses fun i => a i ++ b i := by
  refine ext_get? fun i => ?_
  rw [get?_addClasses, get?_addClasses, get?_addClasses, Option.map_map]
  refine congrArg (Option.map · _) (funext fun n => ?_)
  obtain ⟨_, _, _, _, _, d⟩ := n
  cases d with
  | element e => simp only [Function.comp, NodeData.addClasses, Element.addClasses_append]
  | _ => rfl

/-- A class that is added to one element is added to a tree. -/
theorem addClass_eq {t : Tree} {i : Nat} {e : Element} (he : t.element? (some i) = some e)
    (name : String) :
    ∃ isNew, t.addClass (some i) name =
      .ok (isNew, t.addClasses fun j => if j = i then [name] else []) := by
  refine ⟨(e.addClass name).1, ?_⟩
  rw [addClass, requireElement_eq_ok_iff.mpr he]
  refine congrArg (fun t' => Except.ok (_, t')) (ext_get? fun j => ?_)
  rw [putElement, get?_modify]
  by_cases hj : j = i
  · -- the node at `i` is an element, so its data are replaced by those of the larger element
    subst hj
    rw [if_pos rfl, get?_addClasses_self he, if_pos rfl]
    rfl
  · -- at any other node no class is added
    rw [if_neg (fun h => hj (Option.some.inj h).symm), get?_addClasses_of_eq_nil t (if_neg hj)]

/-! ### What classes have no part in -/

/-- A node is refused for the same reason as before. -/
theorem requireElement_addClasses (t : Tree) (added : Nat → List String) (i : Nat) :
    (t.addClasses added).requireElement (some i) =
      (t.requireElement (some i)).map (·.addClasses (added i)) := by
  unfold requireElement
  rw [get?_addClasses]
  cases t.get? (some i) with
  | none => rfl
  | some n =>
    obtain ⟨_, _, _, _, _, d⟩ := n
    cases d <;> rfl

/-- Parents stay. -/
@[simp] theorem parent_addClasses (t : Tree) (added : Nat → List String) (r : NodeRef) :
    (t.addClasses added).parent r = t.parent r := by
  cases r with
  | none => rfl
  | some i => exact link_addClasses (f := (·.parent)) (fun _ _ => rfl) t added i

/-- Tags stay. -/
@[simp] theorem tag?_addClasses (t : Tree) (added : Nat → List String) (r : NodeRef) :
    (t.addClasses added).tag? r = t.tag? r := by
  cases r with
  | none => rfl
  | some i =>
    unfold tag?
    rw [element?_addClasses, Option.map_map]
    exact congrArg (Option.map · _) (funext fun e => e.tag_addClasses _)

/-- The elements are the nodes with a tag. -/
theorem isElement_eq_tag? (t : Tree) (r : NodeRef) : t.isElement r = (t.tag? r).isSome := by
  rw [isElement, tag?, Option.isSome_map]

/-- Parents that are elements stay. -/
@[simp] theorem parentElement_addClasses (t : Tree) (added : Nat → List String) (r : NodeRef) :
    (t.addClasses added).parentElement r = t.parentElement r := by
  unfold parentElement
  rw [parent_addClasses, isElement_eq_tag?, isElement_eq_tag?, tag?_addClasses]

/-- A walk upwards meets the same nodes. -/
private theorem meets_addClasses (t : Tree) (added : Nat → List String) (ancestor fuel : Nat)
    (r : NodeRef) : (t.addClasses added).meets ancestor fuel r = t.meets ancestor fuel r := by
  induction fuel generalizing r with
  | zero => rfl
  | succ fuel ih =>
    cases r with
    | none => rfl
    | some i => rw [meets, meets, parent_addClasses, ih]

/-- Nodes are connected as before. -/
@[simp] theorem isConnected_addClasses (t : Tree) (added : Nat → List String) (r : NodeRef) :
    (t.addClasses added).isConnected r = t.isConnected r := by
  unfold isConnected isInclusiveAncestor
  rw [size_addClasses, meets_addClasses]
  cases r with
  | none => rfl
  | some i => rw [get?_addClasses, Option.isSome_map]

/-- Classes have no part in the lists of children. -/
theorem Arranged.addClasses {t : Tree} {kids : Nat → List Nat} (h : t.Arranged kids)
    (added : Nat → List String) : (t.addClasses added).Arranged kids := by
  refine h.congr (fun f hf => ?_) (fun i hi => ?_) ?_
  · exact link_addClasses (Node.link_with_data hf) t added
  · unfold Tree.mayHaveChildren at hi ⊢
    rw [get?_addClasses, Option.any_map]
    refine Eq.trans (congrArg (Option.any · _) (funext fun n => ?_)) hi
    obtain ⟨_, _, _, _, _, d⟩ := n
    cases d <;> rfl
  · rw [data?_addClasses, h.root_data]
    rfl

end Tree

end ClassSheet.Dom
