import ClassSheet.Dom.Serialize
import ClassSheet.Proofs.Dom.Preorder

/-! # Subtrees apart from their tree

A `Forest` holds what there is of nodes that stand beside each other and of all below them, without
numbers and links. `Tree.Shows roots f` says that the subtrees of a tree with the given roots are
those of the forest `f`. The HTML text of a forest goes by its branches (`Forest.html`), and what
`Tree.outerHtml` writes with the help of a list of what is still to be written is that text
(`Arranged.outerHtml_eq`). -/

namespace ClassSheet.Dom

/-! ### Forests -/

/-- Nodes that stand beside each other: the data of the first one, what is below it, and the other
    ones. -/
inductive Forest where
  | nil
  | cons (data : NodeData) (below rest : Forest)
deriving DecidableEq

/-- The number of nodes. -/
def Forest.size : Forest → Nat
  | nil => 0
  | cons _ below rest => 1 + below.size + rest.size

/-- Whether the texts right below a node are not escaped. -/
def NodeData.rawTexts : NodeData → Bool
  | element e => rawTextTags.contains e.tag
  | _ => false

/-- The HTML text of a node around the text of what is below it. -/
def NodeData.html (rawText : Bool) (inside : String) : NodeData → String
  | document => inside
  | text s => if rawText then s else escapedText s
  | comment s => "<!--" ++ s ++ "-->"
  | element e => if voidTags.contains e.tag then e.startTag else e.startTag ++ inside ++ e.endTag

/-- The HTML text of nodes, one after the other; their own texts are raw or escaped. -/
def Forest.html (rawTexts : Bool) : Forest → String
  | nil => ""
  | cons data below rest => data.html rawTexts (below.html data.rawTexts) ++ rest.html rawTexts

namespace Tree

/-- The subtrees with the given roots are those of a forest. -/
inductive Shows (t : Tree) : List Nat → Forest → Prop
  | nil : t.Shows [] .nil
  | cons {i : Nat} {roots : List Nat} {data : NodeData} {below rest : Forest} :
    t.data? i = some data → t.Shows (t.children (some i)) below → t.Shows roots rest →
      t.Shows (i :: roots) (.cons data below rest)

variable {t : Tree}

/-- Nodes in document order make a forest. -/
theorem Lists.exists_shows {roots nodes : List Nat} (h : t.Lists roots nodes)
    (hlt : ∀ b ∈ nodes, b < t.size) : ∃ f, t.Shows roots f := by
  induction h with
  | nil => exact ⟨.nil, .nil⟩
  | @cons i roots below rest _ _ ihbelow ihrest =>
    rw [List.forall_mem_cons, List.forall_mem_append] at hlt
    obtain ⟨hi, hbelow, hrest⟩ := hlt
    obtain ⟨data, hdata⟩ := Option.isSome_iff_exists.mp (data?_isSome_iff.mpr hi)
    obtain ⟨f, hf⟩ := ihbelow hbelow
    obtain ⟨g, hg⟩ := ihrest hrest
    exact ⟨.cons data f g, .cons hdata hf hg⟩

/-- The nodes of a forest have a document order. -/
theorem Shows.exists_lists {roots : List Nat} {f : Forest} (h : t.Shows roots f) :
    ∃ nodes, t.Lists roots nodes ∧ nodes.length = f.size ∧ ∀ b ∈ nodes, b < t.size := by
  induction h with
  | nil => exact ⟨[], .nil, rfl, fun _ hb => nomatch hb⟩
  | @cons i roots data below rest hdata _ _ ihbelow ihrest =>
    obtain ⟨xs, hxs, hxslen, hxslt⟩ := ihbelow
    obtain ⟨ys, hys, hyslen, hyslt⟩ := ihrest
    refine ⟨i :: (xs ++ ys), .cons hxs hys, ?_, ?_⟩
    · rw [List.length_cons, List.length_append, hxslen, hyslen, Forest.size]
      omega
    · rw [List.forall_mem_cons, List.forall_mem_append]
      exact ⟨lt_size_of_data? hdata, hxslt, hyslt⟩

namespace Arranged

variable {kids : Nat → List Nat} (h : t.Arranged kids)
include h

/-- Every node and what lies below it shows a forest. -/
theorem exists_shows {i : Nat} (hi : i < t.size) : ∃ f, t.Shows [i] f := by
  obtain ⟨nodes, hl⟩ := h.exists_lists [i]
  refine hl.exists_shows fun b hb => ?_
  obtain ⟨j, hj, hbj⟩ := (h.mem_lists hl).mp hb
  rw [List.mem_singleton] at hj
  subst hj
  exact lt_size_of_within hi hbj

/-- A subtree has no more nodes than the tree. -/
theorem size_le_of_shows {i : Nat} {f : Forest} (hs : t.Shows [i] f) : f.size ≤ t.size := by
  obtain ⟨nodes, hl, hlen, hlt⟩ := hs.exists_lists
  rw [← hlen]
  exact length_le_size (h.nodup_lists hl (List.pairwise_singleton _ i)) hlt

end Arranged

/-! ### Writing -/

/-- Nothing is written when nothing waits. -/
theorem write_nil (t : Tree) (fuel : Nat) (out : String) : t.write fuel [] out = out := by
  cases fuel <;> simp [write]

/-- With fuel for every node to be written and closed, the roots are written before whatever waits
    behind them, and the rest of the fuel is left. -/
def Writes (t : Tree) (roots : List Nat) (f : Forest) : Prop :=
  ∀ (rawTexts : Bool) (fuel : Nat) (rest : List Writing) (out : String), 2 * f.size ≤ fuel →
    ∃ left, fuel ≤ left + 2 * f.size ∧
      t.write fuel (roots.map (t.writingOf rawTexts) ++ rest) out =
        t.write left rest (out ++ f.html rawTexts)

/-- No nodes are written as the empty forest. -/
theorem writes_nil : t.Writes [] .nil := by
  intro rawTexts fuel rest out _
  refine ⟨fuel, Nat.le_refl _, ?_⟩
  rw [Forest.html, String.append_empty]
  rfl

/-- Only a text is written otherwise where the texts are raw. -/
theorem writingOf_eq_node {i : Nat} (h : t.text? (some i) = none) (rawTexts : Bool) :
    t.writingOf rawTexts i = .node i := by
  rw [text?] at h
  unfold writingOf
  rw [h]
  cases rawTexts <;> rfl

namespace Writes

variable {i : Nat} {below : Forest} (hbelow : t.Writes (t.children (some i)) below)
include hbelow

/-- One root is written with all below it. -/
theorem root {data : NodeData} (hdata : t.data? i = some data) (rawTexts : Bool) {fuel : Nat}
    (hf : 2 * (1 + below.size) ≤ fuel) (rest : List Writing) (out : String) :
    ∃ left, fuel ≤ left + 2 * (1 + below.size) ∧
      t.write fuel (t.writingOf rawTexts i :: rest) out =
        t.write left rest (out ++ data.html rawTexts (below.html data.rawTexts)) := by
  -- the root takes one item of the fuel, and an end tag will take another one
  obtain ⟨fuel, rfl⟩ := Nat.exists_eq_add_of_le' (show 1 ≤ fuel by omega)
  obtain ⟨node, hnode, hdata'⟩ := Option.map_eq_some_iff.mp hdata
  have hget : t.nodes[i]? = some node := hnode
  have htext : t.text? (some i) = node.text? := by rw [text?, hnode, Option.bind_some]
  obtain ⟨_, _, _, _, _, d⟩ := node
  obtain rfl : d = data := hdata'
  cases d with
  | document =>
    obtain ⟨left, hleft, hwrite⟩ := hbelow false fuel rest out (by omega)
    refine ⟨left, by omega, ?_⟩
    rw [writingOf_eq_node htext]
    simp only [write, hget]
    exact hwrite
  | text s =>
    refine ⟨fuel, by omega, ?_⟩
    cases rawTexts with
    | false =>
      simp only [writingOf, write, hget]
      rfl
    | true =>
      have hraw : t.writingOf true i = .raw s := by
        rw [text?] at htext
        unfold writingOf
        rw [htext]
        rfl
      rw [hraw]
      rfl
  | comment s =>
    refine ⟨fuel, by omega, ?_⟩
    rw [writingOf_eq_node htext]
    simp only [write, hget, NodeData.html, String.append_assoc]
  | element e =>
    rw [writingOf_eq_node htext]
    simp only [write, hget, NodeData.html]
    by_cases hvoid : voidTags.contains e.tag = true
    · exact ⟨fuel, by omega, by rw [if_pos hvoid, if_pos hvoid]⟩
    · -- what is below is written, then the end tag that has waited behind it
      obtain ⟨left, hleft, hwrite⟩ := hbelow (rawTextTags.contains e.tag) fuel
        (.close e :: rest) (out ++ e.startTag) (by omega)
      obtain ⟨left, rfl⟩ := Nat.exists_eq_add_of_le' (show 1 ≤ left by omega)
      refine ⟨left, by omega, ?_⟩
      rw [if_neg hvoid, if_neg hvoid, hwrite, write, NodeData.rawTexts]
      simp only [String.append_assoc]

/-- A first root in front of the others. -/
theorem cons {roots : List Nat} {data : NodeData} {rest : Forest} (hdata : t.data? i = some data)
    (hrest : t.Writes roots rest) : t.Writes (i :: roots) (.cons data below rest) := by
  intro rawTexts fuel waiting out hf
  rw [Forest.size] at hf ⊢
  have hfirst : 2 * (1 + below.size) ≤ fuel := by omega
  obtain ⟨mid, hmid, hroot⟩ := hbelow.root hdata rawTexts hfirst
    (roots.map (t.writingOf rawTexts) ++ waiting) out
  obtain ⟨left, hleft, hwrite⟩ := hrest rawTexts mid waiting
    (out ++ data.html rawTexts (below.html data.rawTexts)) (by omega)
  refine ⟨left, by omega, ?_⟩
  rw [List.map_cons, List.cons_append, hroot, hwrite, Forest.html, String.append_assoc]

end Writes

/-- Whatever a forest shows is written as the forest is. -/
theorem Shows.writes {roots : List Nat} {f : Forest} (h : t.Shows roots f) : t.Writes roots f := by
  induction h with
  | nil => exact writes_nil
  | cons hdata _ _ ihbelow ihrest => exact ihbelow.cons hdata ihrest

/-- The HTML text of a node is that of its subtree. -/
theorem Arranged.outerHtml_eq {kids : Nat → List Nat} (h : t.Arranged kids) {i : Nat} {f : Forest}
    (hs : t.Shows [i] f) : t.outerHtml (some i) = f.html false := by
  have hsize := h.size_le_of_shows hs
  obtain ⟨left, -, hwrite⟩ := hs.writes false (2 * t.size + 1) [] "" (by omega)
  rw [t.write_nil, String.empty_append] at hwrite
  exact hwrite

end Tree

end ClassSheet.Dom
