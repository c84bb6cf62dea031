import ClassSheet.Proofs.Dom.Forest
import ClassSheet.Proofs.Dom.Reachable

/-! # The HTML text by recursion

`Tree.outerHtml` writes a subtree in a loop, with a list of what is still to be written. The
equations of `Tree.IsHtml` say what the text is by recursion instead. In a reachable tree the loop
gives the only texts that solve them, and its bound never cuts it short
(`Reachable.isHtml_iff_and_write`). -/

namespace ClassSheet.Dom

/-- A void element is written as its start tag. -/
theorem NodeData.html_of_mem_voidTags {e : Element} (h : e.tag ∈ voidTags) (rawText : Bool)
    (inside : String) : (element e).html rawText inside = e.startTag :=
  if_pos (List.contains_iff_mem.mpr h)

/-- Any other element is written as its start tag, what is inside, and its end tag. -/
theorem NodeData.html_of_not_mem_voidTags {e : Element} (h : e.tag ∉ voidTags) (rawText : Bool)
    (inside : String) : (element e).html rawText inside = e.startTag ++ inside ++ e.endTag :=
  if_neg (mt List.contains_iff_mem.mp h)

namespace Tree

/-! ### The recursive text -/

/-- A child as it is shown below a node: the texts right below some elements are not escaped. -/
def childHtml (t : Tree) (html : NodeRef → String) (rawTexts : Bool) (c : Nat) : String :=
  match t.data? c with
  | some (.text s) => if rawTexts then s else html (some c)
  | _ => html (some c)

/-- The HTML texts of all references, by recursion over the tree. -/
structure IsHtml (t : Tree) (html : NodeRef → String) : Prop where
  unknown : ∀ r, t.get? r = none → html r = ""
  document : ∀ i, t.data? i = some .document →
    html (some i) = String.join ((t.children (some i)).map fun c => html (some c))
  /-- An element without content is a start tag, whatever is below it. -/
  void : ∀ i e, t.data? i = some (.element e) → e.tag ∈ voidTags → html (some i) = e.startTag
  element : ∀ i e, t.data? i = some (.element e) → e.tag ∉ voidTags →
    html (some i) = e.startTag ++
      String.join ((t.children (some i)).map (t.childHtml html (rawTextTags.contains e.tag))) ++
      e.endTag
  text : ∀ i s, t.data? i = some (.text s) → html (some i) = escapedText s
  comment : ∀ i s, t.data? i = some (.comment s) → html (some i) = "<!--" ++ s ++ "-->"

variable {t : Tree} {html : NodeRef → String}

/-- Where texts are escaped, a child is written like any node. -/
theorem childHtml_false (t : Tree) (html : NodeRef → String) (c : Nat) :
    t.childHtml html false c = html (some c) := by
  unfold childHtml
  split <;> rfl

/-- The equations are one for all kinds of data. -/
theorem isHtml_iff : t.IsHtml html ↔
    (∀ r, t.get? r = none → html r = "") ∧
      ∀ i data, t.data? i = some data → html (some i) =
        data.html false
          (String.join ((t.children (some i)).map (t.childHtml html data.rawTexts))) := by
  -- only below elements a text may be raw
  have hdocument : t.childHtml html NodeData.document.rawTexts = fun c => html (some c) :=
    funext (t.childHtml_false html)
  constructor
  · refine fun h => ⟨h.unknown, fun i data hdata => ?_⟩
    cases data with
    | document =>
      rw [hdocument]
      exact h.document i hdata
    | text s => exact h.text i s hdata
    | comment s => exact h.comment i s hdata
    | element e =>
      by_cases hvoid : e.tag ∈ voidTags
      · rw [NodeData.html_of_mem_voidTags hvoid]
        exact h.void i e hdata hvoid
      · rw [NodeData.html_of_not_mem_voidTags hvoid]
        exact h.element i e hdata hvoid
  · rintro ⟨hunknown, heq⟩
    refine ⟨hunknown, fun i hdata => ?_, fun i e hdata hvoid => ?_, fun i e hdata hvoid => ?_,
      fun i s hdata => heq i _ hdata, fun i s hdata => heq i _ hdata⟩
    · rw [heq i _ hdata, hdocument, NodeData.html]
    · rw [heq i _ hdata, NodeData.html_of_mem_voidTags hvoid]
    · rw [heq i _ hdata, NodeData.html_of_not_mem_voidTags hvoid, NodeData.rawTexts]

namespace Arranged

variable {kids : Nat → List Nat} (h : t.Arranged kids)
include h

/-- The text of children is joined from what they are each. -/
theorem html_eq_join {roots : List Nat} {f : Forest} (hs : t.Shows roots f) (rawTexts : Bool) :
    f.html rawTexts = String.join (roots.map (t.childHtml t.outerHtml rawTexts)) := by
  induction hs with
  | nil => rfl
  | @cons i roots data below rest hdata hbelow _ _ ihrest =>
    -- on its own the first root is written with its text escaped; only a raw text is not
    have halone : t.outerHtml (some i) = data.html false (below.html data.rawTexts) := by
      rw [h.outerHtml_eq (.cons hdata hbelow .nil), Forest.html, Forest.html, String.append_empty]
    have hfirst : t.childHtml t.outerHtml rawTexts i =
        data.html rawTexts (below.html data.rawTexts) := by
      rw [childHtml, hdata, halone]
      cases data <;> cases rawTexts <;> rfl
    rw [List.map_cons, String.join_cons, Forest.html, ihrest, hfirst]

/-- What the loop writes solves the equations. -/
theorem isHtml_outerHtml : t.IsHtml t.outerHtml := by
  refine isHtml_iff.mpr ⟨fun r hr => ?_, fun i data hdata => ?_⟩
  · cases r with
    | none => rfl
    | some i =>
      have hnode : t.nodes[i]? = none := hr
      rw [outerHtml, write]
      simp only [hnode]
      exact write_nil ..
  · obtain ⟨f, hs⟩ := h.exists_shows (lt_size_of_data? hdata)
    cases hs with
    | cons hdata' hbelow hrest =>
      obtain rfl := Option.some.inj (hdata'.symm.trans hdata)
      cases hrest
      rw [h.outerHtml_eq (.cons hdata hbelow .nil), Forest.html, Forest.html, String.append_empty,
        h.html_eq_join hbelow]

/-- The equations have one solution: the texts of the children settle the text of a node. -/
theorem eq_outerHtml (hhtml : t.IsHtml html) : html = t.outerHtml := by
  obtain ⟨hunknown, heq⟩ := isHtml_iff.mp hhtml
  obtain ⟨hunknown', heq'⟩ := isHtml_iff.mp h.isHtml_outerHtml
  have hnode (i : Nat) : html (some i) = t.outerHtml (some i) := by
    -- from the children to the parent, so that the equation of a node speaks of equal texts
    induction i using h.induction_down with
    | step i ih =>
      cases hdata : t.data? i with
      | none =>
        have hget : t.get? (some i) = none := Option.map_eq_none_iff.mp hdata
        rw [hunknown _ hget, hunknown' _ hget]
      | some data =>
        have hchildren : (t.children (some i)).map (t.childHtml html data.rawTexts) =
            (t.children (some i)).map (t.childHtml t.outerHtml data.rawTexts) := by
          refine List.map_congr_left fun c hc => ?_
          rw [h.children_eq] at hc
          rw [childHtml, childHtml, ih c hc]
        rw [heq i data hdata, heq' i data hdata, hchildren]
  funext r
  cases r with
  | none => rw [hunknown none rfl, hunknown' none rfl]
  | some i => exact hnode i

/-- The loop is done with a node before the bound, and what waits behind the node has waited. -/
theorem exists_write (i : Nat) {fuel : Nat} (hf : 2 * t.size ≤ fuel) (rest : List Writing)
    (out : String) : ∃ left, fuel ≤ left + 2 * t.size ∧
      t.write fuel (.node i :: rest) out = t.write left rest (out ++ t.outerHtml (some i)) := by
  have hpos := h.size_pos
  cases hdata : t.data? i with
  | none =>
    -- an unknown node takes one item and writes nothing
    obtain ⟨fuel, rfl⟩ := Nat.exists_eq_add_of_le' (show 1 ≤ fuel by omega)
    have hget : t.get? (some i) = none := Option.map_eq_none_iff.mp hdata
    have hnode : t.nodes[i]? = none := hget
    refine ⟨fuel, by omega, ?_⟩
    rw [write, h.isHtml_outerHtml.unknown _ hget, String.append_empty]
    simp only [hnode]
  | some data =>
    obtain ⟨f, hs⟩ := h.exists_shows (lt_size_of_data? hdata)
    have hsize := h.size_le_of_shows hs
    obtain ⟨left, hleft, hwrite⟩ := hs.writes false fuel rest out (by omega)
    refine ⟨left, by omega, ?_⟩
    rw [h.outerHtml_eq hs]
    exact hwrite

end Arranged

/-- In a reachable tree the HTML texts are those that recursion over the tree gives, and the loop
    that writes them ends by itself: whatever waits behind a node is reached with all of the bound
    left but two items for every node of the tree. -/
theorem Reachable.isHtml_iff_and_write (h : t.Reachable) :
    (∀ html, t.IsHtml html ↔ html = t.outerHtml) ∧
      ∀ i fuel rest out, 2 * t.size ≤ fuel → ∃ left, fuel ≤ left + 2 * t.size ∧
        t.write fuel (.node i :: rest) out = t.write left rest (out ++ t.outerHtml (some i)) := by
  refine ⟨fun html => ⟨h.arranged.eq_outerHtml, ?_⟩, fun i fuel rest out hf => ?_⟩
  · rintro rfl
    exact h.arranged.isHtml_outerHtml
  · exact h.arranged.exists_write i hf rest out

/-- A stylesheet with a comment node in it, then a paragraph with a line break that has a text below
    it. -/
def sampleStyled : Tree :=
  ofEdits
    [.createElement "style", .createText "a > b", .createComment "x", .createElement "p",
      .createText "1 < 2", .createElement "br", .createText "lost",
      .appendChild (some 0) (some 1), .appendChild (some 1) (some 2),
      .appendChild (some 1) (some 3), .appendChild (some 0) (some 4),
      .appendChild (some 4) (some 5), .appendChild (some 4) (some 6),
      .appendChild (some 6) (some 7)]

/-- Raw and escaped text, a comment and a void element. -/
theorem isHtml_iff_and_write_sampleStyled :
    sampleStyled.IsHtml sampleStyled.outerHtml ∧
      sampleStyled.outerHtml root = "<style>a > b<!--x--></style><p>1 &lt; 2<br></p>" ∧
      ∃ left, 20 ≤ left + 2 * sampleStyled.size ∧
        sampleStyled.write 20 [.node 4, .raw "!"] "" =
          sampleStyled.write left [.raw "!"] ("" ++ sampleStyled.outerHtml (some 4)) := by
  obtain ⟨htexts, hends⟩ := Reachable.isHtml_iff_and_write (t := sampleStyled) ⟨_, rfl⟩
  exact ⟨(htexts _).mpr rfl, by decide +kernel, hends 4 20 _ _ (by decide +kernel)⟩

end Tree

end ClassSheet.Dom
