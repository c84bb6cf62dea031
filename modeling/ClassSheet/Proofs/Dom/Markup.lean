import ClassSheet.Proofs.Dom.ClassAttribute
import ClassSheet.Proofs.Dom.Forest
import ClassSheet.Proofs.Text.Lacks

/-! # Reading markup back

The HTML text of a subtree tells the subtree, as long as its names are plain ones and no two texts
stand next to each other (`Tree.Reachable.outerHtml_eq_iff`). Texts and attribute values may hold
anything: an escaped text has no `<` and ends where a tag begins, and an escaped value ends at the
next quotation mark. So the first characters tell what follows (`opening`), start tags can be told
from what stands behind them (`Element.startTag_inj`), and going down the branches of a forest both
forests must agree (`Forest.Plain.html_inj`). -/

namespace ClassSheet.Dom

open ClassSheet.Text

/-! ### Escapes -/

/-- The characters that escaped ones stand for. -/
def unescape : List Char → List Char
  | [] => []
  | '&' :: 'a' :: 'm' :: 'p' :: ';' :: cs => '&' :: unescape cs
  | '&' :: 'l' :: 't' :: ';' :: cs => '<' :: unescape cs
  | '&' :: 'g' :: 't' :: ';' :: cs => '>' :: unescape cs
  | '&' :: 'q' :: 'u' :: 'o' :: 't' :: ';' :: cs => '"' :: unescape cs
  | c :: cs => c :: unescape cs

/-- A character other than the ampersand stands for itself. -/
theorem unescape_cons {c : Char} (h : c ≠ '&') (cs : List Char) :
    unescape (c :: cs) = c :: unescape cs := by
  simp [unescape, h]

/-- A character of a text is read back from its escape, whatever follows. -/
theorem unescape_escapedTextChar (c : Char) (cs : List Char) :
    unescape ((escapedTextChar c).toList ++ cs) = c :: unescape cs := by
  unfold escapedTextChar
  split
  · simp [unescape]
  · simp [unescape]
  · simp [unescape]
  · next hamp _ _ => simpa using unescape_cons hamp cs

/-- A character of an attribute value is read back from its escape. -/
theorem unescape_escapedValueChar (c : Char) (cs : List Char) :
    unescape ((escapedValueChar c).toList ++ cs) = c :: unescape cs := by
  unfold escapedValueChar
  split
  · simp [unescape]
  · simp [unescape]
  · next hamp _ => simpa using unescape_cons hamp cs

/-- If single characters are read back, so is a text. -/
theorem unescape_flatMap {code : Char → String}
    (hcode : ∀ c cs, unescape ((code c).toList ++ cs) = c :: unescape cs) (s : List Char) :
    unescape (String.join (s.map code)).toList = s := by
  induction s with
  | nil => simp [unescape]
  | cons c s ih => rw [List.map_cons, String.join_cons, String.toList_append, hcode, ih]

/-- An escaped text tells the text. -/
theorem escapedText_injective {s s' : String} (h : escapedText s = escapedText s') : s = s' := by
  have hchars := congrArg (fun s => unescape s.toList) h
  simp only [escapedText, unescape_flatMap unescape_escapedTextChar] at hchars
  exact String.toList_inj.mp hchars

/-- An escaped value tells the value. -/
theorem escapedValue_injective {s s' : String} (h : escapedValue s = escapedValue s') :
    s = s' := by
  have hchars := congrArg (fun s => unescape s.toList) h
  simp only [escapedValue, unescape_flatMap unescape_escapedValueChar] at hchars
  exact String.toList_inj.mp hchars

/-- A character is none other. -/
theorem lacks_singleton {x c : Char} (h : c ≠ x) : Lacks [x] (String.singleton c) := by
  intro d hd
  obtain rfl : d = c := by simpa using hd
  simpa using h

/-- An escaped text has no `<`. -/
theorem lacks_escapedText (s : String) : Lacks ['<'] (escapedText s) := by
  refine .join fun code hcode => ?_
  obtain ⟨c, -, rfl⟩ := List.mem_map.mp hcode
  unfold escapedTextChar
  split
  · decide
  · decide
  · decide
  · next hlt _ => exact lacks_singleton hlt

/-- An escaped value has no quotation mark. -/
theorem lacks_escapedValue (s : String) : Lacks ['"'] (escapedValue s) := by
  refine .join fun code hcode => ?_
  obtain ⟨c, -, rfl⟩ := List.mem_map.mp hcode
  unfold escapedValueChar
  split
  · decide
  · decide
  · next hquote => exact lacks_singleton hquote

/-! ### Start tags -/

/-- What a text stops at is its next character. -/
theorem stop_cons {p : Char → Bool} {c : Char} (h : p c = false) (cs : List Char) :
    ∀ d ∈ (c :: cs).head?, p d = false := by
  intro d hd
  obtain rfl : c = d := Option.some.inj hd
  exact h

/-- Whether a character may stand in a plain name. -/
def isNameChar (c : Char) : Bool := c.isLower || c.isDigit || c == '-'

/-- Whether a text is a lower-case letter followed by lower-case letters, digits and hyphens. -/
def isPlainName (s : String) : Bool := s.toList.head?.any Char.isLower && s.toList.all isNameChar

/-- The characters of plain names. -/
theorem isNameChar_of_isPlainName {s : String} (h : isPlainName s = true) :
    ∀ c ∈ s.toList, isNameChar c = true :=
  List.all_eq_true.mp (Bool.and_eq_true_iff.mp h).2

/-- An attribute by its characters, in front of what follows. -/
theorem Attribute.toList_html (a : Attribute) (cs : List Char) :
    a.html.toList ++ cs =
      ' ' :: (a.name.toList ++ '=' :: '"' :: ((escapedValue a.value).toList ++ '"' :: cs)) := by
  simp [html]

/-- An attribute can be told from what follows it. -/
theorem Attribute.html_inj {a b : Attribute} (ha : isPlainName a.name = true)
    (hb : isPlainName b.name = true) {xs ys : List Char}
    (h : a.html.toList ++ xs = b.html.toList ++ ys) : a = b ∧ xs = ys := by
  rw [toList_html, toList_html] at h
  -- the name ends at the equals sign, and the value at the quotation mark
  have hequals : isNameChar '=' = false := by decide
  have hquote (cs : List Char) : ∀ c ∈ ('"' :: cs).head?, (c != '"') = false :=
    stop_cons (by decide) cs
  obtain ⟨hname, hrest⟩ := append_inj_of_stop (isNameChar_of_isPlainName ha) (stop_cons hequals _)
    (isNameChar_of_isPlainName hb) (stop_cons hequals _) (List.cons.inj h).2
  obtain ⟨hvalue, hend⟩ := append_inj_of_stop
    ((lacks_escapedValue a.value).bne List.mem_cons_self) (hquote _)
    ((lacks_escapedValue b.value).bne List.mem_cons_self) (hquote _)
    (List.cons.inj (List.cons.inj hrest).2).2
  obtain ⟨aname, avalue⟩ := a
  obtain ⟨bname, bvalue⟩ := b
  obtain rfl : aname = bname := String.toList_inj.mp hname
  obtain rfl : avalue = bvalue := escapedValue_injective (String.toList_inj.mp hvalue)
  exact ⟨rfl, (List.cons.inj hend).2⟩

/-- Attributes can be told from the end of the start tag. -/
theorem attributes_inj {as bs : List Attribute} (has : ∀ a ∈ as, isPlainName a.name = true)
    (hbs : ∀ b ∈ bs, isPlainName b.name = true) {xs ys : List Char}
    (h : (as.flatMap fun a => a.html.toList) ++ '>' :: xs =
      (bs.flatMap fun b => b.html.toList) ++ '>' :: ys) : as = bs ∧ xs = ys := by
  -- an attribute begins with a blank, and the end of a tag does not
  have hblank (a : Attribute) (cs ds : List Char) : '>' :: cs ≠ a.html.toList ++ ds := by
    rw [a.toList_html]
    exact fun heq => absurd (List.cons.inj heq).1 (by decide)
  -- by induction on the first list: equal fronts are cut off both texts
  induction as generalizing bs with
  | nil =>
    cases bs with
    | nil => exact ⟨rfl, (List.cons.inj h).2⟩
    | cons b bs =>
      rw [List.flatMap_cons, List.append_assoc] at h
      exact absurd h (hblank b _ _)
  | cons a as ih =>
    rw [List.forall_mem_cons] at has
    cases bs with
    | nil =>
      rw [List.flatMap_cons, List.append_assoc] at h
      exact absurd h.symm (hblank a _ _)
    | cons b bs =>
      rw [List.forall_mem_cons] at hbs
      rw [List.flatMap_cons, List.flatMap_cons, List.append_assoc, List.append_assoc] at h
      obtain ⟨rfl, hrest⟩ := Attribute.html_inj has.1 hbs.1 h
      obtain ⟨rfl, hend⟩ := ih has.2 hbs.2 hrest
      exact ⟨rfl, hend⟩

namespace Element

/-- An element with plain names whose texts are escaped. -/
structure IsPlain (e : Element) : Prop where
  tag : isPlainName e.tag = true
  names : ∀ a ∈ e.attributes, isPlainName a.name = true
  not_raw : e.tag ∉ rawTextTags

/-- A start tag by its characters, in front of what follows. -/
theorem toList_startTag (e : Element) (cs : List Char) :
    e.startTag.toList ++ cs =
      '<' :: (e.tag.toList ++ ((e.attributes.flatMap fun a => a.html.toList) ++ '>' :: cs)) := by
  simp [startTag, List.flatMap_map]

/-- A start tag can be told from what follows it. -/
theorem startTag_inj {e e' : Element} (he : e.IsPlain) (he' : e'.IsPlain) {xs ys : List Char}
    (h : e.startTag.toList ++ xs = e'.startTag.toList ++ ys) :
    e.tag = e'.tag ∧ e.attributes = e'.attributes ∧ xs = ys := by
  rw [toList_startTag, toList_startTag] at h
  -- behind the tag there is a blank or the end
  have hstop (as : List Attribute) (cs : List Char) :
      ∀ c ∈ ((as.flatMap fun a => a.html.toList) ++ '>' :: cs).head?, isNameChar c = false := by
    cases as with
    | nil => exact stop_cons (by decide) cs
    | cons a as =>
      rw [List.flatMap_cons, List.append_assoc, a.toList_html]
      exact stop_cons (by decide) _
  obtain ⟨htag, hrest⟩ := append_inj_of_stop (isNameChar_of_isPlainName he.tag) (hstop _ _)
    (isNameChar_of_isPlainName he'.tag) (hstop _ _) (List.cons.inj h).2
  obtain ⟨hattributes, hend⟩ := attributes_inj he.names he'.names hrest
  exact ⟨String.toList_inj.mp htag, hattributes, hend⟩

end Element

/-! ### Openings -/

/-- What a piece of markup begins with: an element, a text, or neither, which is so at its end and
    in front of an end tag. -/
inductive Opening where
  | nothing | element | text
deriving DecidableEq

/-- What a text begins with as markup. -/
def opening : List Char → Opening
  | [] => .nothing
  | c :: cs => if c != '<' then .text else if cs.head? == some '/' then .nothing else .element

/-- A text goes on up to something else. -/
theorem bne_of_opening {cs : List Char} (h : opening cs ≠ .text) :
    ∀ c ∈ cs.head?, (c != '<') = false := by
  cases cs with
  | nil => exact fun _ hc => nomatch hc
  | cons c cs =>
    refine stop_cons ?_ cs
    rw [opening] at h
    by_contra hne
    rw [if_pos (by simpa using hne)] at h
    exact h rfl

/-- An end tag opens nothing. -/
theorem Element.opening_endTag (e : Element) (cs : List Char) :
    opening (e.endTag.toList ++ cs) = .nothing := by
  simp [endTag, opening]

/-- A start tag opens an element, as its name begins with a letter. -/
theorem Element.IsPlain.opening_startTag {e : Element} (h : e.IsPlain) (cs : List Char) :
    opening (e.startTag.toList ++ cs) = .element := by
  rw [e.toList_startTag]
  have hhead : e.tag.toList.head?.any Char.isLower = true := (Bool.and_eq_true_iff.mp h.tag).1
  cases htag : e.tag.toList with
  | nil =>
    rw [htag] at hhead
    cases hhead
  | cons c tag =>
    rw [htag, List.head?_cons, Option.any_some] at hhead
    have hslash : c ≠ '/' := by
      rintro rfl
      exact absurd hhead (by decide)
    simp [opening, hslash]

/-- A text that is not empty opens a text, as its first character is no `<`. -/
theorem opening_escapedText {s : String} (h : s ≠ "") (cs : List Char) :
    opening ((escapedText s).toList ++ cs) = .text := by
  cases htext : (escapedText s).toList with
  | nil =>
    have hempty : escapedText s = escapedText "" := String.toList_inj.mp htext
    exact absurd (escapedText_injective hempty) h
  | cons c text =>
    have hne : (c != '<') = true := (lacks_escapedText s).bne List.mem_cons_self c (by simp [htext])
    rw [List.cons_append, opening, if_pos hne]

/-! ### Forests -/

namespace Forest

/-- What the HTML text of a forest of elements and texts begins with. -/
def opening : Forest → Opening
  | nil => .nothing
  | cons (.element _) _ _ => .element
  | cons _ _ _ => .text

/-- A forest of plain elements and of texts. A void element has nothing below it, no text is empty
    and none stands behind another one. -/
inductive Plain : Forest → Prop
  | nil : Plain .nil
  | element {e : Element} {below rest : Forest} : e.IsPlain → e.InStep →
    (e.tag ∈ voidTags → below = .nil) → Plain below → Plain rest →
      Plain (.cons (.element e) below rest)
  | text {s : String} {rest : Forest} : s ≠ "" → rest.opening ≠ .text → Plain rest →
    Plain (.cons (.text s) .nil rest)

/-- What is written behind the start tag of an element. -/
def behindStart (e : Element) (below rest : Forest) (cs : List Char) : List Char :=
  let cs := (rest.html false).toList ++ cs
  if voidTags.contains e.tag then cs else (below.html false).toList ++ (e.endTag.toList ++ cs)

/-- An element in front of a forest is written as its start tag and what stands behind that. -/
theorem toList_html_element {e : Element} (h : e.IsPlain) (below rest : Forest) (cs : List Char) :
    ((cons (.element e) below rest).html false).toList ++ cs =
      e.startTag.toList ++ behindStart e below rest cs := by
  have hraw : rawTextTags.contains e.tag = false := by
    simpa using h.not_raw
  rw [html, NodeData.html, behindStart, NodeData.rawTexts, hraw]
  split <;> simp

/-- A text in front of a forest is written escaped. -/
theorem toList_html_text (s : String) (below rest : Forest) (cs : List Char) :
    ((cons (.text s) below rest).html false).toList ++ cs =
      (escapedText s).toList ++ ((rest.html false).toList ++ cs) := by
  simp [html, NodeData.html]

namespace Plain

/-- What stands first in a forest is seen in front of its HTML text. -/
theorem opening_html {f : Forest} (h : f.Plain) {cs : List Char} (hcs : Dom.opening cs = .nothing) :
    Dom.opening ((f.html false).toList ++ cs) = f.opening := by
  cases h with
  | nil => simpa [html, opening] using hcs
  | element he => rw [toList_html_element he, he.opening_startTag, opening]
  | text hs =>
    rw [toList_html_text, opening_escapedText hs]
    rfl

/-- Forests with the same HTML text begin alike. -/
theorem opening_eq {f g : Forest} (hf : f.Plain) (hg : g.Plain) {xs ys : List Char}
    (hxs : Dom.opening xs = .nothing) (hys : Dom.opening ys = .nothing)
    (h : (f.html false).toList ++ xs = (g.html false).toList ++ ys) : f.opening = g.opening := by
  rw [← hf.opening_html hxs, h, hg.opening_html hys]

/-- The HTML text of a forest can be told from an end tag behind it, and it tells the forest. -/
theorem html_inj {f g : Forest} (hf : f.Plain) (hg : g.Plain) {xs ys : List Char}
    (hxs : Dom.opening xs = .nothing) (hys : Dom.opening ys = .nothing)
    (h : (f.html false).toList ++ xs = (g.html false).toList ++ ys) : f = g ∧ xs = ys := by
  -- the induction is on the first forest, with any other one and with whatever stands behind both
  induction hf generalizing g xs ys with
  | nil =>
    have hopening := Plain.nil.opening_eq hg hxs hys h
    cases hg with
    | nil => exact ⟨rfl, by simpa [html] using h⟩
    | element | text => cases hopening
  | @element e below rest he hstep hvoid hbelow hrest ihbelow ihrest =>
    have hopening := (Plain.element he hstep hvoid hbelow hrest).opening_eq hg hxs hys h
    cases hg with
    | nil | text => cases hopening
    | @element e' below' rest' he' hstep' hvoid' hbelow' hrest' =>
      rw [toList_html_element he, toList_html_element he'] at h
      obtain ⟨htag, hattributes, hbehind⟩ := Element.startTag_inj he he' h
      -- the classes follow from the attributes, so the two are the same element
      obtain rfl : e = e' := hstep.eq_of_attributes_eq hstep' htag hattributes
      rw [behindStart, behindStart] at hbehind
      split at hbehind
      · -- a void element has no end tag
        next hcontains =>
        have htag := List.contains_iff_mem.mp hcontains
        obtain ⟨rfl, hend⟩ := ihrest hrest' hxs hys hbehind
        exact ⟨by rw [hvoid htag, hvoid' htag], hend⟩
      · obtain ⟨rfl, hclose⟩ := ihbelow hbelow' (e.opening_endTag _) (e.opening_endTag _) hbehind
        obtain ⟨rfl, hend⟩ := ihrest hrest' hxs hys (List.append_cancel_left hclose)
        exact ⟨rfl, hend⟩
  | @text s rest hs hnext hrest ih =>
    have hopening := (Plain.text hs hnext hrest).opening_eq hg hxs hys h
    cases hg with
    | nil | element => cases hopening
    | @text s' rest' hs' hnext' hrest' =>
      rw [toList_html_text, toList_html_text] at h
      -- neither text is followed by another one, so both end at the next `<`
      rw [← hrest.opening_html hxs] at hnext
      rw [← hrest'.opening_html hys] at hnext'
      obtain ⟨htext, hbehind⟩ := append_inj_of_stop
        ((lacks_escapedText s).bne List.mem_cons_self) (bne_of_opening hnext)
        ((lacks_escapedText s').bne List.mem_cons_self) (bne_of_opening hnext') h
      obtain rfl : s = s' := escapedText_injective (String.toList_inj.mp htext)
      obtain ⟨rfl, hend⟩ := ih hrest' hxs hys hbehind
      exact ⟨rfl, hend⟩

end Plain

end Forest

/-! ### Trees -/

namespace Tree

/-- Whether a number is that of a text. -/
def isText (t : Tree) (i : Nat) : Bool := (t.text? (some i)).isSome

/-- A node whose data are a text is one. -/
theorem isText_of_data? {t : Tree} {i : Nat} {s : String} (h : t.data? i = some (.text s)) :
    t.isText i = true := by
  rw [isText, text?_eq_some_iff.mpr h]
  rfl

/-- A node that may stand in markup that can be read back: a plain element, which has no children if
    it is void and no two texts next to each other among them, or a text that is not empty. -/
inductive IsPlainNode (t : Tree) (i : Nat) : Prop
  | element (e : Element) (hdata : t.data? i = some (.element e)) (he : e.IsPlain)
    (hvoid : e.tag ∈ voidTags → t.children (some i) = [])
    (hchain : (t.children (some i)).IsChain fun a b => ¬(t.isText a ∧ t.isText b))
  | text (s : String) (hdata : t.data? i = some (.text s)) (hs : s ≠ "")

variable {t : Tree}

/-- A text has no children. -/
theorem Arranged.children_of_text {kids : Nat → List Nat} (h : t.Arranged kids) {i : Nat}
    {s : String} (hi : t.data? i = some (.text s)) : t.children (some i) = [] := by
  by_contra hne
  rw [h.children_eq] at hne
  have hmay := h.mayHaveChildren hne
  rw [mayHaveChildren_of_text? (text?_eq_some_iff.mpr hi)] at hmay
  cases hmay

/-- Plain nodes make a plain forest. -/
theorem Shows.plain {kids : Nat → List Nat} (h : t.Arranged kids) (ht : t.AllBuilt)
    {roots : List Nat} {f : Forest} (hs : t.Shows roots f)
    (hplain : ∀ i ∈ roots, ∀ j, t.Within j i → t.IsPlainNode j)
    (hchain : roots.IsChain fun a b => ¬(t.isText a ∧ t.isText b)) : f.Plain := by
  induction hs with
  | nil => exact .nil
  | @cons i roots data below rest hdata hbelow hrest ihbelow ihrest =>
    rw [List.forall_mem_cons] at hplain
    have hplainRest := ihrest hplain.2 hchain.tail
    -- the first root, by what kind of plain node it is
    cases hplain.1 i .refl with
    | element e hdata' he hvoid hchildren =>
      obtain rfl : data = .element e := Option.some.inj (hdata.symm.trans hdata')
      have hplainBelow := ihbelow
        (fun c hc j hj => hplain.1 j (h.within_iff.mpr (Or.inr ⟨c, hc, hj⟩))) hchildren
      refine .element he (ht i e hdata).inStep (fun htag => ?_) hplainBelow hplainRest
      rw [hvoid htag] at hbelow
      cases hbelow
      rfl
    | text s hdata' hne =>
      obtain rfl : data = .text s := Option.some.inj (hdata.symm.trans hdata')
      rw [h.children_of_text hdata] at hbelow
      cases hbelow
      refine .text hne ?_ hplainRest
      -- a text behind this one would stand next to it
      cases hrest with
      | nil => exact nofun
      | @cons j roots data' below rest hj _ _ =>
        cases hplain.2 j List.mem_cons_self j .refl with
        | element e' hj' =>
          obtain rfl : data' = .element e' := Option.some.inj (hj.symm.trans hj')
          exact nofun
        | text s' hj' =>
          exact absurd ⟨isText_of_data? hdata, isText_of_data? hj'⟩
            (List.isChain_cons_cons.mp hchain).1

/-- The forest of a subtree of plain nodes. -/
theorem Reachable.exists_plain (h : t.Reachable) {i : Nat}
    (hi : ∀ j ∈ i :: t.descendants (some i), t.IsPlainNode j) :
    ∃ f, t.Shows [i] f ∧ f.Plain ∧ t.outerHtml (some i) = f.html false := by
  have hlt : i < t.size := by
    cases hi i List.mem_cons_self with
    | element e hdata => exact lt_size_of_data? hdata
    | text s hdata => exact lt_size_of_data? hdata
  obtain ⟨f, hf⟩ := h.arranged.exists_shows hlt
  refine ⟨f, hf, hf.plain h.arranged h.allBuilt ?_ (List.isChain_singleton i),
    h.arranged.outerHtml_eq hf⟩
  rw [List.forall_mem_singleton]
  intro j hj
  rw [h.arranged.within_iff_mem_descendants, ← List.mem_cons] at hj
  exact hi j hj

/-- Two subtrees of plain nodes have the same HTML text exactly if they are the same forest, with
    the same shape, tags, attributes and texts. -/
theorem Reachable.outerHtml_eq_iff {t' : Tree} (h : t.Reachable) (h' : t'.Reachable) {i i' : Nat}
    (hi : ∀ j ∈ i :: t.descendants (some i), t.IsPlainNode j)
    (hi' : ∀ j ∈ i' :: t'.descendants (some i'), t'.IsPlainNode j) :
    t.outerHtml (some i) = t'.outerHtml (some i') ↔ ∃ f, t.Shows [i] f ∧ t'.Shows [i'] f := by
  obtain ⟨f, hf, hplain, hhtml⟩ := h.exists_plain hi
  obtain ⟨f', hf', hplain', hhtml'⟩ := h'.exists_plain hi'
  constructor
  · intro heq
    -- nothing stands behind the two texts
    have hchars : (f.html false).toList ++ [] = (f'.html false).toList ++ [] := by
      rw [← hhtml, ← hhtml', heq]
    obtain ⟨rfl, -⟩ := hplain.html_inj hplain' rfl rfl hchars
    exact ⟨f, hf, hf'⟩
  · rintro ⟨g, hg, hg'⟩
    rw [h.arranged.outerHtml_eq hg, h'.arranged.outerHtml_eq hg']

/-- A paragraph with special characters in an attribute and in its text. -/
def sampleForwards : Tree :=
  ofEdits
    [.createElement "p", .appendChild (some 0) (some 1),
      .setAttribute (some 1) "title" "\">&", .appendText (some 1) "1 < &lt;",
      .createElement "br", .appendChild (some 1) (some 3)]

/-- The same paragraph, made from its last node to its first. -/
def sampleBackwards : Tree :=
  ofEdits
    [.createElement "br", .createText "1 < &lt;", .createElement "P",
      .appendChild (some 3) (some 2), .appendChild (some 3) (some 1),
      .setAttribute (some 3) "TITLE" "\">&", .appendChild (some 0) (some 3)]

/-- Both paragraphs are the same forest, as their HTML texts show. -/
theorem outerHtml_eq_iff_sample :
    sampleForwards.outerHtml (some 1) = "<p title=\"&quot;>&amp;\">1 &lt; &amp;lt;<br></p>" ∧
      ∃ f, sampleForwards.Shows [1] f ∧ sampleBackwards.Shows [3] f := by
  have hforwards : sampleForwards.outerHtml (some 1) =
      "<p title=\"&quot;>&amp;\">1 &lt; &amp;lt;<br></p>" := by decide +kernel
  have hbackwards : sampleBackwards.outerHtml (some 3) =
      "<p title=\"&quot;>&amp;\">1 &lt; &amp;lt;<br></p>" := by decide +kernel
  have hparagraph : Element.IsPlain ⟨"p", [⟨"title", "\">&"⟩], .empty⟩ :=
    ⟨by decide +kernel, by decide +kernel, by decide +kernel⟩
  have hbreak : Element.IsPlain ⟨"br", [], .empty⟩ :=
    ⟨by decide +kernel, by decide +kernel, by decide +kernel⟩
  have hplain : ∀ j ∈ 1 :: sampleForwards.descendants (some 1),
      sampleForwards.IsPlainNode j := by
    rw [show 1 :: sampleForwards.descendants (some 1) = [1, 2, 3] by decide +kernel]
    simp only [List.forall_mem_cons]
    exact ⟨.element _ (by decide +kernel) hparagraph (by decide +kernel) (by decide +kernel),
      .text "1 < &lt;" (by decide +kernel) (by decide +kernel),
      .element _ (by decide +kernel) hbreak (by decide +kernel) (by decide +kernel),
      fun _ h => nomatch h⟩
  have hplain' : ∀ j ∈ 3 :: sampleBackwards.descendants (some 3),
      sampleBackwards.IsPlainNode j := by
    rw [show 3 :: sampleBackwards.descendants (some 3) = [3, 2, 1] by decide +kernel]
    simp only [List.forall_mem_cons]
    exact ⟨.element _ (by decide +kernel) hparagraph (by decide +kernel) (by decide +kernel),
      .text "1 < &lt;" (by decide +kernel) (by decide +kernel),
      .element _ (by decide +kernel) hbreak (by decide +kernel) (by decide +kernel),
      fun _ h => nomatch h⟩
  exact ⟨hforwards, (Reachable.outerHtml_eq_iff ⟨_, rfl⟩ ⟨_, rfl⟩ hplain hplain').mp
    (hforwards.trans hbackwards.symm)⟩

end Tree

end ClassSheet.Dom
