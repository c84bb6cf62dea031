import ClassSheet.Selector.Reach
import ClassSheet.Proofs.Css.Tables

/-! # The texts of selectors

A selector adds combinators, pseudo classes and numbers to the class and the tags that it is made
from. None of these could begin an at-rule or end the head of a block, so the selector cannot either
if the class and the tags cannot (`Reach.lacks_selectorOfToken`). -/

namespace ClassSheet

open ClassSheet.Text ClassSheet.Css

/-- The characters that a selector may not have: those that begin an at-rule or a tag or stand
    around a block. -/
def Selector.foreign : List Char := '@' :: braces

/-- Whether a tag is a letter followed by letters, digits and hyphens. -/
def isPlainTag (tag : String) : Bool :=
  match tag.toList with
  | [] => false
  | c :: cs => c.isAlpha && cs.all fun d => d.isAlphanum || d == '-'

/-- A plain tag has letters, digits and hyphens only. -/
theorem lacks_of_isPlainTag {tag : String} (h : isPlainTag tag = true) :
    Lacks Selector.foreign tag := by
  have hforeign : ∀ c ∈ Selector.foreign, (c.isAlphanum || c == '-') = false := by decide
  have hchar : ∀ c ∈ tag.toList, (c.isAlphanum || c == '-') = true := by
    unfold isPlainTag at h
    split at h
    · cases h
    · next c cs heq =>
      obtain ⟨hc, hcs⟩ := Bool.and_eq_true_iff.mp h
      rw [heq, List.forall_mem_cons]
      refine ⟨?_, List.all_eq_true.mp hcs⟩
      rw [Char.isAlphanum, hc, Bool.true_or, Bool.true_or]
  intro c hc hmem
  exact absurd ((hforeign c hmem).symm.trans (hchar c hc)) Bool.false_ne_true

/-! ### Parts -/

/-- The pseudo classes are fixed texts. -/
theorem Pseudo.lacks_css (p : Pseudo) : Lacks Selector.foreign p.css := by cases p <;> decide

/-- A position is a fixed text and perhaps a number. -/
theorem Position.lacks_css (p : Position) (ofType : Bool) :
    Lacks Selector.foreign (p.css ofType) := by
  have hkind : Lacks Selector.foreign (if ofType then "of-type" else "child") := by
    cases ofType <;> decide
  have hfirst : Lacks Selector.foreign ":first-" := by decide
  have hlast : Lacks Selector.foreign ":last-" := by decide
  have hnth : Lacks Selector.foreign ":nth-" := by decide
  cases p with
  | first => exact hfirst.append hkind
  | last => exact hlast.append hkind
  | nth n =>
    exact (((hnth.append hkind).append (by decide)).append (.wordText (by decide) n)).append
      (by decide)

/-- A part and the pseudo suffix make no such character. -/
theorem Selector.lacks_css {s : Selector} (h : ∀ part ∈ s.parts, Lacks foreign part)
    (pseudo : Option Pseudo) : Lacks foreign (s.css pseudo) := by
  refine .intercalate (by decide) fun text htext => ?_
  obtain ⟨part, hpart, rfl⟩ := List.mem_map.mp htext
  exact (h part hpart).append (.getD fun p _ => p.lacks_css)

namespace Reach

variable {className tag : String} {parentTag : Option String}
  (hclass : Lacks Selector.foreign className) (htag : Lacks Selector.foreign tag)
  (hparent : ∀ tag ∈ parentTag, Lacks Selector.foreign tag)

include hclass in
/-- The selector of the class alone. -/
theorem lacks_ofClass :
    ∀ part ∈ (Selector.ofClass className).parts, Lacks Selector.foreign part := by
  have hdot : Lacks Selector.foreign "." := by decide
  exact List.forall_mem_singleton.mpr (hdot.append hclass)

include hclass htag hparent

/-- The parts of the selector of a reach. -/
theorem lacks_selector (reach : Reach) :
    ∀ part ∈ (reach.selector ⟨className, tag, parentTag⟩).parts, Lacks Selector.foreign part := by
  -- every part that is not a tag alone begins with the class
  have hdot : Lacks Selector.foreign "." := by decide
  have hself := hdot.append hclass
  -- what stands for elements of the same tag, or for any
  have hkind (ofType : Bool) : Lacks Selector.foreign (if ofType then tag else "") := by
    cases ofType
    · exact fun _ hc => nomatch hc
    · exact htag
  have hany (ofType : Bool) : Lacks Selector.foreign (if ofType then tag else "*") := by
    have hstar : Lacks Selector.foreign "*" := by decide
    cases ofType
    · exact hstar
    · exact htag
  -- the fixed texts of an exception
  have hnot : Lacks Selector.foreign ":not(" := by decide
  have hclose : Lacks Selector.foreign ")" := by decide
  -- a selector has one part or two
  have hpair {s t : String} (hs : Lacks Selector.foreign s) (ht : Lacks Selector.foreign t) :
      ∀ part ∈ [s, t], Lacks Selector.foreign part :=
    List.forall_mem_cons.mpr ⟨hs, List.forall_mem_singleton.mpr ht⟩
  -- reach by reach, along the way in which the parts are put together
  cases reach with
  | all => exact hpair hself (hself.append (by decide))
  | allOfType => exact List.forall_mem_singleton.mpr htag
  | allWithin => exact List.forall_mem_singleton.mpr (hself.append (by decide))
  | allOfTypeWithin =>
    exact List.forall_mem_singleton.mpr ((hself.append (by decide)).append htag)
  | allChildLikeThis =>
    rw [selector]
    split
    · next parent heq =>
      have hchild := (hparent parent heq).append (t := " > ") (by decide)
      exact List.forall_mem_singleton.mpr (hchild.append htag)
    · exact lacks_ofClass hclass
  | child ofType position =>
    have hchild := (hself.append (t := " > ") (by decide)).append (hkind ofType)
    exact List.forall_mem_singleton.mpr (hchild.append (position.lacks_css ofType))
  | children ofType except =>
    have hchildren := hself.append (t := " > ") (by decide)
    cases except with
    | none => exact List.forall_mem_singleton.mpr (hchildren.append (hany ofType))
    | some position =>
      have hexcept := ((hchildren.append (hkind ofType)).append hnot).append
        (position.lacks_css ofType)
      exact List.forall_mem_singleton.mpr (hexcept.append hclose)
  | sibling ofType count =>
    have hplus : Lacks Selector.foreign " + " := by decide
    -- the step to the next sibling is repeated
    have hstep : Lacks Selector.foreign (if ofType then " + " ++ tag else " + *") := by
      have hstar : Lacks Selector.foreign " + *" := by decide
      cases ofType
      · exact hstar
      · exact hplus.append htag
    refine hpair hself (hself.append (.join fun step hmem => ?_))
    rw [List.eq_of_mem_replicate hmem]
    exact hstep
  | siblings ofType =>
    have hafter := hself.append (t := " ~ ") (by decide)
    exact hpair hself (hafter.append (hany ofType))
  | siblingsExcept position =>
    have hexcept := (hnot.append (position.lacks_css false)).append hclose
    exact hpair (hself.append hexcept) ((hself.append (by decide)).append hexcept)

/-- The parts of the selector of a token. -/
theorem lacks_selectorOfToken (token : Option String) :
    ∀ part ∈ (selectorOfToken token ⟨className, tag, parentTag⟩).parts,
      Lacks Selector.foreign part := by
  unfold selectorOfToken
  split
  · next reach _ => exact lacks_selector hclass htag hparent reach
  · exact lacks_ofClass hclass

end Reach

end ClassSheet
