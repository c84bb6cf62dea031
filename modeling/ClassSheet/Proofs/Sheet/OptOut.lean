import ClassSheet.Proofs.Dom.Attributes
import ClassSheet.Proofs.Sheet.Pass

/-! # Opting out

A pass leaves an element alone that opts out, and everything if it is the body that opts out
(`optsOut_of_isOptedOut`). An element opts out by an attribute whose name the settings choose. An
attribute is set under its name in lower case and looked up under the name as it stands, so an
element can opt out if the settings give a name in lower case, and no element can if they give one
with a capital (`optsOut_setAttribute`). -/

namespace ClassSheet.Pass

open ClassSheet.Text Dom

/-- A pass over the document leaves the node `i` alone. -/
structure OptsOut (c : Config) (d : Document) (i : Nat) : Prop where
  /-- None of its classes is compiled. -/
  collect : ∀ classes, (i, classes) ∈ collect c d.tree d.body → classes = []
  /-- It stays the same element, whether the pass can write its rules or not. -/
  element : ∀ sheet, (run c d sheet).2.1.tree.element? (some i) = d.tree.element? (some i)
  /-- If it is the body, nothing at all is changed. -/
  body : d.body = some i → ∀ sheet,
    run c d sheet = (.ok { Report.empty with optedOut := true }, d, sheet)

/-! ### What a pass leaves alone -/

section OptedOut

variable {c : Config} {d : Document} {i : Nat} (hopt : c.isOptedOut d.tree (some i) = true)
include hopt

/-- An element that opts out is listed without classes. -/
theorem classes_eq_nil_of_isOptedOut {classes : List String}
    (h : (i, classes) ∈ collect c d.tree d.body) : classes = [] := by
  obtain ⟨j, -, hentry⟩ := List.mem_map.mp h
  obtain ⟨rfl, rfl⟩ := Prod.mk.inj hentry
  rw [if_pos hopt]

/-- An element that opts out is planned no class. -/
theorem plannedClasses_eq_nil_of_isOptedOut : plannedClasses d.tree (names c d) i = [] := by
  rw [List.eq_nil_iff_forall_not_mem]
  intro className hclass
  -- a planned class comes from a name, and an element that opts out has none
  obtain ⟨n, -, hn, -⟩ := mem_plannedClasses.mp hclass
  obtain ⟨-, -, -, -, hnot, -⟩ := mem_names_iff.mp hn
  exact absurd (hopt.symm.trans hnot) (by decide)

/-- An element that opts out is not changed by the names of the others. -/
theorem element?_compileAll_of_isOptedOut (sheet : Sheet) :
    (compileAll c d.tree d.body sheet).tree.element? (some i) = d.tree.element? (some i) := by
  rw [(follows_compileAll c d sheet).tree, tree_compileNames, Tree.element?_addClasses,
    plannedClasses_eq_nil_of_isOptedOut hopt]
  cases d.tree.element? (some i) <;> rfl

/-- The pass as a whole does not change it either. -/
theorem element?_run_of_isOptedOut (hreach : d.tree.Reachable) (sheet : Sheet) :
    (run c d sheet).2.1.tree.element? (some i) = d.tree.element? (some i) := by
  have hcompiled := element?_compileAll_of_isOptedOut hopt sheet
  have harranged : ∃ kids, (compileAll c d.tree d.body sheet).tree.Arranged kids := by
    rw [(follows_compileAll c d sheet).tree]
    exact ⟨_, (reachable_compileNames hreach _).arranged⟩
  obtain ⟨kids, hkids⟩ := harranged
  unfold run
  split
  · -- there is no body
    rfl
  · split
    · -- the body itself opts out
      rfl
    · dsimp only
      split
      · -- the rules cannot be written, so the document is the compiled one
        exact hcompiled
      · next flushed sheet' d' hflush =>
        -- the rules are written at the end of the `style` element
        obtain ⟨-, t, rfl, hwritten⟩ := Sheet.rulesWritten_of_flush hkids hflush
        exact (hwritten.element?_eq i).trans hcompiled

/-- A pass leaves an element alone that opts out. -/
theorem optsOut_of_isOptedOut (hreach : d.tree.Reachable) : OptsOut c d i where
  collect _ h := classes_eq_nil_of_isOptedOut hopt h
  element := element?_run_of_isOptedOut hopt hreach
  body hbody sheet := by
    rw [run, hbody, if_neg (by simp), if_pos hopt]

end OptedOut

/-! ### Setting the attribute -/

/-- An element whose attribute has been set opts out, and its pass leaves it alone, if the settings
    give the name of the attribute in lower case. With a capital in the name, no element opts out
    by it. -/
theorem optsOut_setAttribute {c : Config} {d : Document} {t' : Tree} {i : Nat}
    (hreach : d.tree.Reachable)
    (hset : d.tree.setAttribute (some i) c.optOutAttribute c.optOutValue = .ok t') :
    (asciiLowercase c.optOutAttribute = c.optOutAttribute → OptsOut c { d with tree := t' } i) ∧
      (asciiLowercase c.optOutAttribute ≠ c.optOutAttribute → ∀ r, c.isOptedOut t' r = false) := by
  have hreach' : t'.Reachable := hreach.setAttribute hset
  constructor
  · intro hlower
    -- the name under which the attribute is kept is the one that is asked for
    have hfound : t'.attribute? (some i) c.optOutAttribute = some c.optOutValue := by
      rw [Tree.attribute?_setAttribute hset, if_pos hlower.symm]
    exact optsOut_of_isOptedOut (beq_iff_eq.mpr hfound) hreach'
  · intro hcapital r
    -- no attribute is kept under such a name
    rw [Config.isOptedOut, hreach'.attribute?_eq_none hcapital r]
    rfl

/-- The sample page, with an attribute set on its paragraph. -/
def sampleMarked (name value : String) : Document :=
  { samplePage with tree := (Edit.setAttribute (some 5) name value).apply samplePage.tree }

/-- The sample is the page with its attribute set. -/
theorem setAttribute_sampleMarked (name value : String) :
    samplePage.tree.setAttribute (some 5) name value = .ok (sampleMarked name value).tree := by
  have helement : samplePage.tree.isElement (some 5) = true := by decide +kernel
  obtain ⟨e, he⟩ := Option.isSome_iff_exists.mp helement
  have hset : samplePage.tree.setAttribute (some 5) name value =
      .ok (samplePage.tree.putElement (some 5) (e.setAttribute name value)) := by
    rw [Tree.setAttribute, Tree.requireElement_eq_ok_iff.mpr he]
    rfl
  rw [sampleMarked, Edit.apply, hset]
  rfl

/-- With the default settings the paragraph of the sample page can opt out, and it keeps its one
    class. -/
theorem optsOut_setAttribute_samplePage :
    OptsOut .default (sampleMarked "data-dystyle" "false") 5 ∧
      ((run .default (sampleMarked "data-dystyle" "false") sampleSheet).2.1.tree.classes?
        (some 5)).map (·.tokens) = some ["lcsAll_10px"] := by
  have hset := setAttribute_sampleMarked "data-dystyle" "false"
  have hlower : asciiLowercase Config.default.optOutAttribute = Config.default.optOutAttribute := by
    decide +kernel
  have hoptsOut : OptsOut .default (sampleMarked "data-dystyle" "false") 5 :=
    (optsOut_setAttribute (c := Config.default) ⟨_, rfl⟩ hset).1 hlower
  refine ⟨hoptsOut, ?_⟩
  have hclasses : ((sampleMarked "data-dystyle" "false").tree.element? (some 5)).map
      (·.classes.tokens) = some ["lcsAll_10px"] := by decide +kernel
  rw [Tree.classes?, hoptsOut.element, Option.map_map]
  exact hclasses

/-- Settings that pass the check and give the name with a capital. -/
def sampleCapital : Config := ⟨"lcs", "data-noStyle", "yes", "s"⟩

/-- Under these settings the paragraph has the attribute that it was given, in vain: its class is
    compiled, and it gets the generated one. -/
theorem run_sampleCapital :
    sampleCapital.check = .ok () ∧
      samplePage.tree.setAttribute (some 5) sampleCapital.optOutAttribute
        sampleCapital.optOutValue = .ok (sampleMarked "data-noStyle" "yes").tree ∧
      (run sampleCapital (sampleMarked "data-noStyle" "yes") sampleSheet).1.toOption.map
        (·.emitted) = some 1 ∧
      ((run sampleCapital (sampleMarked "data-noStyle" "yes") sampleSheet).2.1.tree.classes?
        (some 5)).map (·.tokens) = some ["lcsAll_10px", "_All_10px"] ∧
      ¬ OptsOut sampleCapital (sampleMarked "data-noStyle" "yes") 5 := by
  have hclasses : ((run sampleCapital (sampleMarked "data-noStyle" "yes")
      sampleSheet).2.1.tree.classes? (some 5)).map (·.tokens) =
        some ["lcsAll_10px", "_All_10px"] := by decide +kernel
  have hbefore : ((sampleMarked "data-noStyle" "yes").tree.classes? (some 5)).map (·.tokens) =
      some ["lcsAll_10px"] := by decide +kernel
  refine ⟨by decide +kernel, setAttribute_sampleMarked "data-noStyle" "yes", by decide +kernel,
    hclasses, fun hoptsOut => ?_⟩
  -- an element that is left alone keeps its classes
  rw [Tree.classes?, hoptsOut.element, ← Tree.classes?, hbefore] at hclasses
  exact absurd hclasses (by decide)

end ClassSheet.Pass
