import ClassSheet.Proofs.Dom.Preorder
import ClassSheet.Proofs.Name.Generated
import ClassSheet.Proofs.Sheet.Pass

/-! # A second pass changes nothing

After a pass every element has its generated classes and the sheet holds all rules. A pass over the
result finds no name that was not there before, plans for each of them what was planned before, and
so adds nothing (`run_again`). -/

namespace ClassSheet

open Dom

/-! ### Trees that have grown -/

/-- The tree `t'` is `t` with classes added to its elements, and perhaps with other nodes, none of
    them elements. -/
structure Dom.Tree.Grown (t t' : Tree) (added : Nat → List String) : Prop where
  link_parent : ∀ i < t.size, t'.link (·.parent) i = t.link (·.parent) i
  element? : ∀ i, t'.element? (some i) = (t.element? (some i)).map (·.addClasses (added i))

namespace Dom.Tree.Grown

variable {t t' : Tree} {added : Nat → List String} {kids kids' : Nat → List Nat}

/-- No old node has moved. -/
theorem within (hg : t.Grown t' added) (h : t.Arranged kids) {b a : Nat} (hb : b < t.size)
    (hw : t'.Within b a) : t.Within b a :=
  (h.within_iff_of_link_parent_eq hg.link_parent hb).mp hw

/-- What lies below a node did so before. -/
theorem below (hg : t.Grown t' added) (h : t.Arranged kids) {b a : Nat} (hb : b < t.size)
    (hw : t'.Below b a) : t.Below b a := by
  obtain ⟨p, hc, hp⟩ := Relation.TransGen.head'_iff.mp hw
  rw [IsChild, hg.link_parent b hb] at hc
  exact .head' hc (hg.within h (h.lt_size_of_isChild hc) hp)

/-- Tags stay. -/
theorem tag?_eq (hg : t.Grown t' added) (r : NodeRef) : t'.tag? r = t.tag? r := by
  cases r with
  | none => rfl
  | some i =>
    rw [tag?, hg.element?, Option.map_map, tag?]
    exact congrArg (Option.map · _) (funext fun e => e.tag_addClasses _)

/-- Parents that are elements stay. -/
theorem parentElement_eq (hg : t.Grown t' added) {i : Nat} (hi : i < t.size) :
    t'.parentElement (some i) = t.parentElement (some i) := by
  have hparent : t'.parent (some i) = t.parent (some i) := hg.link_parent i hi
  rw [parentElement, parentElement, hparent, isElement_eq_tag?, isElement_eq_tag?, hg.tag?_eq]

/-- What can be planned in the grown tree could be planned before. -/
theorem plan_eq_ok (hg : t.Grown t' added) (h : t.Arranged kids) (h' : t'.Arranged kids')
    {n : EncodedName} {i : Nat} {compiled : Compiled} (hp : n.plan t' (some i) = .ok compiled) :
    n.plan t (some i) = .ok compiled := by
  -- a plan asks for tags, for what hangs where, and for nothing else that may have grown
  obtain ⟨e', he', hlen, hne, hconnected, hcompiled⟩ := EncodedName.plan_eq_ok_iff.mp hp
  have hi' := lt_size_of_element? he'
  rw [hg.element?] at he'
  obtain ⟨e, he, rfl⟩ := Option.map_eq_some_iff.mp he'
  have hi := lt_size_of_element? he
  rw [e.tag_addClasses, hg.parentElement_eq hi, hg.tag?_eq] at hcompiled
  refine EncodedName.plan_eq_ok_iff.mpr ⟨e, he, hlen, hne, ?_, hcompiled⟩
  rw [h'.isConnected_iff] at hconnected
  exact h.isConnected_iff.mpr (hg.within h hi hconnected)

end Dom.Tree.Grown

namespace Pass

section Again

variable {c : Config} {d d' : Document} {sheet sheet' : Sheet} {r : Report}
  (hreach : d.tree.Reachable) (hbody : d.body.isSome = true)
  (hopt : c.isOptedOut d.tree d.body = false) (hrun : run c d sheet = (.ok r, d', sheet'))

include hreach hbody hopt hrun

/-- A run leaves the nodes that were there where they are, and adds the classes of the compiled
    names. -/
theorem grown_run : d.tree.Grown d'.tree (plannedClasses d.tree (names c d)) where
  link_parent i hi := by
    obtain ⟨-, t, rfl, hwritten⟩ := run_eq_planned hreach hbody hopt hrun
    rw [hwritten.link_parent (by rwa [Tree.size_addClasses])]
    exact Tree.link_addClasses (f := (·.parent)) (fun _ _ => rfl) d.tree _ i
  element? := element?_run hreach hbody hopt hrun

/-- The elements that a second pass looks at were looked at by the first one. -/
theorem mem_descendants_of_run {i : Nat} {e : Element} (he : d.tree.element? (some i) = some e)
    (hi : i ∈ d'.tree.descendants d'.body) : i ∈ d.tree.descendants d.body := by
  have hg := grown_run hreach hbody hopt hrun
  have hreach' := reachable_run hreach hbody hopt hrun
  obtain ⟨-, t, rfl, -⟩ := run_eq_planned hreach hbody hopt hrun
  obtain ⟨body, hb⟩ := Option.isSome_iff_exists.mp hbody
  dsimp only at hi hg hreach'
  rw [hb, hreach'.arranged.mem_descendants_iff] at hi
  rw [hb, hreach.arranged.mem_descendants_iff]
  exact hg.below hreach.arranged (Tree.lt_size_of_element? he) hi

/-- The names that a second pass finds were found by the first one. -/
theorem mem_names_of_run (hne : c.marker ≠ "")
    (hmarker : EncodedName.begins c.marker.toList = false) {i : Nat} {n : EncodedName}
    (h : (i, n) ∈ names c d') : (i, n) ∈ names c d := by
  obtain ⟨hi, e', he', hclass, hopt', token, htoken, hn⟩ := mem_names_iff.mp h
  have helement := element?_run hreach hbody hopt hrun i
  rw [helement] at he'
  obtain ⟨e, he, rfl⟩ := Option.map_eq_some_iff.mp he'
  have hlisted : e.hasAttribute "class" = true ∧ c.isOptedOut d.tree (some i) = false := by
    cases hp : plannedClasses d.tree (names c d) i with
    | nil =>
      -- the first pass has left the element as it was
      rw [hp] at hclass helement
      refine ⟨hclass, ?_⟩
      rw [Config.isOptedOut, Tree.attribute?, he]
      rw [Config.isOptedOut, Tree.attribute?, helement, he] at hopt'
      exact hopt'
    | cons className others =>
      -- classes are added only to elements that are looked at
      have hmem : className ∈ plannedClasses d.tree (names c d) i := hp ▸ List.mem_cons_self
      obtain ⟨m, -, hm, -⟩ := mem_plannedClasses.mp hmem
      obtain ⟨-, e₂, he₂, hclass₂, hopt₂, -⟩ := mem_names_iff.mp hm
      obtain rfl : e = e₂ := Option.some.inj (he.symm.trans he₂)
      exact ⟨hclass₂, hopt₂⟩
  rw [e.classes_addClasses, ClassList.mem_tokens_addAll] at htoken
  rcases htoken with htoken | ⟨hplanned, -⟩
  · exact mem_names_iff.mpr ⟨mem_descendants_of_run hreach hbody hopt hrun he hi, e, he,
      hlisted.1, hlisted.2, token, htoken, hn⟩
  · -- a generated class is no encoded name
    obtain ⟨m, compiled, hm, hplan, hcn⟩ := mem_plannedClasses.mp hplanned
    obtain ⟨-, -, -, -, -, token', -, hparse⟩ := mem_names_iff.mp hm
    have hvalid := (EncodedName.parse?_eq_some_iff.mp hparse).1
    rw [EncodedName.className_of_plan hplan token hcn,
      EncodedName.parse?_className_eq_none hne hmarker hvalid] at hn
    exact nomatch hn

variable (hne : c.marker ≠ "") (hmarker : EncodedName.begins c.marker.toList = false)

include hne hmarker

/-- What a second pass plans was planned by the first one. -/
theorem plan_of_run {i : Nat} {n : EncodedName} {compiled : Compiled} (h : (i, n) ∈ names c d')
    (hp : n.plan d'.tree (some i) = .ok compiled) :
    (i, n) ∈ names c d ∧ n.plan d.tree (some i) = .ok compiled :=
  ⟨mem_names_of_run hreach hbody hopt hrun hne hmarker h,
    (grown_run hreach hbody hopt hrun).plan_eq_ok hreach.arranged
      (reachable_run hreach hbody hopt hrun).arranged hp⟩

/-- The classes that a second pass plans are there. -/
theorem addClasses_of_run :
    d'.tree.addClasses (plannedClasses d'.tree (names c d')) = d'.tree := by
  refine Tree.addClasses_of_mem fun i e' he' name hname htoken => ?_
  obtain ⟨n, compiled, hn, hp, hcn⟩ := mem_plannedClasses.mp hname
  obtain ⟨hn, hp⟩ := plan_of_run hreach hbody hopt hrun hne hmarker hn hp
  rw [element?_run hreach hbody hopt hrun] at he'
  obtain ⟨e, -, rfl⟩ := Option.map_eq_some_iff.mp he'
  rw [e.classes_addClasses, ClassList.mem_tokens_addAll]
  exact Or.inr ⟨mem_plannedClasses.mpr ⟨n, compiled, hn, hp, hcn⟩, htoken⟩

/-- The rules that a second pass plans are in the sheet. -/
theorem insertAll_of_run :
    sheet'.insertAll (plannedRules d'.tree (names c d')) = sheet' := by
  refine Sheet.insertAll_of_holds fun rule hrule => ?_
  obtain ⟨i, n, compiled, hn, hp, hcr⟩ := mem_plannedRules.mp hrule
  obtain ⟨hn, hp⟩ := plan_of_run hreach hbody hopt hrun hne hmarker hn hp
  obtain ⟨hsheet, -⟩ := run_eq_planned hreach hbody hopt hrun
  rw [hsheet, Sheet.holds_written, Sheet.holds_insertAll]
  exact Or.inr ⟨rule, mem_plannedRules.mpr ⟨i, n, compiled, hn, hp, hcr⟩, rfl⟩

/-- Compiling everything once more leaves the tree and the sheet as they are. -/
theorem compileAll_of_run :
    (compileAll c d'.tree d'.body sheet').tree = d'.tree ∧
      (compileAll c d'.tree d'.body sheet').sheet = sheet' ∧
      (compileAll c d'.tree d'.body sheet').report.emitted = 0 := by
  have hall := follows_compileAll c d' sheet'
  have hsheet : (compileAll c d'.tree d'.body sheet').sheet = sheet' := by
    rw [hall.sheet, filterMap_rule?_compileNames]
    exact insertAll_of_run hreach hbody hopt hrun hne hmarker
  refine ⟨?_, hsheet, ?_⟩
  · rw [hall.tree, tree_compileNames]
    exact addClasses_of_run hreach hbody hopt hrun hne hmarker
  · -- a sheet that has not grown has taken no new rule
    have hemitted := hall.emitted
    rw [hsheet] at hemitted
    simpa [Report.empty] using hemitted

end Again

/-- A configuration that passes its check has a marker. -/
theorem marker_ne_of_check {c : Config} (h : c.check = .ok ()) : c.marker ≠ "" := by
  intro hempty
  simp [Config.check, Config.get, hempty] at h

/-- If the marker cannot be confused with the beginning of a generated class, a second pass right
    after the first one changes nothing. -/
theorem run_again {c : Config} {d d' : Document} {sheet sheet' : Sheet} {r : Report}
    (hcheck : c.check = .ok ()) (hmarker : EncodedName.begins c.marker.toList = false)
    (hreach : d.tree.Reachable) (hrun : run c d sheet = (.ok r, d', sheet')) :
    ∃ r', run c d' sheet' = (.ok r', d', sheet') ∧ r'.emitted = 0 ∧ r'.flushed = 0 := by
  have hne := marker_ne_of_check hcheck
  cases hbody : d.body.isSome with
  | false =>
    have hnone : d.body.isNone = true := by rw [← Option.not_isSome, hbody, Bool.not_false]
    -- without a body, and with one that opts out, there is nothing to do in either pass
    rw [run, if_pos hnone] at hrun
    obtain ⟨-, rfl, rfl⟩ := by simpa using hrun
    exact ⟨.empty, by rw [run, if_pos hnone], rfl, rfl⟩
  | true =>
    have hsome {x : Document} (hx : x.body = d.body) : ¬ x.body.isNone = true := by
      rw [hx, ← Option.not_isSome, hbody, Bool.not_true]
      exact Bool.false_ne_true
    cases hopt : c.isOptedOut d.tree d.body with
    | true =>
      rw [run, if_neg (hsome rfl), if_pos hopt] at hrun
      obtain ⟨-, rfl, rfl⟩ := by simpa using hrun
      exact ⟨_, by rw [run, if_neg (hsome rfl), if_pos hopt], rfl, rfl⟩
    | false =>
      obtain ⟨htree, hsheet, hemitted⟩ :=
        compileAll_of_run hreach hbody hopt hrun hne hmarker
      obtain ⟨hwritten, t, hd', -⟩ := run_eq_planned hreach hbody hopt hrun
      have hbody' : d'.body = d.body := by rw [hd']
      -- a second pass that opts out would do nothing at all, so it need not be excluded
      by_cases hopt' : c.isOptedOut d'.tree d'.body = true
      · exact ⟨_, by rw [run, if_neg (hsome hbody'), if_pos hopt'], rfl, rfl⟩
      · -- nothing is pending, so nothing is written
        have hflush : sheet'.flush d' = .ok (0, sheet', d') := by
          rw [hwritten, Sheet.flush, Sheet.pending_written]
          rfl
        refine ⟨{ (compileAll c d'.tree d'.body sheet').report with flushed := 0 }, ?_, hemitted,
          rfl⟩
        rw [run, if_neg (hsome hbody'), if_neg hopt']
        simp only [htree, hsheet, hflush]

/-- The first pass over the sample page adds a rule, the second one none. -/
theorem run_again_samplePage :
    ∃ r d' sheet' r', run .default samplePage sampleSheet = (.ok r, d', sheet') ∧ r.emitted = 1 ∧
      run .default d' sheet' = (.ok r', d', sheet') ∧ r'.emitted = 0 ∧ r'.flushed = 0 := by
  obtain ⟨r, d', sheet', hrun, hemitted⟩ := run_samplePage
  obtain ⟨r', hagain⟩ := run_again (by decide +kernel) (by decide) ⟨_, rfl⟩ hrun
  exact ⟨r, d', sheet', r', hrun, hemitted, hagain⟩

end Pass

end ClassSheet
