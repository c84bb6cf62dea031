import ClassSheet.Proofs.Sheet.Names
import ClassSheet.Proofs.Sheet.Rules

/-! # A pass does what was planned

A pass reads classes, adds classes to elements, and collects rules, name by name. It comes to the
same as planning every name in the tree as it was before (`run_asPlanned`). `State.Follows` says
what a stretch of a pass does: one lemma for a single name, and one for stretches that follow each
other. -/

namespace ClassSheet

open Dom

namespace Pass

/-! ### The state of a pass -/

namespace State

/-- Taking a rule in changes no node. -/
@[simp] theorem tree_addRule (s : State) (rule : Css.Rule) : (s.addRule rule).tree = s.tree := by
  unfold addRule
  split <;> rfl

/-- The rule goes to the sheet, whether it is new or not. -/
theorem sheet_addRule (s : State) (rule : Css.Rule) :
    (s.addRule rule).sheet = (s.sheet.insert rule).2 := by
  unfold addRule
  split <;> simp [*]

/-- A rule that is taken in is no failure. -/
@[simp] theorem failures_addRule (s : State) (rule : Css.Rule) :
    (s.addRule rule).report.failures = s.report.failures := by
  unfold addRule
  split <;> rfl

/-- The rules that count as new are those by which the sheet has grown. -/
theorem emitted_addRule (s : State) (rule : Css.Rule) :
    (s.addRule rule).report.emitted + s.sheet.count =
      s.report.emitted + (s.addRule rule).sheet.count := by
  have hcount := s.sheet.count_insert rule
  unfold addRule
  split
  · next sheet h =>
    simp only [h, Bool.toNat_true] at hcount ⊢
    omega
  · next sheet h =>
    simp only [h, Bool.toNat_false] at hcount ⊢
    omega

/-- A rule that is offered to the sheet counts as new or as known. -/
theorem offered_addRule (s : State) (rule : Css.Rule) :
    (s.addRule rule).report.emitted + (s.addRule rule).report.duplicates =
      s.report.emitted + s.report.duplicates + 1 := by
  unfold addRule
  split <;> simp only <;> omega

/-- The state `s'` is what compiling names, one after the other, makes of the state `s`. -/
structure Follows (s : State) (names : List (Nat × EncodedName)) (s' : State) : Prop where
  tree : s'.tree = (compileNames s.tree names).2
  sheet : s'.sheet = s.sheet.insertAll ((compileNames s.tree names).1.filterMap Outcome.rule?)
  failures : s'.report.failures =
    s.report.failures ++ (compileNames s.tree names).1.filterMap Outcome.error?
  /-- The rules that count as new are those by which the sheet has grown. -/
  emitted : s'.report.emitted + s.sheet.count = s.report.emitted + s'.sheet.count
  /-- Every rule that the names come to is offered to the sheet once. -/
  offered : s'.report.emitted + s'.report.duplicates =
    s.report.emitted + s.report.duplicates +
      ((compileNames s.tree names).1.filterMap Outcome.rule?).length

namespace Follows

/-- What is counted besides does not matter. -/
theorem nil {s s' : State} (htree : s'.tree = s.tree) (hsheet : s'.sheet = s.sheet)
    (hfailures : s'.report.failures = s.report.failures)
    (hemitted : s'.report.emitted = s.report.emitted)
    (hduplicates : s'.report.duplicates = s.report.duplicates) : s.Follows [] s' where
  tree := htree
  sheet := hsheet
  failures := by simp [compileNames, hfailures]
  emitted := by rw [hsheet, hemitted]
  offered := by simp [compileNames, hemitted, hduplicates]

/-- A state that stays is what no name makes of it. -/
theorem refl (s : State) : s.Follows [] s := nil rfl rfl rfl rfl rfl

/-- A stretch of names and then another one. -/
theorem append {s s' s'' : State} {xs ys : List (Nat × EncodedName)} (h : s.Follows xs s')
    (h' : s'.Follows ys s'') : s.Follows (xs ++ ys) s'' where
  tree := by rw [compileNames_append, h'.tree, h.tree]
  sheet := by
    rw [compileNames_append, h'.sheet, h.sheet, h.tree, List.filterMap_append,
      Sheet.insertAll_append]
  failures := by
    rw [compileNames_append, h'.failures, h.failures, h.tree, List.filterMap_append,
      List.append_assoc]
  emitted := by
    have := h.emitted
    have := h'.emitted
    omega
  offered := by
    have hfirst := h.offered
    have hsecond := h'.offered
    rw [h.tree] at hsecond
    rw [compileNames_append, List.filterMap_append, List.length_append]
    omega

/-- A step of the pass: one name on one element. -/
theorem addName (s : State) (i : Nat) (n : EncodedName) :
    s.Follows [(i, n)] (s.addName i n) := by
  unfold State.addName
  dsimp only
  cases hc : n.compile s.tree (some i) with
  | error e =>
    -- no rule: the failure is noted, and everything else stays
    constructor <;> simp [compileNames, hc, addFailure, Sheet.insertAll, Outcome.rule?,
      Outcome.error?, List.filterMap_cons]
  | ok result =>
    obtain ⟨compiled, tree⟩ := result
    -- one rule: it is put into the sheet and counted
    have hrules : (compileNames s.tree [(i, n)]).1.filterMap Outcome.rule? = [compiled.rule] := by
      simp [compileNames, hc, Outcome.rule?]
    refine ⟨?_, ?_, ?_, emitted_addRule _ compiled.rule, ?_⟩
    · simp [compileNames, hc]
    · rw [hrules, sheet_addRule]
      rfl
    · simp [compileNames, hc, Outcome.error?]
    · rw [hrules]
      exact offered_addRule _ compiled.rule

/-- The classes of an element. -/
theorem foldl_addClass (c : Config) (i : Nat) (tokens : List String) (s : State) :
    s.Follows (tokens.filterMap fun token => (EncodedName.parse? c.marker token).map (i, ·))
      (tokens.foldl (addClass c i) s) := by
  induction tokens generalizing s with
  | nil => exact refl s
  | cons token tokens ih =>
    rw [List.foldl_cons, List.filterMap_cons, addClass]
    cases EncodedName.parse? c.marker token with
    | none => exact ih s
    | some n => exact (addName s i n).append (ih _)

/-- The elements of a list, each with its classes. -/
theorem foldl_addElement (c : Config) (entries : List (Nat × List String)) (s : State) :
    s.Follows
      (entries.flatMap fun entry =>
        entry.2.filterMap fun token => (EncodedName.parse? c.marker token).map (entry.1, ·))
      (entries.foldl (addElement c) s) := by
  induction entries generalizing s with
  | nil => exact refl s
  | cons entry entries ih =>
    rw [List.foldl_cons, List.flatMap_cons]
    have hcount : s.Follows []
        { s with report := { s.report with scanned := s.report.scanned + 1 } } :=
      nil rfl rfl rfl rfl rfl
    exact (hcount.append (foldl_addClass c entry.1 entry.2 _)).append (ih _)

end Follows

end State

/-- The names that a pass compiles are those on the elements that it has listed. -/
theorem flatMap_collect (c : Config) (d : Document) :
    ((collect c d.tree d.body).flatMap fun entry =>
      entry.2.filterMap fun token => (EncodedName.parse? c.marker token).map (entry.1, ·)) =
      names c d := by
  unfold collect names
  generalize d.tree.descendants d.body = nodes
  induction nodes with
  | nil => rfl
  | cons i nodes ih =>
    rw [List.flatMap_cons, ← ih, List.filter_cons]
    -- an element that opts out is listed, but without classes
    by_cases hclass : d.tree.hasAttribute (some i) "class" = true
    · by_cases hopt : c.isOptedOut d.tree (some i) = true <;> simp [hclass, hopt]
    · simp [hclass]

/-- The pass over the document follows the names that it finds. -/
theorem follows_compileAll (c : Config) (d : Document) (sheet : Sheet) :
    (State.mk d.tree sheet .empty).Follows (names c d) (compileAll c d.tree d.body sheet) := by
  rw [← flatMap_collect]
  exact State.Follows.foldl_addElement c _ _

/-! ### Running -/

/-- A pass that gets past a body that does not opt out compiles all names and writes the rules. -/
theorem run_eq_ok {c : Config} {d d' : Document} {sheet sheet' : Sheet} {r : Report}
    (hbody : d.body.isSome = true) (hopt : c.isOptedOut d.tree d.body = false)
    (h : run c d sheet = (.ok r, d', sheet')) :
    ∃ flushed, (compileAll c d.tree d.body sheet).sheet.flush
        { d with tree := (compileAll c d.tree d.body sheet).tree } =
          .ok (flushed, sheet', d') ∧
      r = { (compileAll c d.tree d.body sheet).report with flushed } := by
  unfold run at h
  rw [if_neg (by rwa [Bool.not_eq_true, Option.isNone_eq_false_iff]), if_neg (by simp [hopt])] at h
  simp only at h
  split at h
  · exact nomatch (Prod.mk.inj h).1
  · next flushed sheet'' d'' hflush =>
    obtain ⟨hr, rfl, rfl⟩ := by simpa using h
    exact ⟨flushed, hflush, hr.symm⟩

/-- A pass is a sequence of edits, so it leads to a reachable tree. -/
theorem reachable_run {c : Config} {d d' : Document} {sheet sheet' : Sheet} {r : Report}
    (hreach : d.tree.Reachable) (hbody : d.body.isSome = true)
    (hopt : c.isOptedOut d.tree d.body = false) (h : run c d sheet = (.ok r, d', sheet')) :
    d'.tree.Reachable := by
  obtain ⟨flushed, hflush, -⟩ := run_eq_ok hbody hopt h
  obtain ⟨-, t, rfl, hwritten⟩ := Sheet.flush_eq_ok hflush
  have hcompiled : (compileAll c d.tree d.body sheet).tree.Reachable := by
    rw [(follows_compileAll c d sheet).tree]
    exact reachable_compileNames hreach _
  rcases hwritten with ⟨-, rfl⟩ | ⟨-, happend⟩
  · exact hcompiled
  · have hedit := hcompiled.apply (.appendText (compileAll c d.tree d.body sheet).sheet.styleElement
      (String.join (compileAll c d.tree d.body sheet).sheet.pending))
    rw [Edit.apply, happend] at hedit
    exact hedit

/-- The sheet and the document after such a pass, in terms of plans. -/
theorem run_eq_planned {c : Config} {d d' : Document} {sheet sheet' : Sheet} {r : Report}
    (hreach : d.tree.Reachable) (hbody : d.body.isSome = true)
    (hopt : c.isOptedOut d.tree d.body = false) (h : run c d sheet = (.ok r, d', sheet')) :
    sheet' = (sheet.insertAll (plannedRules d.tree (names c d))).written ∧
      ∃ t, d' = { d with tree := t } ∧
        (d.tree.addClasses (plannedClasses d.tree (names c d))).RulesWritten sheet.styleElement
          (sheet.insertAll (plannedRules d.tree (names c d))).pending t := by
  have hall := follows_compileAll c d sheet
  have htree : (compileAll c d.tree d.body sheet).tree =
      d.tree.addClasses (plannedClasses d.tree (names c d)) := by
    rw [hall.tree, tree_compileNames]
  have hsheet : (compileAll c d.tree d.body sheet).sheet =
      sheet.insertAll (plannedRules d.tree (names c d)) := by
    rw [hall.sheet, filterMap_rule?_compileNames]
  obtain ⟨flushed, hflush, -⟩ := run_eq_ok hbody hopt h
  -- the rules are written when all classes are there
  rw [htree, hsheet] at hflush
  have hwritten := Sheet.rulesWritten_of_flush (hreach.arranged.addClasses _) hflush
  rwa [Sheet.styleElement_insertAll] at hwritten

/-- Classes are all that a pass adds to an element. -/
theorem element?_run {c : Config} {d d' : Document} {sheet sheet' : Sheet} {r : Report}
    (hreach : d.tree.Reachable) (hbody : d.body.isSome = true)
    (hopt : c.isOptedOut d.tree d.body = false) (h : run c d sheet = (.ok r, d', sheet'))
    (i : Nat) :
    d'.tree.element? (some i) = (d.tree.element? (some i)).map
      (·.addClasses (plannedClasses d.tree (names c d) i)) := by
  obtain ⟨-, t, rfl, hwritten⟩ := run_eq_planned hreach hbody hopt h
  rw [hwritten.element?_eq, Tree.element?_addClasses]

/-! ### A page as an example -/

/-- A page with one paragraph that has one encoded name. -/
def samplePage : Document where
  tree := Tree.ofEdits
    [.createElement "html", .appendChild (some 0) (some 1), .createElement "head",
      .appendChild (some 1) (some 2), .createElement "style", .appendChild (some 2) (some 3),
      .createElement "body", .appendChild (some 1) (some 4), .createElement "p",
      .appendChild (some 4) (some 5), .setAttribute (some 5) "class" "lcsAll_10px"]
  html := some 1
  head := some 2
  body := some 4

/-- The sheet of the sample page, without a rule. -/
def sampleSheet : Sheet := ⟨.empty, .empty, some 3⟩

/-- The pass over the sample page writes its only rule. -/
theorem run_samplePage :
    ∃ r d' sheet', run .default samplePage sampleSheet = (.ok r, d', sheet') ∧ r.emitted = 1 := by
  have hemitted : (run .default samplePage sampleSheet).1.toOption.map (·.emitted) = some 1 := by
    decide +kernel
  cases hrun : run .default samplePage sampleSheet with
  | mk result rest =>
    rw [hrun] at hemitted
    cases result with
    | error e => exact nomatch hemitted
    | ok r => exact ⟨r, rest.1, rest.2, rfl, Option.some.inj hemitted⟩

/-! ### Planning comes to the same -/

/-- The pass from `d` and `sheet` to `d'` and `sheet'` has done just what the plans that are made in
    `d` say. -/
structure AsPlanned (c : Config) (d : Document) (sheet : Sheet) (r : Report) (d' : Document)
    (sheet' : Sheet) : Prop where
  /-- On its way the pass compiles the names one after the other, and offers the rules that they
      come to, in order, to the sheet. -/
  compiled : (State.mk d.tree sheet .empty).Follows (names c d) (compileAll c d.tree d.body sheet)
  /-- The rules that the names come to on the way, in order, are those of the plans. -/
  offered : (compileNames d.tree (names c d)).1.filterMap Outcome.rule? =
    plannedRules d.tree (names c d)
  /-- Each of them has been offered once: it was new to the sheet or known. -/
  counted : r.emitted + r.duplicates = (plannedRules d.tree (names c d)).length
  emitted : r.emitted + sheet.count = sheet'.count
  /-- The sheet has taken them in that order, and then all its rules have been written. -/
  taken : sheet' =
    (sheet.insertAll ((compileNames d.tree (names c d)).1.filterMap Outcome.rule?)).written
  /-- The failures are those of the plans, but for the start tags in them. -/
  failures : r.failures.map CompileError.withoutElement =
    ((plans d.tree (names c d)).filterMap Outcome.error?).map CompileError.withoutElement
  /-- An element has got the classes of its plans, and its `class` attribute accordingly. -/
  element : ∀ i e, d.tree.element? (some i) = some e →
    ∃ e', d'.tree.element? (some i) = some e' ∧ e'.tag = e.tag ∧
      e'.classes = e.classes.addAll (plannedClasses d.tree (names c d) i) ∧
      e'.attributes =
        if e'.classes = e.classes then e.attributes
        else Element.putAttribute "class" e'.classes.value e.attributes
  /-- Apart from that only the text at the end of the `style` element differs. -/
  tree : (d.tree.addClasses (plannedClasses d.tree (names c d))).RulesWritten sheet.styleElement
    (sheet.insertAll (plannedRules d.tree (names c d))).pending d'.tree
  landmarks : d'.html = d.html ∧ d'.head = d.head ∧ d'.body = d.body

/-- A pass comes to the same as planning everything in the tree as it was before. -/
theorem run_asPlanned {c : Config} {d d' : Document} {sheet sheet' : Sheet} {r : Report}
    (hreach : d.tree.Reachable) (hbody : d.body.isSome = true)
    (hopt : c.isOptedOut d.tree d.body = false) (hrun : run c d sheet = (.ok r, d', sheet')) :
    AsPlanned c d sheet r d' sheet' := by
  have hrules := filterMap_rule?_compileNames d.tree (names c d)
  have hcompiled := follows_compileAll c d sheet
  obtain ⟨hsheet, t, hd', hwritten⟩ := run_eq_planned hreach hbody hopt hrun
  obtain ⟨flushed, -, rfl⟩ := run_eq_ok hbody hopt hrun
  refine
    { compiled := hcompiled, offered := hrules, counted := ?_, emitted := ?_, taken := ?_
      failures := ?_, element := fun i e he => ?_, tree := ?_, landmarks := ?_ }
  · -- the counters are those of the fold, with the planned rules for the rules that it offers
    have hoffered := hcompiled.offered
    rw [hrules] at hoffered
    simpa [Report.empty] using hoffered
  · have hemitted := hcompiled.emitted
    rw [hcompiled.sheet, hrules] at hemitted
    rw [hsheet, Sheet.count_written]
    simpa [Report.empty] using hemitted
  · rw [hrules, hsheet]
  · rw [← filterMap_error?_compileNames]
    exact congrArg _ hcompiled.failures
  · -- the elements are read off the tree that the pass leaves
    have he' := element?_run hreach hbody hopt hrun i
    rw [he] at he'
    exact ⟨_, he', e.tag_addClasses _, e.classes_addClasses _, e.attributes_addClasses _⟩
  · rw [hd']
    exact hwritten
  · rw [hd']
    exact ⟨rfl, rfl, rfl⟩

/-- The pass over the sample page adds a rule, and it was planned. -/
theorem run_asPlanned_samplePage :
    ∃ r d' sheet', run .default samplePage sampleSheet = (.ok r, d', sheet') ∧ r.emitted = 1 ∧
      AsPlanned .default samplePage sampleSheet r d' sheet' := by
  obtain ⟨r, d', sheet', hrun, hemitted⟩ := run_samplePage
  exact ⟨r, d', sheet', hrun, hemitted, run_asPlanned ⟨_, rfl⟩ rfl (by decide +kernel) hrun⟩

end Pass

end ClassSheet
