import ClassSheet.Proofs.Sheet.Ledger
import ClassSheet.Proofs.Sheet.Pass

/-! # The counts of a report

A pass counts elements, names, rules and failures as it goes. `State.Counts` relates the counts of a
stretch of a pass to each other, and `Sheet.Grown` says how the sheet grows meanwhile. Whatever has
happened to a sheet, no more rules count as written than there are (`Sheet.Reachable.inLine`), so
that the rules that wait can be counted too (`Pass.run_balanced`). -/

namespace ClassSheet

open Dom

/-! ### Buckets that grow -/

/-- The bucket `b'` is `b` with more rules that wait behind the others. -/
structure Bucket.Grown (b b' : Bucket) : Prop where
  rules : b.rules <+: b'.rules
  flushed : b'.flushed = b.flushed

/-- No more rules count as written than there are. -/
def Bucket.InLine (b : Bucket) : Prop := b.flushed ≤ b.length

/-- Marked as written are all rules, and no more. -/
theorem Bucket.inLine_markFlushed (b : Bucket) : b.markFlushed.InLine := Nat.le_refl _

namespace Bucket.Grown

variable {b b' b'' : Bucket}

/-- A bucket that stays has grown by nothing. -/
theorem refl (b : Bucket) : b.Grown b := ⟨List.prefix_rfl, rfl⟩

/-- Stretches of growth follow each other. -/
theorem trans (h : b.Grown b') (h' : b'.Grown b'') : b.Grown b'' :=
  ⟨h.rules.trans h'.rules, h'.flushed.trans h.flushed⟩

/-- Inserting a rule makes a bucket grow. -/
theorem insert (b : Bucket) (rule : String) : b.Grown (b.insert rule).2 := by
  unfold Bucket.insert
  split
  · exact refl b
  · exact ⟨List.prefix_append _ _, rfl⟩

/-- A bucket that has grown counts no more rules as written than before. -/
theorem inLine (h : b.Grown b') (hb : b.InLine) : b'.InLine := by
  have hlength : b.length ≤ b'.length := h.rules.length_le
  exact Nat.le_trans (Nat.le_of_eq h.flushed) (Nat.le_trans hb hlength)

/-- All the rules by which the bucket has grown wait. -/
theorem length_pending (h : b.Grown b') (hb : b.InLine) :
    b'.pending.length + b.length = b.pending.length + b'.length := by
  -- both lists are cut at the same place, which lies within both
  have hle : b.flushed ≤ b.rules.length := hb
  have hle' : b'.flushed ≤ b'.rules.length := h.inLine hb
  rw [h.flushed] at hle'
  rw [pending, pending, List.length_drop, List.length_drop, h.flushed, Bucket.length,
    Bucket.length]
  omega

end Bucket.Grown

namespace Sheet

/-! ### Sheets that grow -/

/-- The sheet `s'` is `s` with more rules that wait. -/
structure Grown (s s' : Sheet) : Prop where
  plain : s.plain.Grown s'.plain
  media : s.media.Grown s'.media

/-- No more rules count as written than there are. -/
structure InLine (s : Sheet) : Prop where
  plain : s.plain.InLine
  media : s.media.InLine

namespace Grown

variable {s s' s'' : Sheet}

/-- Inserting a text makes a sheet grow. -/
theorem insertText (s : Sheet) (rule : String) : s.Grown (s.insertText rule).2 := by
  unfold Sheet.insertText
  split
  · exact ⟨.refl _, .insert _ rule⟩
  · exact ⟨.insert _ rule, .refl _⟩

/-- Inserting rules makes a sheet grow. -/
theorem insertAll (s : Sheet) (rules : List Css.Rule) : s.Grown (s.insertAll rules) := by
  induction rules generalizing s with
  | nil => exact ⟨.refl _, .refl _⟩
  | cons rule rules ih =>
    have hrule : s.Grown (s.insert rule).2 := insertText s rule.css
    have hrules := ih (s.insert rule).2
    exact ⟨hrule.plain.trans hrules.plain, hrule.media.trans hrules.media⟩

/-- A sheet that has grown stays in line. -/
theorem inLine (h : s.Grown s') (hs : s.InLine) : s'.InLine :=
  ⟨h.plain.inLine hs.plain, h.media.inLine hs.media⟩

/-- All the rules by which a sheet has grown wait. -/
theorem length_pending (h : s.Grown s') (hs : s.InLine) :
    s'.pending.length + s.count = s.pending.length + s'.count := by
  have hplain := h.plain.length_pending hs.plain
  have hmedia := h.media.length_pending hs.media
  rw [pending, pending, count, count, List.length_append, List.length_append]
  omega

end Grown

/-- A sheet that was written is in line. -/
theorem inLine_written (s : Sheet) : s.written.InLine :=
  ⟨s.plain.inLine_markFlushed, s.media.inLine_markFlushed⟩

/-- Writing out tells how many rules waited. -/
theorem count_of_flush {s s' : Sheet} {d d' : Document} {count : Nat}
    (h : s.flush d = .ok (count, s', d')) : count = s.pending.length := by
  by_cases hnil : s.pending = []
  · rw [flush_of_pending_eq_nil hnil] at h
    rw [hnil]
    exact (congrArg Prod.fst (Except.ok.inj h)).symm
  · rw [flush_of_pending_ne_nil hnil] at h
    cases happend : d.appendStyleText s.styleElement (String.join s.pending) with
    | error e => rw [happend] at h; exact nomatch h
    | ok d' =>
      rw [happend] at h
      exact (congrArg Prod.fst (Except.ok.inj h)).symm

/-! ### Sheets that calls lead to -/

/-- A sheet is made for a document, takes rules, is written out and is used by passes, with any
    documents. -/
inductive Reachable : Sheet → Prop
  | new {d d' : Document} {styleId : String} {s : Sheet}
    (h : Sheet.new d styleId = (.ok s, d')) : Reachable s
  | insertText {s : Sheet} (h : Reachable s) (rule : String) : Reachable (s.insertText rule).2
  | flush {s s' : Sheet} {d d' : Document} {count : Nat} (h : Reachable s)
    (hflush : s.flush d = .ok (count, s', d')) : Reachable s'
  /-- A pass that fails to write its rules has put them in. -/
  | run {s : Sheet} (h : Reachable s) (c : Config) (d : Document) :
    Reachable (Pass.run c d s).2.2

/-- A new sheet is in line. -/
theorem inLine_new {d d' : Document} {styleId : String} {s : Sheet}
    (h : Sheet.new d styleId = (.ok s, d')) : s.InLine := by
  unfold Sheet.new at h
  dsimp only at h
  cases hstyle : (d.ensureStyle styleId).1 with
  | error e =>
    rw [hstyle] at h
    exact nomatch (Prod.mk.inj h).1
  | ok style =>
    rw [hstyle] at h
    obtain rfl := Except.ok.inj (Prod.mk.inj h).1
    exact ⟨Nat.le_refl _, Nat.le_refl _⟩

end Sheet

namespace Pass

/-- The sheet grows while names are compiled. -/
theorem grown_compileAll (c : Config) (d : Document) (sheet : Sheet) :
    sheet.Grown (compileAll c d.tree d.body sheet).sheet := by
  rw [(follows_compileAll c d sheet).sheet]
  exact .insertAll sheet _

/-- A pass leaves the sheet in line. -/
theorem inLine_run {sheet : Sheet} (h : sheet.InLine) (c : Config) (d : Document) :
    (run c d sheet).2.2.InLine := by
  have hcompiled := (grown_compileAll c d sheet).inLine h
  unfold run
  split
  · exact h
  · split
    · exact h
    · dsimp only
      split
      · exact hcompiled
      · next hflush =>
        obtain ⟨rfl, -⟩ := Sheet.flush_eq_ok hflush
        exact Sheet.inLine_written _

end Pass

/-- Every sheet that passes lead to is in line. -/
theorem Sheet.Reachable.inLine {s : Sheet} (h : s.Reachable) : s.InLine := by
  induction h with
  | new hnew => exact inLine_new hnew
  | insertText _ rule ih => exact (Grown.insertText _ rule).inLine ih
  | flush _ hflush _ =>
    obtain ⟨rfl, -⟩ := flush_eq_ok hflush
    exact inLine_written _
  | run _ c d ih => exact Pass.inLine_run ih c d

/-- How many names came to a new rule, to a known rule or to a failure. -/
def Report.outcomes (r : Report) : Nat := r.emitted + r.duplicates + r.failures.length

namespace Pass

/-! ### Counting on the way -/

/-- From `s` to `s'`, one more name came to something, and nothing else was counted. -/
structure State.Settles (s s' : State) : Prop where
  optedOut : s'.report.optedOut = s.report.optedOut
  scanned : s'.report.scanned = s.report.scanned
  matched : s'.report.matched = s.report.matched
  outcomes : s'.report.outcomes = s.report.outcomes + 1

namespace State.Settles

/-- A failure settles a name. -/
theorem addFailure (s : State) (e : CompileError) : s.Settles (s.addFailure e) := by
  refine ⟨rfl, rfl, rfl, ?_⟩
  have hlength : (s.report.failures ++ [e]).length = s.report.failures.length + 1 :=
    List.length_append
  simp only [State.addFailure, Report.outcomes, hlength]
  omega

/-- A rule is new or known. -/
theorem addRule (s : State) (rule : Css.Rule) : s.Settles (s.addRule rule) := by
  unfold State.addRule
  split <;> refine ⟨rfl, rfl, rfl, ?_⟩ <;> simp only [Report.outcomes] <;> omega

end State.Settles

/-- From `s` to `s'`, so many elements were looked at, and as many names were matched as came to
    something. -/
structure State.Counts (s : State) (elements : Nat) (s' : State) : Prop where
  optedOut : s'.report.optedOut = s.report.optedOut
  scanned : s'.report.scanned = s.report.scanned + elements
  matched : s'.report.matched + s.report.outcomes = s.report.matched + s'.report.outcomes

namespace State.Counts

variable {s s' s'' : State} {m n : Nat}

/-- Nothing is counted where nothing is done. -/
theorem refl (s : State) : s.Counts 0 s := ⟨rfl, rfl, rfl⟩

/-- The counts of stretches add up. -/
theorem trans (h : s.Counts m s') (h' : s'.Counts n s'') : s.Counts (m + n) s'' where
  optedOut := h'.optedOut.trans h.optedOut
  scanned := by rw [h'.scanned, h.scanned, Nat.add_assoc]
  matched := by
    have := h.matched
    have := h'.matched
    omega

/-- A name is counted twice: when it is matched, and when it comes to something. -/
theorem of_settles {matched : State}
    (hreport : matched.report = { s.report with matched := s.report.matched + 1 })
    (h : matched.Settles s') : s.Counts 0 s' := by
  have hmatched := h.matched
  have houtcomes := h.outcomes
  rw [hreport] at hmatched houtcomes
  refine ⟨by rw [h.optedOut, hreport], by rw [h.scanned, hreport]; rfl, ?_⟩
  rw [hmatched, houtcomes]
  simp only [Report.outcomes]
  omega

/-- A step of the pass: one name on one element. -/
theorem addName (s : State) (i : Nat) (name : EncodedName) : s.Counts 0 (s.addName i name) := by
  unfold State.addName
  dsimp only
  cases name.compile s.tree (some i) with
  | error e => exact of_settles rfl (.addFailure _ e)
  | ok result => exact of_settles rfl (.addRule _ result.1.rule)

/-- The classes of an element, one after the other. -/
theorem foldl_addClass (c : Config) (i : Nat) (tokens : List String) (s : State) :
    s.Counts 0 (tokens.foldl (addClass c i) s) := by
  induction tokens generalizing s with
  | nil => exact refl s
  | cons token tokens ih =>
    rw [List.foldl_cons, addClass]
    cases EncodedName.parse? c.marker token with
    | none =>
      -- a class that is not encoded is not counted
      exact ih s
    | some name => exact (addName s i name).trans (ih _)

/-- An element is counted, with or without classes. -/
theorem addElement (c : Config) (s : State) (entry : Nat × List String) :
    s.Counts 1 (s.addElement c entry) := by
  have hcount : s.Counts 1
      { s with report := { s.report with scanned := s.report.scanned + 1 } } := ⟨rfl, rfl, rfl⟩
  exact hcount.trans (foldl_addClass c entry.1 entry.2 _)

/-- The elements, one after the other. -/
theorem foldl_addElement (c : Config) (entries : List (Nat × List String)) (s : State) :
    s.Counts entries.length (entries.foldl (State.addElement c) s) := by
  induction entries generalizing s with
  | nil => exact refl s
  | cons entry entries ih =>
    rw [List.foldl_cons, List.length_cons, Nat.add_comm]
    exact (addElement c s entry).trans (ih _)

end State.Counts

/-! ### The counts of a pass -/

/-- The elements with a `class` attribute below the body. -/
def classed (d : Document) : List Nat :=
  (d.tree.descendants d.body).filter fun i => d.tree.hasAttribute (some i) "class"

/-- The counts in the report `r` of a pass from `d` and `sheet` to `d'` and `sheet'` agree with each
    other and with what the pass has done. -/
structure Balanced (c : Config) (d : Document) (sheet : Sheet) (r : Report) (d' : Document)
    (sheet' : Sheet) : Prop where
  matched : r.matched = r.emitted + r.duplicates + r.failures.length
  /-- The rules stay where they are, and those that count as new come behind them. -/
  plain : sheet.plain.rules <+: sheet'.plain.rules
  media : sheet.media.rules <+: sheet'.media.rules
  emitted : sheet'.count = sheet.count + r.emitted
  done : d.body.isSome = true → c.isOptedOut d.tree d.body = false →
    r.optedOut = false ∧ r.scanned = (classed d).length ∧
      r.flushed = sheet.pending.length + r.emitted ∧ sheet'.pending = []
  /-- Without a body, or with one that opts out, nothing is done and nothing is counted. -/
  skipped : d.body.isSome = false ∨ c.isOptedOut d.tree d.body = true →
    r = { Report.empty with optedOut := d.body.isSome } ∧ d' = d ∧ sheet' = sheet

/-- The pass over the document counts each of its elements with a `class` once. -/
theorem counts_compileAll (c : Config) (d : Document) (sheet : Sheet) :
    (State.mk d.tree sheet .empty).Counts (classed d).length
      (compileAll c d.tree d.body sheet) := by
  have hlength : (collect c d.tree d.body).length = (classed d).length := List.length_map _
  rw [← hlength]
  exact .foldl_addElement c _ _

/-- The sheet grows by the rules that count as new. -/
theorem count_compileAll (c : Config) (d : Document) (sheet : Sheet) :
    (compileAll c d.tree d.body sheet).sheet.count =
      sheet.count + (compileAll c d.tree d.body sheet).report.emitted := by
  have hemitted := (follows_compileAll c d sheet).emitted
  simp only [Report.empty] at hemitted
  omega

/-- A pass that is skipped. -/
theorem run_of_skipped {c : Config} {d : Document} (sheet : Sheet)
    (h : d.body.isSome = false ∨ c.isOptedOut d.tree d.body = true) :
    run c d sheet = (.ok { Report.empty with optedOut := d.body.isSome }, d, sheet) := by
  unfold run
  cases hbody : d.body.isSome with
  | false =>
    rw [if_pos (by rw [← Option.not_isSome, hbody]; rfl)]
    rfl
  | true =>
    have hopt := h.resolve_left (by simp [hbody])
    rw [if_neg (by rw [← Option.not_isSome, hbody]; simp), if_pos hopt]

/-- The counts of a pass balance. -/
theorem run_balanced {c : Config} {d d' : Document} {sheet sheet' : Sheet} {r : Report}
    (hsheet : sheet.Reachable) (hrun : run c d sheet = (.ok r, d', sheet')) :
    Balanced c d sheet r d' sheet' := by
  by_cases hskip : d.body.isSome = false ∨ c.isOptedOut d.tree d.body = true
  · rw [run_of_skipped sheet hskip] at hrun
    obtain ⟨hr, hrest⟩ := Prod.mk.inj hrun
    obtain rfl := Except.ok.inj hr
    obtain ⟨rfl, rfl⟩ := Prod.mk.inj hrest
    exact
      { matched := rfl, plain := List.prefix_rfl, media := List.prefix_rfl, emitted := rfl
        done := fun hbody hopt => by simp [hbody, hopt] at hskip
        skipped := fun _ => ⟨rfl, rfl, rfl⟩ }
  · obtain ⟨hbody, hopt⟩ := not_or.mp hskip
    rw [Bool.not_eq_false] at hbody
    rw [Bool.not_eq_true] at hopt
    obtain ⟨flushed, hflush, rfl⟩ := run_eq_ok hbody hopt hrun
    obtain ⟨rfl, -⟩ := Sheet.flush_eq_ok hflush
    -- everything but the rules that are written is counted before they are
    have hcounts := counts_compileAll c d sheet
    have hemitted := count_compileAll c d sheet
    have hgrown := grown_compileAll c d sheet
    refine
      { matched := ?_, plain := hgrown.plain.rules, media := hgrown.media.rules
        emitted := hemitted, done := fun _ _ => ⟨hcounts.optedOut, ?_, ?_, Sheet.pending_written _⟩
        skipped := fun h => absurd h hskip }
    · simpa [Report.outcomes, Report.empty] using hcounts.matched
    · simpa [Report.empty] using hcounts.scanned
    · have hpending := hgrown.length_pending hsheet.inLine
      have hflushed := Sheet.count_of_flush hflush
      simp only
      omega

/-- The sample page with two more paragraphs: one has the encoded name of the first, and the name on
    the other one has more properties than values. -/
def sampleCrowd : Document :=
  { samplePage with
    tree := [.createElement "p", .appendChild (some 4) (some 6),
      .setAttribute (some 6) "class" "card lcsAll_10px", .createElement "p",
      .appendChild (some 4) (some 7), .setAttribute (some 7) "class" "lcsAll.All_10px"].foldl
        Edit.apply samplePage.tree }

/-- One rule waits, another one is added, and both are written. -/
theorem run_balanced_sampleCrowd :
    ∃ sheet d r d' sheet', Sheet.new sampleCrowd "rules" = (.ok sheet, d) ∧
      (sheet.insertText "p{}").2.Reachable ∧
      run .default d (sheet.insertText "p{}").2 = (.ok r, d', sheet') ∧
      Balanced .default d (sheet.insertText "p{}").2 r d' sheet' ∧
      r.scanned = 3 ∧ r.matched = 3 ∧ r.emitted = 1 ∧ r.duplicates = 1 ∧ r.failures.length = 1 ∧
      r.flushed = 2 := by
  have hmade : (Sheet.new sampleCrowd "rules").1.toOption = some ⟨.empty, .empty, some 8⟩ := by
    decide +kernel
  have hnew : Sheet.new sampleCrowd "rules" =
      (.ok ⟨.empty, .empty, some 8⟩, (Sheet.new sampleCrowd "rules").2) :=
    Prod.ext (Tree.eq_ok_of_toOption hmade) rfl
  have hsheet := (Sheet.Reachable.new hnew).insertText "p{}"
  have hcounts : (run .default (Sheet.new sampleCrowd "rules").2
      (Sheet.insertText ⟨.empty, .empty, some 8⟩ "p{}").2).1.toOption.map
        (fun r => (r.scanned, r.matched, r.emitted, r.duplicates, r.failures.length, r.flushed)) =
      some (3, 3, 1, 1, 1, 2) := by decide +kernel
  cases hrun : run .default (Sheet.new sampleCrowd "rules").2
      (Sheet.insertText ⟨.empty, .empty, some 8⟩ "p{}").2 with
  | mk result rest =>
    rw [hrun] at hcounts
    cases result with
    | error e => exact nomatch hcounts
    | ok r =>
      obtain ⟨hscanned, hmatched, hemitted, hduplicates, hfailures, hflushed⟩ := by
        simpa [Except.toOption] using hcounts
      exact ⟨_, _, r, rest.1, rest.2, hnew, hsheet, hrun, run_balanced hsheet hrun, hscanned,
        hmatched, hemitted, hduplicates, hfailures, hflushed⟩

end Pass

end ClassSheet
