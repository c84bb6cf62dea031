import ClassSheet.Proofs.Dom.Reachable
import ClassSheet.Proofs.Name.Plan
import ClassSheet.Proofs.Name.Sanitize
import ClassSheet.Proofs.Selector.Tags

/-! # What rules with the same class share

Names with the same generated class have the same scope, whatever their markers are, and their
values differ at most in stretches of replaced characters (`className_eq_iff`). So rules with the
same class have the same selector, except that a reach that is limited to elements of the same tag
adds the tag of the element to it (`selector_eq_iff_of_className_eq`). -/

namespace ClassSheet.EncodedName

open ClassSheet.Text

/-! ### Scope -/

/-- Names share a generated class exactly if they are the same but for their markers and for
    stretches of replaced characters in their values. -/
theorem className_eq_iff {marker marker' name name' : String} {n n' : EncodedName}
    (hn : parse? marker name = some n) (hn' : parse? marker' name' = some n') :
    n.className = n'.className ↔
      n.media = n'.media ∧ n.reach = n'.reach ∧ n.pseudo = n'.pseudo ∧
        n.properties = n'.properties ∧ n.important = n'.important ∧
        sanitize n.values = sanitize n'.values := by
  have hvalid := (parse?_eq_some_iff.mp hn).1
  have hvalid' := (parse?_eq_some_iff.mp hn').1
  constructor
  · intro hclass
    obtain ⟨⟨hmedia, hreach, hpseudo⟩, hproperties, himportant, hvalues⟩ :=
      hvalid.eq_of_className_eq hvalid' hclass
    exact ⟨hmedia, hreach, hpseudo, hproperties, himportant, congrArg String.ofList hvalues⟩
  · intro h
    obtain ⟨hmedia, hreach, hpseudo, hproperties, himportant, hvalues⟩ := h
    have hkept : sanitizeChars n.values.toList = sanitizeChars n'.values.toList :=
      String.ofList_injective hvalues
    -- the parts are sanitized one by one
    rw [className, className, sanitize, sanitize, toList_classSource, toList_classSource,
      sanitizeChars_intercalate, sanitizeChars_intercalate]
    simp only [List.map_append, List.map_cons, hmedia, hreach, hpseudo, hproperties, himportant,
      hkept]

/-- The token `All` as a reach and as properties, under two markers and with a mark of importance:
    the class tells all of it. -/
theorem className_eq_iff_all :
    ∃ n n', parse? "lcs" "lcsAll_All.All_10px.#123_IMPT" = some n ∧
      parse? "x" "xAll_All.All_10px.123_IMPT" = some n' ∧
      n.className = "All__All_All_10px_123_IMPT" ∧ n'.className = n.className ∧
      n.reach = n'.reach ∧ n.properties = n'.properties ∧ n.important = n'.important := by
  have hn : parse? "lcs" "lcsAll_All.All_10px.#123_IMPT" =
      some ⟨"lcsAll_All.All_10px.#123_IMPT", none, some "All", none, "All.All", "10px.#123",
        true⟩ := by decide +kernel
  have hn' : parse? "x" "xAll_All.All_10px.123_IMPT" =
      some ⟨"xAll_All.All_10px.123_IMPT", none, some "All", none, "All.All", "10px.123",
        true⟩ := by decide +kernel
  have hclass : className ⟨"lcsAll_All.All_10px.#123_IMPT", none, some "All", none, "All.All",
      "10px.#123", true⟩ = "All__All_All_10px_123_IMPT" := by decide +kernel
  have hclass' : className ⟨"xAll_All.All_10px.123_IMPT", none, some "All", none, "All.All",
      "10px.123", true⟩ = "All__All_All_10px_123_IMPT" := by decide +kernel
  obtain ⟨-, hreach, -, hproperties, himportant, -⟩ :=
    (className_eq_iff hn hn').mp (hclass.trans hclass'.symm)
  exact ⟨_, _, hn, hn', hclass, hclass'.trans hclass.symm, hreach, hproperties, himportant⟩

/-! ### Selectors -/

/-- Rules of names that are found under any markers and compiled anywhere have the same selector if
    they have the same class, unless the reach of the names goes by the tag and the tags of the
    elements differ. In that case the selectors differ. -/
theorem selector_eq_iff_of_className_eq {marker marker' name name' : String} {n n' : EncodedName}
    (hn : parse? marker name = some n) (hn' : parse? marker' name' = some n')
    {t t₁ t' t₁' : Dom.Tree} {r r' : Dom.NodeRef} {compiled compiled' : Compiled}
    (hc : n.compile t r = .ok (compiled, t₁)) (hc' : n'.compile t' r' = .ok (compiled', t₁'))
    {class₀ : String} (hclass : compiled.className = some class₀)
    (hclass' : compiled'.className = some class₀) :
    compiled.rule.selector = compiled'.rule.selector ↔
      t.tag? r = t'.tag? r' ∨ Reach.tokenLimitsTag n.reach = false := by
  have hplan := plan_of_compile hc
  have hplan' := plan_of_compile hc'
  have hsame : n.className = n'.className :=
    (className_of_plan hplan _ hclass).symm.trans (className_of_plan hplan' _ hclass')
  have hvalid := (parse?_eq_some_iff.mp hn).1
  obtain ⟨⟨-, hreach, hpseudo⟩, -⟩ :=
    hvalid.eq_of_className_eq (parse?_eq_some_iff.mp hn').1 hsame
  obtain ⟨e, he, -, -, -, rfl⟩ := plan_eq_ok_iff.mp hplan
  obtain ⟨e', he', -, -, -, rfl⟩ := plan_eq_ok_iff.mp hplan'
  -- both rules have a class, so both selectors rely on it
  have huses : (n.selector e.tag (t.tag? (t.parentElement r))).usesClass = true :=
    (Option.ite_none_right_eq_some.mp hclass).1
  have huses' : (n'.selector e'.tag (t'.tag? (t'.parentElement r'))).usesClass = true :=
    (Option.ite_none_right_eq_some.mp hclass').1
  have htags : t.tag? r = t'.tag? r' ↔ e.tag = e'.tag := by
    rw [Dom.Tree.tag?, Dom.Tree.tag?, he, he', Option.map_some, Option.map_some,
      Option.some.injEq]
  rw [htags]
  -- the names have the same reach and pseudo suffix, so just the origins of the selectors differ
  simp only [planned, selector, ← hreach, ← hpseudo] at huses huses' ⊢
  exact Reach.css_selectorOfToken_eq_iff hsame huses huses'

/-- A page with a paragraph and a division next to each other. -/
def samplePair : Dom.Tree :=
  .ofEdits [.createElement "html", .appendChild (some 0) (some 1), .createElement "p",
    .appendChild (some 1) (some 2), .createElement "div", .appendChild (some 1) (some 3)]

/-- One declaration with a reach. -/
def sampleReaching (raw reach : String) : EncodedName where
  raw := raw
  media := none
  reach := some reach
  pseudo := none
  properties := "All"
  values := "10px"
  important := false

/-- The rule of such a name. -/
def sampleReached (className selector : String) : Compiled where
  rule := ⟨selector, [⟨"all", "10px", false⟩], none⟩
  className := some className

/-- A rule for the first child, from both elements and under two markers. It does not matter that
    the elements have different tags. -/
theorem selector_eq_iff_of_className_eq_child :
    ∃ n n' compiled compiled' t t', parse? "lcs" "lcsChild_All_10px" = some n ∧
      parse? "x" "xChild_All_10px" = some n' ∧
      n.compile samplePair (some 2) = .ok (compiled, t) ∧
      n'.compile samplePair (some 3) = .ok (compiled', t') ∧
      compiled.className = some "Child__All_10px" ∧
      compiled'.className = some "Child__All_10px" ∧
      compiled.rule.selector = compiled'.rule.selector := by
  have hn : parse? "lcs" "lcsChild_All_10px" =
      some (sampleReaching "lcsChild_All_10px" "Child") := by decide +kernel
  have hn' : parse? "x" "xChild_All_10px" =
      some (sampleReaching "xChild_All_10px" "Child") := by decide +kernel
  have hfound : ((sampleReaching "lcsChild_All_10px" "Child").compile samplePair
      (some 2)).toOption.map Prod.fst =
        some (sampleReached "Child__All_10px" ".Child__All_10px > :first-child") := by
    decide +kernel
  have hfound' : ((sampleReaching "xChild_All_10px" "Child").compile samplePair
      (some 3)).toOption.map Prod.fst =
        some (sampleReached "Child__All_10px" ".Child__All_10px > :first-child") := by
    decide +kernel
  obtain ⟨t, hc⟩ := exists_of_toOption_compile hfound
  obtain ⟨t', hc'⟩ := exists_of_toOption_compile hfound'
  have hlimits : Reach.tokenLimitsTag (some "Child") = false := by decide +kernel
  exact ⟨_, _, _, _, t, t', hn, hn', hc, hc', rfl, rfl,
    (selector_eq_iff_of_className_eq hn hn' hc hc' rfl rfl).mpr (Or.inr hlimits)⟩

/-- A rule for the first child of the same tag: from a paragraph and from a division the class is
    the same, and the selectors are not. -/
theorem selector_ne_sampleOfType :
    ∃ n compiled compiled' t t', parse? "lcs" "lcsChildOfType_All_10px" = some n ∧
      n.compile samplePair (some 2) = .ok (compiled, t) ∧
      n.compile samplePair (some 3) = .ok (compiled', t') ∧
      compiled.className = some "ChildOfType__All_10px" ∧
      compiled'.className = some "ChildOfType__All_10px" ∧
      compiled.rule.selector = ".ChildOfType__All_10px > p:first-of-type" ∧
      compiled'.rule.selector = ".ChildOfType__All_10px > div:first-of-type" ∧
      compiled.rule.selector ≠ compiled'.rule.selector := by
  have hn : parse? "lcs" "lcsChildOfType_All_10px" =
      some (sampleReaching "lcsChildOfType_All_10px" "ChildOfType") := by decide +kernel
  have hfound : ((sampleReaching "lcsChildOfType_All_10px" "ChildOfType").compile samplePair
      (some 2)).toOption.map Prod.fst = some (sampleReached "ChildOfType__All_10px"
        ".ChildOfType__All_10px > p:first-of-type") := by decide +kernel
  have hfound' : ((sampleReaching "lcsChildOfType_All_10px" "ChildOfType").compile samplePair
      (some 3)).toOption.map Prod.fst = some (sampleReached "ChildOfType__All_10px"
        ".ChildOfType__All_10px > div:first-of-type") := by decide +kernel
  obtain ⟨t, hc⟩ := exists_of_toOption_compile hfound
  obtain ⟨t', hc'⟩ := exists_of_toOption_compile hfound'
  have hne : ".ChildOfType__All_10px > p:first-of-type" ≠
      ".ChildOfType__All_10px > div:first-of-type" := by decide
  exact ⟨_, _, _, t, t', hn, hc, hc', rfl, rfl, rfl, rfl, hne⟩

end ClassSheet.EncodedName
