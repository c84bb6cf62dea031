import ClassSheet.Proofs.Css.RuleText
import ClassSheet.Proofs.Css.Values
import ClassSheet.Proofs.Name.Plan
import ClassSheet.Proofs.Name.Sanitize
import ClassSheet.Proofs.Sheet.Pass

/-! # Compiled rules

A name that is compiled on an element of a tree with plain tags comes to a plain rule
(`IsValid.isPlain_planned`): its class has the characters of its parts and underscores only, and its
declarations are what its property and value tokens stand for. So the text of a compiled rule has
the form of a rule, is put into the bucket of its kind, and is the text of no other compiled rule
(`IsCompiled.css_faithful`). -/

namespace ClassSheet.EncodedName

open ClassSheet.Text ClassSheet.Css

/-! ### The class -/

/-- The class of a name has the characters of its parts and underscores only. -/
theorem IsValid.lacks_className {n : EncodedName} (h : n.IsValid) {xs : List Char}
    (hxs : ∀ x ∈ xs, x ≠ '_' ∧ avoidedByParts x = true) : Lacks xs n.className := by
  intro c hc hmem
  obtain ⟨hne, havoided⟩ := hxs c hmem
  rw [className, sanitize, String.toList_ofList] at hc
  have hsource := (mem_of_mem_sanitizeChars hc).resolve_right hne
  obtain ⟨part, hpart, hc⟩ := (mem_classSource hsource).resolve_left hne
  exact h.not_mem_of_avoided havoided part hpart hc

/-- No part of a name has a character that is foreign to selectors. -/
theorem avoidedByParts_foreign :
    ∀ x ∈ Selector.foreign, x ≠ '_' ∧ avoidedByParts x = true := by decide +kernel

/-! ### The declarations -/

/-- What is accepted as a property is one of the table. -/
theorem mem_names_of_siftProperties {tokens : String} :
    ∀ p ∈ (siftProperties tokens).accepted, p ∈ Property.names := by
  intro p hp
  obtain ⟨token, -, hp⟩ := List.mem_flatMap.mp hp
  exact Property.mem_names p hp

/-- What is accepted as a value could not end a declaration. -/
theorem lacks_marks_of_siftValues {tokens : String} :
    ∀ v ∈ (siftValues tokens).accepted, Lacks marks v.css := by
  intro v hv
  obtain ⟨token, -, hv⟩ := List.mem_flatMap.mp hv
  exact Value.lacks_marks (Option.mem_toList.mp hv)

/-- The declarations of a name are plain. -/
theorem isPlain_declarations (n : EncodedName) :
    ∀ d ∈ n.declarations (siftProperties n.properties).accepted (siftValues n.values).accepted,
      d.IsPlain := by
  intro d hd
  rw [declarations, ← List.map_uncurry_zip_eq_zipWith] at hd
  obtain ⟨⟨p, v⟩, hpair, rfl⟩ := List.mem_map.mp hd
  obtain ⟨hp, hv⟩ := List.of_mem_zip hpair
  exact ⟨mem_names_of_siftProperties p hp, lacks_marks_of_siftValues v hv⟩

/-- The rule of a name is plain. -/
theorem IsValid.isPlain_planned {n : EncodedName} (h : n.IsValid) {tag : String}
    {parentTag : Option String} (htag : isPlainTag tag = true)
    (hparent : ∀ tag ∈ parentTag, isPlainTag tag = true)
    (hlen : (siftProperties n.properties).accepted.length = (siftValues n.values).accepted.length)
    (hne : (siftProperties n.properties).accepted ≠ []) :
    (n.planned tag parentTag).rule.IsPlain where
  selector := by
    have hclass : Lacks Selector.foreign n.className := h.lacks_className avoidedByParts_foreign
    have hparents : ∀ tag ∈ parentTag, Lacks Selector.foreign tag :=
      fun tag htag => lacks_of_isPlainTag (hparent tag htag)
    have hparts : ∀ part ∈ (Reach.selectorOfToken n.reach ⟨n.className, tag, parentTag⟩).parts,
        Lacks Selector.foreign part :=
      Reach.lacks_selectorOfToken hclass (lacks_of_isPlainTag htag) hparents n.reach
    exact Selector.lacks_css hparts n.pseudo
  nonempty := by
    intro hnil
    have hlength := congrArg List.length hnil
    simp only [planned, declarations, List.length_zipWith, ← hlen, Nat.min_self, List.length_nil,
      List.length_eq_zero_iff] at hlength
    exact hne hlength
  declarations := n.isPlain_declarations

/-! ### Compiled rules -/

/-- Whether a rule is what some class name comes to on an element with a plain tag, below a parent
    with a plain tag if there is one. No other tag of the document matters. -/
def IsCompiled (rule : Css.Rule) : Prop :=
  ∃ (marker name : String) (n : EncodedName) (t t' : Dom.Tree) (r : Dom.NodeRef)
    (className : Option String), parse? marker name = some n ∧
      (∀ tag ∈ t.tag? r, isPlainTag tag = true) ∧
      (∀ tag ∈ t.tag? (t.parentElement r), isPlainTag tag = true) ∧
      n.compile t r = .ok (⟨rule, className⟩, t')

/-- Compiled rules are plain. -/
theorem IsCompiled.isPlain {rule : Css.Rule} (h : IsCompiled rule) : rule.IsPlain := by
  obtain ⟨marker, name, n, t, t', r, className, hparse, htag, hparent, hcompile⟩ := h
  obtain ⟨e, he, hlen, hne, -, hplanned⟩ := plan_eq_ok_iff.mp (plan_of_compile hcompile)
  have hself : t.tag? r = some e.tag := by rw [Dom.Tree.tag?, he, Option.map_some]
  have hvalid := (parse?_eq_some_iff.mp hparse).1
  have hplain := hvalid.isPlain_planned (htag e.tag hself) hparent hlen hne
  rw [hplanned] at hplain
  exact hplain

/-- The text of a compiled rule has the form of a rule, the rule is put into the bucket of its kind,
    and no other compiled rule has the same text. -/
theorem IsCompiled.css_faithful {rule : Css.Rule} (h : IsCompiled rule) :
    rule.HasForm ∧
      (∀ s : Sheet, s.insert rule =
        if rule.isMedia then
          ((s.media.insert rule.css).1, { s with media := (s.media.insert rule.css).2 })
        else ((s.plain.insert rule.css).1, { s with plain := (s.plain.insert rule.css).2 })) ∧
      ∀ rule', IsCompiled rule' → rule.css = rule'.css → rule = rule' := by
  refine ⟨h.isPlain.hasForm, fun s => ?_, fun rule' h' => h.isPlain.css_inj h'.isPlain⟩
  have hmedia : Sheet.isMediaText rule.css = rule.isMedia := by
    rw [Bool.eq_iff_iff, ← h.isPlain.prefix_css_iff, Sheet.isMediaText, List.isPrefixOf_iff_prefix]
  rw [Sheet.insert, Sheet.insertText, hmedia]

/-- An important declaration for narrow pages. -/
def sampleNarrow : EncodedName where
  raw := "lcsMQMaxWidth600PX_All_10px_IMPT"
  media := some "MQMaxWidth600PX"
  reach := none
  pseudo := none
  properties := "All"
  values := "10px"
  important := true

/-- The rule of that name. -/
def sampleRule : Css.Rule where
  selector := ".MQMaxWidth600PX__All_10px_IMPT"
  declarations := [⟨"all", "10px", true⟩]
  media := some ⟨[.range .max .width ⟨600, .px⟩]⟩

/-- The rule is compiled on the paragraph of the sample page, and its text is as it should be. -/
theorem css_faithful_sampleRule : IsCompiled sampleRule ∧ sampleRule.HasForm := by
  have hparse : parse? "lcs" sampleNarrow.raw = some sampleNarrow := by decide +kernel
  have htag : ∀ tag ∈ Pass.samplePage.tree.tag? (some 5), isPlainTag tag = true := by
    decide +kernel
  have hparent : ∀ tag ∈ Pass.samplePage.tree.tag? (Pass.samplePage.tree.parentElement (some 5)),
      isPlainTag tag = true := by decide +kernel
  have hrule : (sampleNarrow.compile Pass.samplePage.tree (some 5)).toOption.map (·.1.rule) =
      some sampleRule := by decide +kernel
  have hcompiled : IsCompiled sampleRule := by
    cases hc : sampleNarrow.compile Pass.samplePage.tree (some 5) with
    | error e =>
      rw [hc] at hrule
      cases hrule
    | ok result =>
      rw [hc] at hrule
      obtain ⟨⟨rule, className⟩, t'⟩ := result
      obtain rfl : rule = sampleRule := Option.some.inj hrule
      exact ⟨"lcs", _, sampleNarrow, _, t', some 5, className, hparse, htag, hparent, hc⟩
  exact ⟨hcompiled, hcompiled.css_faithful.1⟩

end ClassSheet.EncodedName
