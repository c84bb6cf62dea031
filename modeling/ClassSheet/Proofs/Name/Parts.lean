import ClassSheet.Name.Encoded
import ClassSheet.Proofs.Pattern.Texts
import ClassSheet.Proofs.Text.Pieces

/-! # Names and their parts

`EncodedName.assembled` writes the parts of a name behind a marker, and `EncodedName.IsValid` says
that each part is one that a name may have. Taking a name apart is the exact inverse: it finds the
parts of every name that is assembled from valid ones, finds nothing in any other text, and no text
can be assembled in two ways (`parse?_exact`). -/

namespace ClassSheet

open ClassSheet.Text

/-! ### How the parts in front of the properties begin -/

namespace Media

/-- Media tokens begin with `MQ`. -/
theorem tokenPattern_leads : tokenPattern.Leads "MQ" := (Pattern.leads_text "MQ").seq _

end Media

namespace Reach

/-- The words that the tokens of a reach begin with. -/
theorem exists_lead {s : List Char} (h : tokenPattern.Matches s) :
    ∃ lead ∈ ["All", "Children", "Child", "Sibling"], lead.toList <+: s := by
  rcases h with ((h | h) | h) | h
  · exact ⟨"All", by simp, (Pattern.leads_text _).seq _ _ h⟩
  · exact ⟨"Children", by simp, ((Pattern.leads_text _).seq _).seq _ _ h⟩
  · exact ⟨"Child", by simp, ((Pattern.leads_text _).seq _).seq _ _ h⟩
  · exact ⟨"Sibling", by simp, ((Pattern.leads_text _).seq _).seq _ _ h⟩

/-- A token of a reach is no media token. -/
theorem not_matches_media {s : List Char} (h : tokenPattern.Matches s) :
    ¬ Media.tokenPattern.Matches s := by
  intro hm
  obtain ⟨a, rfl⟩ := Media.tokenPattern_leads s hm
  obtain ⟨lead, hlead, hs⟩ := exists_lead h
  -- the first characters differ
  simp only [List.mem_cons, List.not_mem_nil, or_false] at hlead
  rcases hlead with rfl | rfl | rfl | rfl <;> simp at hs

end Reach

namespace Pseudo

/-- The code of a pseudo class is read back as that class. -/
theorem ofCode?_code (p : Pseudo) : ofCode? p.code = some p := by
  cases p <;> decide

/-- The code of a pseudo element or class is no media token. -/
theorem not_matches_media (p : Pseudo) : ¬ Media.tokenPattern.Matches p.code.toList := by
  cases p <;> decide +kernel

/-- The code of a pseudo element or class is no token of a reach. -/
theorem not_matches_reach (p : Pseudo) : ¬ Reach.tokenPattern.Matches p.code.toList := by
  cases p <;> decide +kernel

end Pseudo

namespace EncodedName

/-! ### Assembling a name -/

/-- A part that may be missing, and the underscore behind it. -/
def partText : Option String → String
  | some part => part ++ "_"
  | none => ""

/-- The class name with the given marker and the parts of `n`. -/
def assembled (marker : String) (n : EncodedName) : String :=
  marker ++ partText n.media ++ partText n.reach ++ partText (n.pseudo.map Pseudo.code) ++
    n.properties ++ "_" ++ n.values ++ (if n.important then "_IMPT" else "")

/-- Whether each part is one that a name may have. -/
structure IsValid (n : EncodedName) : Prop where
  media : ∀ token ∈ n.media, Media.tokenPattern.Matches token.toList
  reach : ∀ token ∈ n.reach, Reach.tokenPattern.Matches token.toList
  properties : propertiesPattern.Matches n.properties.toList
  values : valuesPattern.Matches n.values.toList

/-- The parts in front of the properties, those left out that are missing. -/
def scopeParts (media reach : Option String) (pseudo : Option Pseudo) : List (List Char) :=
  (media.map String.toList).toList ++
    ((reach.map String.toList).toList ++ (pseudo.map (·.code.toList)).toList)

/-- All parts, those left out that are missing. -/
def parts (n : EncodedName) : List (List Char) :=
  scopeParts n.media n.reach n.pseudo ++ [n.properties.toList, n.values.toList] ++
    (if n.important then ["IMPT".toList] else [])

/-- A name has its properties and its values at least. -/
theorem parts_ne_nil (n : EncodedName) : n.parts ≠ [] := by simp [parts]

/-- A name is its marker and then its parts with underscores between them. -/
theorem toList_assembled (marker : String) (n : EncodedName) :
    (n.assembled marker).toList = marker.toList ++ ['_'].intercalate n.parts := by
  have himportant : "_IMPT".toList = '_' :: "IMPT".toList := by decide
  unfold assembled parts scopeParts
  cases n.media <;> cases n.reach <;> cases n.pseudo <;> cases n.important <;>
    simp [partText, himportant, List.intercalate_cons_cons]

/-! ### The characters of the parts -/

/-- `pseudoPattern` describes exactly the codes. -/
theorem matches_pseudoPattern {s : List Char} :
    pseudoPattern.Matches s ↔ ∃ p : Pseudo, s = p.code.toList := by
  rw [pseudoPattern, Pattern.matches_anyText]
  constructor
  · intro h
    obtain ⟨t, ht, rfl⟩ := h
    obtain ⟨p, -, rfl⟩ := List.mem_map.mp ht
    exact ⟨p, rfl⟩
  · intro h
    obtain ⟨p, rfl⟩ := h
    exact ⟨p.code, List.mem_map.mpr ⟨p, by cases p <;> simp [Pseudo.all], rfl⟩, rfl⟩

/-- Whether no part that a name may have holds the character. -/
def avoidedByParts (x : Char) : Bool :=
  [Media.tokenPattern, Reach.tokenPattern, pseudoPattern, propertiesPattern, valuesPattern,
    Pattern.text "IMPT"].all (·.avoids x)

/-- A character that all patterns avoid is in no part of a name. -/
theorem IsValid.not_mem_of_avoided {n : EncodedName} (h : n.IsValid) {x : Char}
    (hx : avoidedByParts x = true) : ∀ part ∈ n.parts, x ∉ part := by
  obtain ⟨hmedia, hreach, hpseudo, hproperties, hvalues, himportant⟩ := by
    simpa [avoidedByParts] using hx
  intro part hpart
  simp only [parts, scopeParts, List.mem_append, Option.mem_toList, Option.map_eq_some_iff,
    List.mem_cons, List.not_mem_nil, or_false] at hpart
  -- media token, token of a reach, pseudo code, properties, values, mark of importance
  rcases hpart with ((⟨t, ht, rfl⟩ | ⟨t, ht, rfl⟩ | ⟨p, -, rfl⟩) | rfl | rfl) | hpart
  · exact Pattern.not_mem_of_avoids hmedia (h.media t ht)
  · exact Pattern.not_mem_of_avoids hreach (h.reach t ht)
  · exact Pattern.not_mem_of_avoids hpseudo (matches_pseudoPattern.mpr ⟨p, rfl⟩)
  · exact Pattern.not_mem_of_avoids hproperties h.properties
  · exact Pattern.not_mem_of_avoids hvalues h.values
  · split at hpart
    · obtain rfl := List.mem_singleton.mp hpart
      exact Pattern.not_mem_of_avoids himportant (Pattern.matches_text.mpr rfl)
    · cases hpart

/-- No valid part holds an underscore. -/
theorem IsValid.underscore_not_mem {n : EncodedName} (h : n.IsValid) :
    ∀ part ∈ n.parts, '_' ∉ part := h.not_mem_of_avoided (by decide +kernel)

/-! ### Taking the scope apart -/

/-- A part is taken exactly if it is the first one and suits the pattern. -/
theorem takePart_eq_iff {p : Pattern} {parts rest : List (List Char)} {part : Option String} :
    takePart p parts = (part, rest) ↔
      parts = (part.map String.toList).toList ++ rest ∧ (∀ t ∈ part, p.Matches t.toList) ∧
        (part = none → ∀ t ∈ rest.head?, ¬ p.Matches t) := by
  cases parts with
  | nil => cases part <;> cases rest <;> simp [takePart]
  | cons first others =>
    simp only [takePart, Pattern.accepts_iff]
    cases part with
    | none =>
      -- nothing is taken, which is right unless the first part suits
      by_cases h : p.Matches first
      · simp only [h, if_true, Prod.mk.injEq, reduceCtorEq, false_and, false_iff]
        intro htaken
        obtain ⟨hrest, -, hno⟩ := htaken
        rw [Option.map_none, Option.toList_none, List.nil_append] at hrest
        exact hno trivial first (by simp [← hrest]) h
      · simp only [h, if_false, Prod.mk.injEq, true_and, Option.map_none, Option.toList_none,
          List.nil_append]
        constructor
        · rintro rfl
          simpa using h
        · exact fun h => h.1
    | some t =>
      -- the first part is taken, which is right if it suits
      by_cases h : p.Matches first
      · simp only [h, if_true, Prod.mk.injEq, Option.some.injEq, Option.map_some,
          Option.toList_some, List.cons_append, List.nil_append, List.cons.injEq, reduceCtorEq,
          false_implies, and_true, Option.mem_def]
        constructor
        · intro htaken
          obtain ⟨rfl, rfl⟩ := htaken
          simpa using h
        · intro htaken
          obtain ⟨⟨rfl, rfl⟩, -⟩ := htaken
          simp
      · simp only [h, if_false, Prod.mk.injEq, reduceCtorEq, false_and, false_iff]
        intro htaken
        obtain ⟨hrest, ht, -⟩ := htaken
        rw [Option.map_some, Option.toList_some, List.singleton_append, List.cons.injEq] at hrest
        exact h (hrest.1 ▸ ht t rfl)

/-- What follows a missing media token is none either. -/
private theorem takePart_media {media reach : Option String} (pseudo : Option Pseudo)
    (hmedia : ∀ t ∈ media, Media.tokenPattern.Matches t.toList)
    (hreach : ∀ t ∈ reach, Reach.tokenPattern.Matches t.toList) :
    takePart Media.tokenPattern (scopeParts media reach pseudo) =
      (media, scopeParts none reach pseudo) := by
  refine takePart_eq_iff.mpr ⟨by simp [scopeParts], hmedia, fun _ t ht => ?_⟩
  cases reach with
  | some token =>
    obtain rfl : token.toList = t := by simpa [scopeParts] using ht
    exact Reach.not_matches_media (hreach token rfl)
  | none =>
    cases pseudo with
    | some p =>
      obtain rfl : p.code.toList = t := by simpa [scopeParts] using ht
      exact p.not_matches_media
    | none => simp [scopeParts] at ht

/-- What follows a missing token of a reach is none either. -/
private theorem takePart_reach {reach : Option String} (pseudo : Option Pseudo)
    (hreach : ∀ t ∈ reach, Reach.tokenPattern.Matches t.toList) :
    takePart Reach.tokenPattern (scopeParts none reach pseudo) =
      (reach, scopeParts none none pseudo) := by
  refine takePart_eq_iff.mpr ⟨by simp [scopeParts], hreach, fun _ t ht => ?_⟩
  cases pseudo with
  | some p =>
    obtain rfl : p.code.toList = t := by simpa [scopeParts] using ht
    exact p.not_matches_reach
  | none => simp [scopeParts] at ht

/-- The code of a pseudo class is taken where it is the last part of a scope. -/
private theorem takePart_pseudo (pseudo : Option Pseudo) :
    takePart pseudoPattern (scopeParts none none pseudo) = (pseudo.map Pseudo.code, []) := by
  refine takePart_eq_iff.mpr ⟨by cases pseudo <;> simp [scopeParts], fun t ht => ?_, by simp⟩
  obtain ⟨p, -, rfl⟩ := Option.map_eq_some_iff.mp ht
  exact matches_pseudoPattern.mpr ⟨p, rfl⟩

/-- The scope of a name is read off its parts exactly as it was written into them. -/
theorem parseScope?_eq_some_iff {parts : List (List Char)} {media reach : Option String}
    {pseudo : Option Pseudo} :
    parseScope? parts = some (media, reach, pseudo) ↔
      parts = scopeParts media reach pseudo ∧
        (∀ t ∈ media, Media.tokenPattern.Matches t.toList) ∧
        (∀ t ∈ reach, Reach.tokenPattern.Matches t.toList) := by
  constructor
  · intro h
    simp only [parseScope?] at h
    -- the three parts are taken one after the other
    generalize h₁ : takePart Media.tokenPattern parts = first at h
    obtain ⟨m, parts₁⟩ := first
    generalize h₂ : takePart Reach.tokenPattern parts₁ = second at h
    obtain ⟨r, parts₂⟩ := second
    generalize h₃ : takePart pseudoPattern parts₂ = third at h
    obtain ⟨p, parts₃⟩ := third
    simp only [List.isEmpty_iff, Option.ite_none_right_eq_some, Option.some.injEq,
      Prod.mk.injEq] at h
    -- nothing is left over, so the three parts that were taken are all there is
    obtain ⟨rfl, rfl, rfl, rfl⟩ := h
    obtain ⟨rfl, hm, -⟩ := takePart_eq_iff.mp h₁
    obtain ⟨rfl, hr, -⟩ := takePart_eq_iff.mp h₂
    obtain ⟨rfl, hp, -⟩ := takePart_eq_iff.mp h₃
    refine ⟨?_, hm, hr⟩
    cases p with
    | none => simp [scopeParts]
    | some t =>
      obtain ⟨q, hq⟩ := matches_pseudoPattern.mp (hp t rfl)
      obtain rfl := String.toList_inj.mp hq
      simp [scopeParts, Pseudo.ofCode?_code]
  · intro h
    obtain ⟨rfl, hm, hr⟩ := h
    simp only [parseScope?, takePart_media pseudo hm hr, takePart_reach pseudo hr,
      takePart_pseudo pseudo, List.isEmpty_nil, if_true]
    cases pseudo <;> simp [Pseudo.ofCode?_code]

/-! ### Taking a name apart -/

/-- The parts in front of the mark of importance are those of a name if they are its scope, its
    properties and its values. -/
theorem ofReversedParts?_eq_some_iff {name : String} {important : Bool}
    {reversed : List (List Char)} {n : EncodedName} :
    ofReversedParts? name important reversed = some n ↔
      n.IsValid ∧ n.raw = name ∧ n.important = important ∧
        reversed.reverse =
          scopeParts n.media n.reach n.pseudo ++ [n.properties.toList, n.values.toList] := by
  constructor
  · intro h
    match reversed, h with
    | values :: properties :: scope, h =>
      simp only [ofReversedParts?, Bool.and_eq_true, Pattern.accepts_iff,
        Option.ite_none_right_eq_some, Option.map_eq_some_iff, Prod.exists] at h
      obtain ⟨⟨hproperties, hvalues⟩, media, reach, pseudo, hscope, rfl⟩ := h
      obtain ⟨hparts, hmedia, hreach⟩ := parseScope?_eq_some_iff.mp hscope
      refine ⟨⟨hmedia, hreach, ?_, ?_⟩, rfl, rfl, ?_⟩
      · rwa [String.toList_ofList]
      · rwa [String.toList_ofList]
      · simp [hparts, String.toList_ofList]
  · intro h
    obtain ⟨hvalid, rfl, rfl, hreversed⟩ := h
    -- the parts are looked at from behind
    have hscope : parseScope? (scopeParts n.media n.reach n.pseudo) = some _ :=
      parseScope?_eq_some_iff.mpr ⟨rfl, hvalid.media, hvalid.reach⟩
    obtain rfl : reversed = n.values.toList :: n.properties.toList ::
        (scopeParts n.media n.reach n.pseudo).reverse := by
      rw [← List.reverse_inj, hreversed]
      simp
    simp [ofReversedParts?, Pattern.accepts_iff.mpr hvalid.properties,
      Pattern.accepts_iff.mpr hvalid.values, hscope]

/-- No value is the mark of importance. -/
theorem not_matches_important : ¬ valuesPattern.Matches "IMPT".toList := by decide +kernel

/-- The pieces of a text are taken for a name exactly if they are its parts. -/
private theorem ofPieces?_eq_some_iff {name : String} {ps : List (List Char)} {n : EncodedName} :
    (match ps.reverse with
      | last :: parts =>
        if last = "IMPT".toList then ofReversedParts? name true parts
        else ofReversedParts? name false (last :: parts)
      | [] => none) = some n ↔ n.IsValid ∧ n.raw = name ∧ ps = n.parts := by
  constructor
  · intro h
    cases hrev : ps.reverse with
    | nil => simp [hrev] at h
    | cons last others =>
      have hps : ps = others.reverse ++ [last] := List.reverse_eq_cons_iff.mp hrev
      simp only [hrev] at h
      split at h
      · next hlast =>
        obtain ⟨hvalid, hraw, himportant, hreversed⟩ := ofReversedParts?_eq_some_iff.mp h
        exact ⟨hvalid, hraw, by simp [hps, parts, himportant, hreversed, hlast]⟩
      · obtain ⟨hvalid, hraw, himportant, hreversed⟩ := ofReversedParts?_eq_some_iff.mp h
        refine ⟨hvalid, hraw, ?_⟩
        rw [hps, ← List.reverse_cons, hreversed]
        simp [parts, himportant]
  · intro h
    obtain ⟨hvalid, hraw, rfl⟩ := h
    cases himportant : n.important with
    | true =>
      have hrev : n.parts.reverse = "IMPT".toList :: n.values.toList :: n.properties.toList ::
          (scopeParts n.media n.reach n.pseudo).reverse := by simp [parts, himportant]
      simp only [hrev, if_true]
      exact ofReversedParts?_eq_some_iff.mpr ⟨hvalid, hraw, himportant, by simp⟩
    | false =>
      have hrev : n.parts.reverse = n.values.toList :: n.properties.toList ::
          (scopeParts n.media n.reach n.pseudo).reverse := by simp [parts, himportant]
      -- the values come last here, and they do not read like the mark of importance
      have hlast : n.values.toList ≠ "IMPT".toList := fun h =>
        not_matches_important (h ▸ hvalid.values)
      simp only [hrev, hlast, if_false]
      exact ofReversedParts?_eq_some_iff.mpr ⟨hvalid, hraw, himportant, by simp⟩

/-- A name is taken apart into `n` exactly if it is assembled from the valid parts of `n`. -/
theorem parse?_eq_some_iff {marker name : String} {n : EncodedName} :
    parse? marker name = some n ↔ n.IsValid ∧ n.raw = name ∧ n.assembled marker = name := by
  -- no valid part holds an underscore, so the pieces of what follows the marker are the parts
  have hpieces (hvalid : n.IsValid) {body : List Char} :
      pieces (· == '_') body = n.parts ↔ body = ['_'].intercalate n.parts :=
    pieces_eq_iff n.parts_ne_nil hvalid.underscore_not_mem
  simp only [parse?, Option.bind_eq_bind, Option.bind_eq_some_iff, afterLead?_eq_some_iff]
  constructor
  · intro h
    obtain ⟨body, hname, h⟩ := h
    obtain ⟨hvalid, hraw, hparts⟩ := ofPieces?_eq_some_iff.mp h
    refine ⟨hvalid, hraw, String.toList_inj.mp ?_⟩
    rw [toList_assembled, hname, (hpieces hvalid).mp hparts]
  · intro h
    obtain ⟨hvalid, hraw, hname⟩ := h
    refine ⟨['_'].intercalate n.parts, by rw [← hname, toList_assembled], ?_⟩
    exact ofPieces?_eq_some_iff.mpr ⟨hvalid, hraw, (hpieces hvalid).mpr rfl⟩

/-! ### Recognising a name -/

/-- An optional part of the pattern describes the text of a part that may be missing. -/
theorem matches_optional_part {p : Pattern} {s : List Char} :
    (Pattern.optional (p ++ Pattern.text "_")).Matches s ↔
      ∃ part : Option String, (∀ t ∈ part, p.Matches t.toList) ∧ s = (partText part).toList := by
  constructor
  · rintro (⟨a, b, rfl, ha, hb⟩ | rfl)
    · obtain rfl := Pattern.matches_text.mp hb
      refine ⟨some (String.ofList a), ?_, by simp [partText]⟩
      rintro t ⟨⟩
      rwa [String.toList_ofList]
    · exact ⟨none, by simp, rfl⟩
  · intro h
    obtain ⟨part, hpart, rfl⟩ := h
    cases part with
    | none => exact Or.inr rfl
    | some t => exact Or.inl ⟨t.toList, "_".toList, by simp [partText], hpart t rfl,
        Pattern.matches_text.mpr rfl⟩

/-- The encoded names are those that are assembled from valid parts. -/
theorem isEncoded_iff {marker name : String} :
    isEncoded marker name = true ↔ ∃ n : EncodedName, n.IsValid ∧ n.assembled marker = name := by
  rw [isEncoded, Pattern.accepts_iff]
  constructor
  · -- the cuts that the pattern makes, from the last one to the first
    rintro ⟨_, impt, hname, ⟨_, values, rfl, ⟨_, under, rfl, ⟨_, properties, rfl,
      ⟨_, pseudo, rfl, ⟨_, reach, rfl, ⟨lead, media, rfl, hlead, hm⟩, hr⟩, hp⟩,
      hproperties⟩, hunder⟩, hvalues⟩, himpt⟩
    obtain rfl := Pattern.matches_text.mp hlead
    obtain rfl := Pattern.matches_text.mp hunder
    obtain ⟨media, hmedia, rfl⟩ := matches_optional_part.mp hm
    obtain ⟨reach, hreach, rfl⟩ := matches_optional_part.mp hr
    obtain ⟨code, hcode, rfl⟩ := matches_optional_part.mp hp
    obtain ⟨pseudo, rfl⟩ : ∃ pseudo : Option Pseudo, code = pseudo.map Pseudo.code := by
      cases code with
      | none => exact ⟨none, rfl⟩
      | some t =>
        obtain ⟨p, hp⟩ := matches_pseudoPattern.mp (hcode t rfl)
        exact ⟨some p, congrArg some (String.toList_inj.mp hp)⟩
    obtain ⟨important, rfl⟩ : ∃ important : Bool,
        impt = (if important then "_IMPT" else "").toList := by
      rcases himpt with h | rfl
      · exact ⟨true, Pattern.matches_text.mp h⟩
      · exact ⟨false, rfl⟩
    refine ⟨⟨name, media, reach, pseudo, String.ofList properties, String.ofList values,
      important⟩, ⟨hmedia, hreach, ?_, ?_⟩, String.toList_inj.mp ?_⟩
    · rwa [String.toList_ofList]
    · rwa [String.toList_ofList]
    · simp [assembled, hname]
  · intro h
    obtain ⟨n, hvalid, rfl⟩ := h
    -- conversely, each piece of the assembled text is what its part of the pattern describes
    have hpseudo : ∀ t ∈ n.pseudo.map Pseudo.code, pseudoPattern.Matches t.toList := by
      intro t ht
      obtain ⟨p, -, rfl⟩ := Option.map_eq_some_iff.mp ht
      exact matches_pseudoPattern.mpr ⟨p, rfl⟩
    have himpt : (Pattern.optional (Pattern.text "_IMPT")).Matches
        (if n.important then "_IMPT" else "").toList := by
      cases n.important
      · exact Or.inr rfl
      · exact Or.inl (Pattern.matches_text.mpr rfl)
    simp only [assembled, String.toList_append]
    exact ⟨_, _, rfl, ⟨_, _, rfl, ⟨_, _, rfl, ⟨_, _, rfl, ⟨_, _, rfl, ⟨_, _, rfl,
      ⟨_, _, rfl, Pattern.matches_text.mpr rfl, matches_optional_part.mpr ⟨_, hvalid.media, rfl⟩⟩,
      matches_optional_part.mpr ⟨_, hvalid.reach, rfl⟩⟩,
      matches_optional_part.mpr ⟨_, hpseudo, rfl⟩⟩, hvalid.properties⟩,
      Pattern.matches_text.mpr rfl⟩, hvalid.values⟩, himpt⟩

/-! ### Exactness -/

/-- Taking names apart is exact: a name is taken apart into just the valid parts that it is
    assembled from, so one is found exactly if there is one; there is at most one; and
    the pattern for whole names describes the names for which there is one. -/
theorem parse?_exact (marker name : String) :
    (∀ n, parse? marker name = some n ↔ n.IsValid ∧ n.raw = name ∧ n.assembled marker = name) ∧
      ((parse? marker name).isSome = true ↔
        ∃ n : EncodedName, n.IsValid ∧ n.assembled marker = name) ∧
      (∀ n m : EncodedName, n.IsValid → m.IsValid → n.assembled marker = name →
        m.assembled marker = name → { n with raw := name } = { m with raw := name }) ∧
      (isEncoded marker name = true ↔ (parse? marker name).isSome = true) := by
  -- the text found on the element plays no part in validity and assembling
  have hparse (n : EncodedName) (hvalid : n.IsValid) (hname : n.assembled marker = name) :
      parse? marker name = some { n with raw := name } :=
    parse?_eq_some_iff.mpr ⟨⟨hvalid.media, hvalid.reach, hvalid.properties, hvalid.values⟩, rfl,
      hname⟩
  have hsome : (parse? marker name).isSome = true ↔
      ∃ n : EncodedName, n.IsValid ∧ n.assembled marker = name := by
    rw [Option.isSome_iff_exists]
    constructor
    · intro h
      obtain ⟨n, h⟩ := h
      obtain ⟨hvalid, -, hname⟩ := parse?_eq_some_iff.mp h
      exact ⟨n, hvalid, hname⟩
    · intro h
      obtain ⟨n, hvalid, hname⟩ := h
      exact ⟨_, hparse n hvalid hname⟩
  refine ⟨fun n => parse?_eq_some_iff, hsome, ?_, isEncoded_iff.trans hsome.symm⟩
  intro n m hn hm hnname hmname
  have h := (hparse n hn hnname).symm.trans (hparse m hm hmname)
  exact Option.some.inj h

end EncodedName

end ClassSheet
