import ClassSheet.Proofs.Media.Pairs
import Mathlib.Data.List.Forall2

/-! # Reading media tokens

A token is read exactly if it is `MQ` and then pairs that stand for features
(`Condition.ofToken_eq_ok_iff`). No token is refused for the form of its condition
(`Condition.ofToken_ne_malformed`), and one that has the form of a token is refused only for its
first pair that stands for no feature. `Condition.decoding_ofToken` puts this together. -/

namespace ClassSheet.Media

open ClassSheet.Text

/-! ### Rows of pairs -/

/-- The reader takes one pair after the other. -/
theorem readFeatures_append {p : Pair} (h : p.IsWritten) (rest : List Char) :
    readFeatures (p.text ++ rest) = (do
      let f ← feature p.word p.value
      let fs ← readFeatures rest
      return f :: fs) := by
  have hread := Pair.read?_append h rest
  have hsplit := splitValue_append h rest
  rw [readFeatures.eq_def]
  split
  · next heq =>
    rw [heq] at hread
    cases hread
  · next c cs heq =>
    rw [heq] at hread
    split
    · next hnone => rw [hnone] at hread; cases hread
    · next word tail hsome =>
      rw [hsome] at hread
      obtain ⟨rfl, rfl⟩ := Prod.mk.inj (Option.some.inj hread)
      rw [hsplit]

/-- What is read is spelled by pairs that stand for it. -/
theorem exists_pairs_of_readFeatures {cs : List Char} {fs : List Feature}
    (h : readFeatures cs = .ok fs) :
    ∃ pairs, cs = Pair.texts pairs ∧ List.Forall₂ Pair.Stands pairs fs := by
  -- by induction along the reader: a word is cut off, then its value, then the rest is read
  fun_induction readFeatures cs generalizing fs with
  | case1 =>
    obtain rfl := Except.ok.inj h
    exact ⟨[], rfl, .nil⟩
  | case2 c cs hnone => cases h
  | case3 c cs word rest hread ih =>
    have hword : c :: cs = word.text.toList ++ rest := by
      obtain ⟨w, -, hw⟩ := List.exists_of_findSome?_eq_some hread
      obtain ⟨r, hr, heq⟩ := Option.map_eq_some_iff.mp hw
      obtain ⟨rfl, rfl⟩ := Prod.mk.inj heq
      exact afterLead?_eq_some_iff.mp hr
    -- a first pair that is no feature would have been an error
    cases hf : feature word (splitValue rest).1 with
    | error e =>
      rw [hf] at h
      cases h
    | ok f =>
      rw [hf] at h
      change (readFeatures (splitValue rest).2).bind _ = _ at h
      -- and so would any of the later ones
      cases hfs : readFeatures (splitValue rest).2 with
      | error e =>
        rw [hfs] at h
        cases h
      | ok gs =>
        rw [hfs] at h
        obtain rfl := Except.ok.inj h
        obtain ⟨pairs, htail, hstands⟩ := ih hfs
        refine ⟨⟨word, (splitValue rest).1⟩ :: pairs, ?_, .cons (feature_eq_ok_iff.mp hf) hstands⟩
        rw [hword, Pair.texts, List.flatMap_cons, Pair.text, List.append_assoc, ← Pair.texts,
          ← htail, append_splitValue]

/-- What is not read is no word, or it is a pair that stands for nothing. -/
theorem eq_of_readFeatures_eq_error {cs : List Char} {e : Error}
    (h : readFeatures cs = .error e) :
    (∃ rest, e = .unknownFeature rest) ∨ ∃ p : Pair, e = p.error := by
  fun_induction readFeatures cs with
  | case1 => cases h
  | case2 c cs hnone => exact Or.inl ⟨_, (Except.error.inj h).symm⟩
  | case3 c cs word rest hread ih =>
    -- the error is that of the first pair, or it comes from the rest
    cases hf : feature word (splitValue rest).1 with
    | error e' =>
      rw [hf] at h
      obtain rfl := Except.error.inj h
      have hstands : ∀ f, ¬ Pair.Stands ⟨word, (splitValue rest).1⟩ f := by
        intro f hstands
        rw [feature_eq_ok_iff.mpr hstands] at hf
        cases hf
      exact Or.inr ⟨_, Except.error.inj (hf.symm.trans (feature_eq_error hstands))⟩
    | ok f =>
      rw [hf] at h
      change (readFeatures (splitValue rest).2).bind _ = _ at h
      cases hfs : readFeatures (splitValue rest).2 with
      | error e' =>
        rw [hfs] at h
        obtain rfl := Except.error.inj h
        exact ih hfs
      | ok fs =>
        rw [hfs] at h
        cases h

/-- Pairs that stand for features are read as those. -/
theorem readFeatures_texts {pairs : List Pair} {fs : List Feature}
    (h : List.Forall₂ Pair.Stands pairs fs) : readFeatures (Pair.texts pairs) = .ok fs := by
  induction h with
  | nil => rw [Pair.texts, List.flatMap_nil, readFeatures]
  | cons hp _ ih =>
    rw [Pair.texts] at ih
    rw [Pair.texts, List.flatMap_cons, readFeatures_append hp.isWritten, feature_eq_ok_iff.mpr hp,
      ih]
    rfl

/-- The first pair that stands for nothing decides the error. -/
theorem readFeatures_texts_eq_error {good : List Pair} {bad : Pair} (rest : List Pair)
    (hgood : ∀ p ∈ good, ∃ f, p.Stands f) (hwritten : bad.IsWritten)
    (hbad : ∀ f, ¬ bad.Stands f) :
    readFeatures (Pair.texts (good ++ bad :: rest)) = .error bad.error := by
  unfold Pair.texts
  induction good with
  | nil =>
    rw [List.nil_append, List.flatMap_cons, readFeatures_append hwritten, feature_eq_error hbad]
    rfl
  | cons p good ih =>
    obtain ⟨⟨f, hf⟩, hrest⟩ := List.forall_mem_cons.mp hgood
    rw [List.cons_append, List.flatMap_cons, readFeatures_append hf.isWritten,
      feature_eq_ok_iff.mpr hf, ih hrest]
    rfl

/-- Pairs stand for features, or one of them is the first that does not. -/
theorem stands_or_exists_first (pairs : List Pair) :
    (∃ fs, List.Forall₂ Pair.Stands pairs fs) ∨
      ∃ good bad rest, pairs = good ++ bad :: rest ∧ (∀ p ∈ good, ∃ f, p.Stands f) ∧
        ∀ f, ¬ bad.Stands f := by
  induction pairs with
  | nil => exact Or.inl ⟨[], .nil⟩
  | cons p pairs ih =>
    by_cases hp : ∃ f, p.Stands f
    · rcases ih with ⟨fs, hfs⟩ | ⟨good, bad, rest, rfl, hgood, hbad⟩
      · obtain ⟨f, hf⟩ := hp
        exact Or.inl ⟨f :: fs, .cons hf hfs⟩
      · exact Or.inr ⟨p :: good, bad, rest, rfl, List.forall_mem_cons.mpr ⟨hp, hgood⟩, hbad⟩
    · exact Or.inr ⟨[], p, pairs, rfl, by simp, not_exists.mp hp⟩

/-! ### The form of a token -/

/-- Describes the feature words. -/
def wordPattern : Pattern :=
  Pattern.text "Orientation" |||
    Pattern.anyText ["Max", "Min"] ++
      Pattern.optional (Pattern.anyText ["Width", "Height", "Resolution"])

/-- Describes the values. -/
def valuePattern : Pattern :=
  Pattern.anyText ["Portrait", "Landscape"] |||
    Pattern.digits ++ Pattern.anyText ["DPI", "DPPX", "PX"]

/-- A token is `MQ` and then words with values. -/
theorem tokenPattern_eq :
    tokenPattern = Pattern.text "MQ" ++ Pattern.many1 (wordPattern ++ valuePattern) := rfl

/-- What `wordPattern` describes is the text of a word. -/
theorem exists_word_of_matches {s : List Char} (h : wordPattern.Matches s) :
    ∃ word : Word, s = word.text.toList := by
  rcases h with h | ⟨bound, quantity, rfl, hbound, hquantity⟩
  · exact ⟨.orientation, Pattern.matches_text.mp h⟩
  · -- a bound, and perhaps a quantity behind it
    obtain ⟨b, rfl⟩ : ∃ b, bound = (Word.boundText b).toList := by
      obtain ⟨t, ht, rfl⟩ := Pattern.matches_anyText.mp hbound
      simp only [List.mem_cons, List.not_mem_nil, or_false] at ht
      rcases ht with rfl | rfl
      · exact ⟨.max, rfl⟩
      · exact ⟨.min, rfl⟩
    rcases Pattern.matches_optional.mp hquantity with hquantity | rfl
    · obtain ⟨q, rfl⟩ : ∃ q, quantity = (Word.quantityText q).toList := by
        obtain ⟨t, ht, rfl⟩ := Pattern.matches_anyText.mp hquantity
        simp only [List.mem_cons, List.not_mem_nil, or_false] at ht
        rcases ht with rfl | rfl | rfl
        · exact ⟨.width, rfl⟩
        · exact ⟨.height, rfl⟩
        · exact ⟨.resolution, rfl⟩
      exact ⟨.range b q, by rw [Word.text, String.toList_append]⟩
    · exact ⟨.bare b, List.append_nil _⟩

/-- What `valuePattern` describes is written as a value may be. -/
theorem isValue_of_matches {s : List Char} (h : valuePattern.Matches s) : IsValue s := by
  rcases h with h | ⟨digits, unit, rfl, hdigits, hunit⟩
  · obtain ⟨t, ht, rfl⟩ := Pattern.matches_anyText.mp h
    simp only [List.mem_cons, List.not_mem_nil, or_false] at ht
    rcases ht with rfl | rfl
    · exact .orientation .portrait
    · exact .orientation .landscape
  · obtain ⟨hne, hdigit⟩ := Pattern.matches_digits.mp hdigits
    obtain ⟨t, ht, rfl⟩ := Pattern.matches_anyText.mp hunit
    simp only [List.mem_cons, List.not_mem_nil, or_false] at ht
    rcases ht with rfl | rfl | rfl
    · exact .amount hne hdigit .dpi
    · exact .amount hne hdigit .dppx
    · exact .amount hne hdigit .px

/-- A word and a value are the text of a pair. -/
theorem exists_pair_of_matches {s : List Char} (h : (wordPattern ++ valuePattern).Matches s) :
    ∃ p : Pair, p.IsWritten ∧ s = p.text := by
  obtain ⟨w, value, rfl, hw, hvalue⟩ := h
  obtain ⟨word, rfl⟩ := exists_word_of_matches hw
  exact ⟨⟨word, value⟩, isValue_of_matches hvalue, rfl⟩

/-- A text of the form of tokens is `MQ` and at least one pair with a value written as a value may
    be. -/
theorem exists_pairs_of_matches {s : List Char} (h : tokenPattern.Matches s) :
    ∃ pairs, pairs ≠ [] ∧ (∀ p ∈ pairs, p.IsWritten) ∧ s = "MQ".toList ++ Pair.texts pairs := by
  rw [tokenPattern_eq] at h
  obtain ⟨lead, row, rfl, hlead, first, rest, rfl, hfirst, parts, rfl, hparts⟩ := h
  obtain rfl := Pattern.matches_text.mp hlead
  obtain ⟨p, hp, rfl⟩ := exists_pair_of_matches hfirst
  -- the later pairs, one after the other
  obtain ⟨pairs, hpairs, htexts⟩ : ∃ pairs : List Pair, (∀ p ∈ pairs, p.IsWritten) ∧
      parts.flatten = Pair.texts pairs := by
    induction parts with
    | nil => exact ⟨[], by simp, rfl⟩
    | cons t parts ih =>
      obtain ⟨ht, hrest⟩ := List.forall_mem_cons.mp hparts
      obtain ⟨q, hq, rfl⟩ := exists_pair_of_matches ht
      obtain ⟨pairs, hpairs, htexts⟩ := ih hrest
      refine ⟨q :: pairs, List.forall_mem_cons.mpr ⟨hq, hpairs⟩, ?_⟩
      rw [List.flatten_cons, htexts, Pair.texts, Pair.texts, List.flatMap_cons]
  refine ⟨p :: pairs, List.cons_ne_nil _ _, List.forall_mem_cons.mpr ⟨hp, hpairs⟩, ?_⟩
  rw [htexts, Pair.texts, Pair.texts, List.flatMap_cons]

/-! ### Reading tokens -/

namespace Condition

/-- A token is read if the pairs behind `MQ` are read and there is one. Then the text of the
    condition has the form that CSS asks for, so that this is no reason to refuse it. -/
theorem ofToken_append (row : List Char) {token : String}
    (h : token.toList = "MQ".toList ++ row) :
    ofToken token =
      (readFeatures row).bind fun fs => if fs = [] then .error .empty else .ok ⟨fs⟩ := by
  rw [ofToken, afterLead?_eq_some_iff.mpr h]
  change (readFeatures row).bind _ = _
  refine congrArg _ (funext fun fs => ?_)
  by_cases hfs : fs = []
  · rw [if_pos hfs, if_pos (List.isEmpty_iff.mpr hfs)]
  · rw [if_neg hfs, if_neg (by simpa using hfs)]
    exact if_pos (isWellFormed_css (c := ⟨fs⟩) hfs)

/-- The token of a condition is `MQ` and then the pairs that stand for its features. -/
theorem ofToken_eq_ok_iff {token : String} {c : Condition} :
    ofToken token = .ok c ↔ ∃ pairs, pairs ≠ [] ∧
      token.toList = "MQ".toList ++ Pair.texts pairs ∧
      List.Forall₂ Pair.Stands pairs c.features := by
  constructor
  · -- what is read begins with `MQ`, and the row behind it is read
    intro h
    obtain ⟨row, hrow⟩ : ∃ row, token.toList = "MQ".toList ++ row := by
      cases hlead : afterLead? "MQ".toList token.toList with
      | none =>
        rw [ofToken, hlead] at h
        cases h
      | some row => exact ⟨row, afterLead?_eq_some_iff.mp hlead⟩
    rw [ofToken_append row hrow] at h
    cases hread : readFeatures row with
    | error e => simp [hread, Except.bind] at h
    | ok fs =>
      rw [hread, Except.bind] at h
      split at h
      · cases h
      · next hne =>
        obtain rfl := Except.ok.inj h
        obtain ⟨pairs, rfl, hstands⟩ := exists_pairs_of_readFeatures hread
        refine ⟨pairs, ?_, hrow, hstands⟩
        rintro rfl
        cases hstands
        exact hne rfl
  · rintro ⟨pairs, hne, htoken, hstands⟩
    -- conversely, a row with a pair is a condition with a feature
    have hfeatures : c.features ≠ [] := by
      intro hnil
      rw [hnil] at hstands
      cases hstands
      exact hne rfl
    rw [ofToken_append _ htoken, readFeatures_texts hstands]
    exact if_neg hfeatures

/-- No token is refused for the form of its condition. -/
theorem ofToken_ne_malformed (token text : String) : ofToken token ≠ .error (.malformed text) := by
  intro h
  cases hlead : afterLead? "MQ".toList token.toList with
  | none =>
    rw [ofToken, hlead] at h
    cases h
  | some row =>
    rw [ofToken_append row (afterLead?_eq_some_iff.mp hlead)] at h
    cases hread : readFeatures row with
    | error e =>
      rw [hread] at h
      obtain rfl := Except.error.inj h
      -- the reader of pairs has other errors only
      rcases eq_of_readFeatures_eq_error hread with ⟨rest, heq⟩ | ⟨⟨word, value⟩, heq⟩
      · cases heq
      · cases word <;> cases heq
    | ok fs =>
      rw [hread, Except.bind] at h
      split at h <;> cases h

/-- What reading a token comes to, in terms of pairs. -/
structure Decoding (token : String) : Prop where
  /-- A condition is read exactly if the token is `MQ` and then one or more pairs that stand for its
      features, in order. -/
  ok_iff : ∀ c, ofToken token = .ok c ↔ ∃ pairs, pairs ≠ [] ∧
    token.toList = "MQ".toList ++ Pair.texts pairs ∧ List.Forall₂ Pair.Stands pairs c.features
  /-- A token can be cut into pairs in one way only, whether these stand for features or not. -/
  unique : ∀ pairs pairs' : List Pair, (∀ p ∈ pairs, p.IsWritten ∨ ∃ f, p.Stands f) →
    (∀ p ∈ pairs', p.IsWritten ∨ ∃ f, p.Stands f) →
    token.toList = "MQ".toList ++ Pair.texts pairs →
    token.toList = "MQ".toList ++ Pair.texts pairs' → pairs = pairs'
  not_malformed : ∀ text, ofToken token ≠ .error (.malformed text)
  /-- A token that has the form of one, but is not read, is refused for its first pair that stands
      for no feature. -/
  refused : tokenPattern.accepts token.toList = true → (∀ c, ofToken token ≠ .ok c) →
    ∃ good bad rest, token.toList = "MQ".toList ++ Pair.texts (good ++ bad :: rest) ∧
      (∀ p ∈ good ++ bad :: rest, p.IsWritten) ∧ (∀ p ∈ good, ∃ f, p.Stands f) ∧
      (∀ f, ¬ bad.Stands f) ∧ ofToken token = .error bad.error

/-- Tokens are read exactly, pair by pair. -/
theorem decoding_ofToken (token : String) : Decoding token where
  ok_iff c := ofToken_eq_ok_iff
  unique pairs pairs' h h' htoken htoken' := by
    have hwritten {qs : List Pair} (hqs : ∀ p ∈ qs, p.IsWritten ∨ ∃ f, p.Stands f) :
        ∀ p ∈ qs, p.IsWritten := fun p hp => (hqs p hp).elim id fun ⟨_, hf⟩ => hf.isWritten
    refine Pair.texts_injective (hwritten h) (hwritten h') ?_
    exact List.append_cancel_left (htoken.symm.trans htoken')
  not_malformed := ofToken_ne_malformed token
  refused := by
    intro haccepts hnot
    obtain ⟨pairs, hne, hwritten, htoken⟩ :=
      exists_pairs_of_matches (Pattern.accepts_iff.mp haccepts)
    rcases stands_or_exists_first pairs with ⟨fs, hfs⟩ | ⟨good, bad, rest, rfl, hgood, hbad⟩
    · exact absurd (ofToken_eq_ok_iff.mpr ⟨pairs, hne, htoken, hfs⟩) (hnot ⟨fs⟩)
    · have hbadWritten := hwritten bad (List.mem_append_right _ List.mem_cons_self)
      refine ⟨good, bad, rest, htoken, hwritten, hgood, hbad, ?_⟩
      rw [ofToken_append _ htoken, readFeatures_texts_eq_error rest hgood hbadWritten hbad]
      rfl

end Condition

end ClassSheet.Media
