import ClassSheet.Media.Token
import ClassSheet.Proofs.Media.Condition

/-! # The pairs of media tokens

Behind `MQ`, a token is a row of pairs, each a feature word and a value, with nothing in between.
Where every value is written as a value may be (`IsValue`), the reader cuts a row where the pairs
end (`Pair.read?_append`, `splitValue_append`), so a row can be cut into pairs in one way only
(`Pair.texts_injective`). A pair is read as the feature that it stands for
(`feature_eq_ok_iff`), and otherwise its word and value make the error (`feature_eq_error`). -/

namespace ClassSheet.Media

open ClassSheet.Text

/-! ### Values -/

/-- The spelling of an orientation in a token. -/
def Orientation.code : Orientation → String
  | .portrait => "Portrait"
  | .landscape => "Landscape"

/-- The spelling of a unit in a token. -/
def Scale.code : Scale → String
  | .px => "PX"
  | .dpi => "DPI"
  | .dppx => "DPPX"

/-- A value as it may stand in a token: an orientation, or digits and a unit. -/
inductive IsValue : List Char → Prop
  | orientation (o : Orientation) : IsValue o.code.toList
  | amount {digits : List Char} (nonempty : digits ≠ [])
    (digit : ∀ c ∈ digits, c.isDigit = true) (scale : Scale) :
    IsValue (digits ++ scale.code.toList)

/-- A value begins with one of two capitals or with a digit. -/
theorem IsValue.exists_head {value : List Char} (h : IsValue value) :
    ∃ c rest, value = c :: rest ∧ (c = 'P' ∨ c = 'L' ∨ c.isDigit = true) := by
  cases h with
  | orientation o =>
    cases o with
    | portrait => exact ⟨'P', "ortrait".toList, by decide, Or.inl rfl⟩
    | landscape => exact ⟨'L', "andscape".toList, by decide, Or.inr (Or.inl rfl)⟩
  | amount hne hdigit scale =>
    obtain ⟨c, cs, rfl⟩ := List.exists_cons_of_ne_nil hne
    have hc := hdigit c List.mem_cons_self
    exact ⟨c, cs ++ scale.code.toList, rfl, Or.inr (Or.inr hc)⟩

/-- The orientation is found whatever comes behind it. -/
theorem find?_orientations (o : Orientation) (rest : List Char) :
    orientations.find? (fun entry => entry.1.toList.isPrefixOf (o.code.toList ++ rest)) =
      some (o.code, o) := by
  cases o <;> simp [orientations, Orientation.code]

/-- The unit that follows the digits is found whatever comes behind it. -/
theorem find?_scales (scale : Scale) (rest : List Char) :
    scales.find? (fun entry => entry.1.toList.isPrefixOf (scale.code.toList ++ rest)) =
      some (scale.code, scale) := by
  cases scale <;> simp [scales, Scale.code]

/-- A digit begins no orientation. -/
theorem find?_orientations_eq_none {c : Char} (hc : c.isDigit = true) (rest : List Char) :
    orientations.find? (fun entry => entry.1.toList.isPrefixOf (c :: rest)) = none := by
  have hP : 'P' ≠ c := by
    rintro rfl
    cases hc
  have hL : 'L' ≠ c := by
    rintro rfl
    cases hc
  simp [orientations, hP, hL]

/-- `splitValue` cuts a text in two and changes nothing. -/
theorem append_splitValue (cs : List Char) : (splitValue cs).1 ++ (splitValue cs).2 = cs := by
  unfold splitValue
  split <;> simp

/-- A value is cut off from what follows it. The capitals of a unit may run into those of the next
    word, but no unit begins another one. -/
theorem splitValue_append {value : List Char} (h : IsValue value) (rest : List Char) :
    splitValue (value ++ rest) = (value, rest) := by
  have hcut (xs : List Char) : (xs ++ rest).splitAt xs.length = (xs, rest) := by simp
  cases h with
  | orientation o =>
    rw [splitValue, find?_orientations]
    dsimp only
    rw [← String.length_toList]
    exact hcut o.code.toList
  | @amount digits hne hdigit scale =>
    obtain ⟨c, cs, rfl⟩ := List.exists_cons_of_ne_nil hne
    -- no orientation begins with a digit, and the digits end where the unit begins
    have hnone := find?_orientations_eq_none (hdigit c List.mem_cons_self)
      (cs ++ (scale.code.toList ++ rest))
    have hstop : ∀ d ∈ (scale.code.toList ++ rest).head?, d.isDigit = false := by
      cases scale <;> simp [Scale.code]
    rw [List.append_assoc, splitValue, List.cons_append, hnone, ← List.cons_append,
      takeWhile_append_of_stop hdigit hstop, dropWhile_append_of_stop hdigit hstop]
    dsimp only
    rw [find?_scales]
    dsimp only
    rw [← String.length_toList, ← List.length_append, ← List.append_assoc]
    exact hcut (c :: cs ++ scale.code.toList)

/-! ### Pairs -/

/-- A feature word and the value behind it. -/
structure Pair where
  word : Word
  value : List Char

namespace Pair

/-- The spelling of a pair in a token. -/
def text (p : Pair) : List Char := p.word.text.toList ++ p.value

/-- The spelling of a row of pairs. -/
def texts (pairs : List Pair) : List Char := pairs.flatMap text

/-- The value is written as a value may be, whether it suits the word or not. -/
def IsWritten (p : Pair) : Prop := IsValue p.value

/-- The feature that a pair stands for: an orientation behind its word, or behind a bound and a
    quantity a number of 32 bits in decimal and a unit for that quantity. -/
inductive Stands : Pair → Feature → Prop
  | orientation (o : Orientation) : Stands ⟨.orientation, o.code.toList⟩ (.orientation o)
  | range (bound : Bound) (quantity : Quantity) {digits : List Char} {number : UInt32}
    {scale : Scale} (nonempty : digits ≠ []) (digit : ∀ c ∈ digits, c.isDigit = true)
    (value : decimalValue digits = number.toNat)
    (unit : quantity = .resolution ↔ scale = .dpi ∨ scale = .dppx) :
    Stands ⟨.range bound quantity, digits ++ scale.code.toList⟩
      (.range bound quantity ⟨number, scale⟩)

/-- What is wrong with a pair that stands for no feature: its word is a bound alone, or its value
    does not suit the word. -/
def error (p : Pair) : Error :=
  match p.word with
  | .bare bound => .incompleteFeature (Word.boundText bound)
  | word => .invalidValue word.text (String.ofList p.value)

/-- The value of a pair that stands for a feature is written as a value may be. -/
theorem Stands.isWritten {p : Pair} {f : Feature} (h : p.Stands f) : p.IsWritten := by
  cases h with
  | orientation o => exact .orientation o
  | range bound quantity hne hdigit _ _ => exact .amount hne hdigit _

/-! ### Cutting into pairs -/

/-- A word is found in front of a value. The words that go on with a quantity do so with a letter
    that begins no value. -/
theorem read?_append {p : Pair} (h : p.IsWritten) (rest : List Char) :
    Word.read? (p.text ++ rest) = some (p.word, p.value ++ rest) := by
  obtain ⟨word, value⟩ := p
  obtain ⟨c, cs, rfl, hc⟩ := IsValue.exists_head h
  -- the letters with which a quantity begins
  have hW : 'W' ≠ c := by rintro rfl; simp at hc
  have hH : 'H' ≠ c := by rintro rfl; simp at hc
  have hR : 'R' ≠ c := by rintro rfl; simp at hc
  cases word with
  | orientation => simp [text, Word.read?, Word.all, Word.text, afterLead?]
  | range bound quantity =>
    cases bound <;> cases quantity <;>
      simp [text, Word.read?, Word.all, Word.text, Word.boundText, Word.quantityText, afterLead?]
  | bare bound =>
    cases bound <;>
      simp [text, Word.read?, Word.all, Word.text, Word.boundText, Word.quantityText, afterLead?,
        hW, hH, hR]

/-- A row of pairs is the row of one list of pairs only. -/
theorem texts_injective {pairs pairs' : List Pair} (h : ∀ p ∈ pairs, p.IsWritten)
    (h' : ∀ p ∈ pairs', p.IsWritten) (heq : texts pairs = texts pairs') : pairs = pairs' := by
  have hne (p : Pair) (rest : List Char) (hp : p.IsWritten) : p.text ++ rest ≠ [] := by
    obtain ⟨c, cs, hvalue, -⟩ := IsValue.exists_head hp
    simp [text, hvalue]
  induction pairs generalizing pairs' with
  | nil =>
    cases pairs' with
    | nil => rfl
    | cons q qs => exact absurd heq.symm (hne q _ (h' q List.mem_cons_self))
  | cons p ps ih =>
    cases pairs' with
    | nil => exact absurd heq (hne p _ (h p List.mem_cons_self))
    | cons q qs =>
      obtain ⟨hp, hps⟩ := List.forall_mem_cons.mp h
      obtain ⟨hq, hqs⟩ := List.forall_mem_cons.mp h'
      simp only [texts, List.flatMap_cons] at heq ih
      -- what is read off the same text is the same: first the words, then the values
      have hread := read?_append hp (ps.flatMap text)
      rw [heq, read?_append hq] at hread
      obtain ⟨hword, hrest⟩ := Prod.mk.inj (Option.some.inj hread)
      have hsplit := splitValue_append hp (ps.flatMap text)
      rw [← hrest, splitValue_append hq] at hsplit
      obtain ⟨hvalue, htexts⟩ := Prod.mk.inj hsplit
      have hpair : p = q := by
        cases p
        cases q
        exact congr (congrArg Pair.mk hword.symm) hvalue.symm
      rw [hpair, ih hps hqs htexts.symm]

end Pair

/-! ### Features -/

/-- An orientation is looked up by its spelling. -/
theorem lookup_orientations_eq_some_iff {s : String} {o : Orientation} :
    orientations.lookup s = some o ↔ s = o.code := by
  cases o <;> simp [orientations, Orientation.code, List.lookup_cons] <;> grind

/-- A unit is looked up by its spelling. -/
theorem lookup_scales_eq_some_iff {s : String} {scale : Scale} :
    scales.lookup s = some scale ↔ s = scale.code := by
  cases scale <;> simp [scales, Scale.code, List.lookup_cons] <;> grind

/-- An amount is spelled by digits and a unit. -/
theorem amount?_eq_some_iff {value : List Char} {amount : Amount} :
    amount? value = some amount ↔ ∃ digits, digits ≠ [] ∧ (∀ c ∈ digits, c.isDigit = true) ∧
      decimalValue digits = amount.value.toNat ∧ value = digits ++ amount.scale.code.toList := by
  obtain ⟨number, scale⟩ := amount
  constructor
  · intro h
    obtain ⟨n, hn, h⟩ := Option.bind_eq_some_iff.mp h
    obtain ⟨u, hu, h⟩ := Option.bind_eq_some_iff.mp h
    obtain ⟨rfl, rfl⟩ := (Amount.mk.injEq ..).mp (Option.some.inj h)
    rw [lookup_scales_eq_some_iff] at hu
    obtain ⟨hne, hdigit, hvalue⟩ := word?_eq_some_iff.mp hn
    -- the digits in front are the number, and what is left is the unit
    refine ⟨value.takeWhile Char.isDigit, hne, hdigit, hvalue, ?_⟩
    rw [← hu, String.toList_ofList, List.takeWhile_append_dropWhile]
  · rintro ⟨digits, hne, hdigit, hvalue, rfl⟩
    -- conversely, the digits end in front of the unit
    have hstop : ∀ c ∈ scale.code.toList.head?, c.isDigit = false := by
      cases scale <;> simp [Scale.code]
    have hnumber := word?_eq_some_iff.mpr ⟨hne, hdigit, hvalue⟩
    have hscale := lookup_scales_eq_some_iff.mpr (rfl : scale.code = scale.code)
    rw [amount?, takeWhile_append_of_stop hdigit hstop, dropWhile_append_of_stop hdigit hstop,
      String.ofList_toList, hnumber, hscale]
    rfl

/-- A resolution takes units of its own, and the other quantities take the others. -/
theorem fits_iff {quantity : Quantity} {scale : Scale} :
    quantity.fits scale = true ↔ (quantity = .resolution ↔ scale = .dpi ∨ scale = .dppx) := by
  cases quantity <;> cases scale <;> decide

/-- A word and a value are a feature exactly if they are a pair that stands for it. -/
theorem feature_eq_ok_iff {word : Word} {value : List Char} {f : Feature} :
    feature word value = .ok f ↔ Pair.Stands ⟨word, value⟩ f := by
  -- by the word, as each has its own kind of value
  cases word with
  | orientation =>
    constructor
    · intro h
      rw [feature] at h
      split at h
      · next o ho =>
        rw [lookup_orientations_eq_some_iff] at ho
        obtain rfl := Except.ok.inj h
        obtain rfl : value = o.code.toList := by rw [← ho, String.toList_ofList]
        exact .orientation o
      · cases h
    · rintro ⟨o⟩
      rw [feature, String.ofList_toList, lookup_orientations_eq_some_iff.mpr rfl]
  | bare bound =>
    constructor
    · intro h
      cases h
    · rintro ⟨⟩
  | range bound quantity =>
    constructor
    · intro h
      rw [feature] at h
      split at h
      · next amount hamount =>
        obtain ⟨digits, hne, hdigit, hvalue, rfl⟩ := amount?_eq_some_iff.mp hamount
        split at h
        · -- the amount is read and its unit fits the quantity
          next hfits =>
          obtain rfl := Except.ok.inj h
          exact .range bound quantity hne hdigit hvalue (fits_iff.mp hfits)
        · cases h
      · cases h
    · intro h
      cases h with
      | @range _ _ digits number scale hne hdigit hvalue hunit =>
        have hamount : amount? (digits ++ scale.code.toList) = some ⟨number, scale⟩ :=
          amount?_eq_some_iff.mpr ⟨digits, hne, hdigit, hvalue, rfl⟩
        rw [feature, hamount]
        exact if_pos (fits_iff.mpr hunit)

/-- Whatever is no feature is an error about the word and the value. -/
theorem feature_eq_error {p : Pair} (h : ∀ f, ¬ p.Stands f) :
    feature p.word p.value = .error p.error := by
  obtain ⟨word, value⟩ := p
  cases hf : feature word value with
  | ok f => exact absurd (feature_eq_ok_iff.mp hf) (h f)
  | error e =>
    cases word with
    | orientation =>
      rw [feature] at hf
      split at hf
      · cases hf
      · exact hf.symm
    | bare bound => exact hf.symm
    | range bound quantity =>
      rw [feature] at hf
      split at hf
      · split at hf
        · cases hf
        · exact hf.symm
      · exact hf.symm

end ClassSheet.Media
