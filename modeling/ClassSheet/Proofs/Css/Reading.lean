import ClassSheet.Proofs.Css.Shapes

/-! # What the value reader accepts

The reader and the patterns agree (`Value.ofToken?_exact`): a token stands for a value if it has a
shape other than a plain text, or if it is a plain text and a keyword, and the kind of the value is
that of the shape. Reading a token that begins with `calc` without a look at its shape changes
nothing (`Value.ofToken?_eq_bind`). -/

namespace ClassSheet.Css

open ClassSheet.Text

namespace Value

/-! ### Tokens of a shape -/

/-- A token of a shape other than a plain text is the spelling of the value that it is read as. -/
theorem exists_of_accepts {s : Shape} (hne : s ≠ .text) {token : String}
    (h : s.accepts token = true) :
    ∃ v : Value, ofShape? token s = some v ∧ v.IsSpelled ∧ v.shape = s.reading ∧
      v.token = token.toList := by
  obtain ⟨v, hv, hshape, htoken⟩ := exists_of_matches hne (Pattern.accepts_iff.mp h)
  have hread := ofShape?_token hv
  rw [htoken, String.ofList_toList, hshape, ofShape?_reading] at hread
  exact ⟨v, hread, hv, hshape, htoken⟩

/-- The kind of a value is that of the shape that its token has. -/
theorem shape_eq_of_ofShape? {s : Shape} {token : String} (hs : s.accepts token = true) {v : Value}
    (h : ofShape? token s = some v) : v.shape = s.reading := by
  by_cases htext : s = .text
  · subst htext
    obtain ⟨w, -, rfl⟩ := Option.map_eq_some_iff.mp h
    rfl
  · obtain ⟨v', hread, -, hshape, -⟩ := exists_of_accepts htext hs
    rw [hread] at h
    obtain rfl := Option.some.inj h
    exact hshape

/-! ### Tokens that begin with `calc` -/

/-- Only calculations begin with the letter of their name. -/
theorem shape_eq_calculation {v : Value} (h : v.IsSpelled) (hhead : v.token.head? = some 'c') :
    v.shape = .calculation := by
  -- what begins with a number begins with a digit
  have hdigit {n : Numeral} {rest : List Char} : (n.digits ++ rest).head? ≠ some 'c' := by
    obtain ⟨d, ds, hdigits, hd⟩ := n.exists_cons
    rw [hdigits]
    rintro heq
    obtain rfl : d = 'c' := Option.some.inj heq
    exact absurd hd (by decide)
  -- the first character of each other spelling is a digit, a sign or the letter of another name
  cases h with
  | @lengths ds hne _ =>
    obtain ⟨d, ds, rfl⟩ := List.exists_cons_of_ne_nil hne
    rw [token, List.map_cons, intercalate_cons_eq, Dimension.token, List.append_assoc] at hhead
    exact absurd hhead hdigit
  | @numbers ns hne =>
    obtain ⟨n, ns, rfl⟩ := List.exists_cons_of_ne_nil hne
    rw [token, List.map_cons, intercalate_cons_eq] at hhead
    exact absurd hhead hdigit
  | negative d => cases hhead
  | @hexColor digits h =>
    obtain ⟨cs, -, hcs⟩ := Color.exists_of_hexPattern h
    rw [token, hcs] at hhead
    cases hhead
  | @colorFunction f _ =>
    obtain ⟨model, args⟩ := f
    cases model <;> simp [token, ColorFunction.token, callToken, ColorModel.name] at hhead
  | calculation left op right => rfl
  | @grid entries hne _ hopens =>
    obtain ⟨entry, entries, rfl⟩ := List.exists_cons_of_ne_nil hne
    rw [token, List.map_cons, intercalate_cons_eq] at hhead
    cases entry with
    | track t =>
      cases t with
      | length d => exact absurd rfl (hopens d)
      | minMax least greatest => cases hhead
      | fitContent d => cases hhead
    | repeated count tracks => cases hhead
  | @border width w color _ _ _ =>
    rw [token, List.cons_append, intercalate_cons_eq, Dimension.token, List.append_assoc] at hhead
    exact absurd hhead hdigit

/-- A token that begins with `calc` is a calculation by its shape, or by no shape a value. -/
theorem calculationOfChars?_eq {token : String}
    (hcalc : "calc".toList.isPrefixOf token.toList = true) :
    calculationOfChars? token.toList = (Shape.classify? token).bind (ofShape? token) := by
  -- what is read as a calculation has the shape of one
  have hreads {v : Value} (h : calculationOfChars? token.toList = some v) :
      Shape.calculation.accepts token = true :=
    Pattern.accepts_iff.mpr (matches_of_calculationOfChars? h)
  cases hclass : Shape.classify? token with
  | none =>
    have hnone := List.find?_eq_none.mp hclass
    exact Option.eq_none_iff_forall_ne_some.mpr fun v hv =>
      hnone .calculation (Shape.mem_all _) (hreads hv)
  | some s =>
    have hs := Shape.matches_of_classify? hclass
    rw [Option.bind_some]
    by_cases htext : s = .text
    · subst htext
      -- a plain text that begins like this is no keyword, and no calculation either
      have hword := Keyword.word?_eq_none_of_calc (Shape.letters_of_matches_text hs) hcalc
      rw [ofShape?, hword]
      refine Option.eq_none_iff_forall_ne_some.mpr fun v hv => ?_
      cases Shape.reading_eq_of_accepts (hreads hv) (Pattern.accepts_iff.mpr hs)
    · obtain ⟨v, -, hv, hshape, htoken⟩ := exists_of_accepts htext (Pattern.accepts_iff.mpr hs)
      obtain ⟨rest, hrest⟩ := List.isPrefixOf_iff_prefix.mp hcalc
      have hhead : v.token.head? = some 'c' := by
        rw [htoken, ← hrest]
        rfl
      rw [shape_eq_calculation hv hhead] at hshape
      -- no other shape is read as a calculation
      obtain rfl : s = .calculation := by
        cases s <;> first | rfl | cases hshape
      rfl

/-- Every token is read by its shape. -/
theorem ofToken?_eq_bind (token : String) :
    ofToken? token = (Shape.classify? token).bind (ofShape? token) := by
  rw [ofToken?]
  split
  · next hcalc => exact calculationOfChars?_eq hcalc
  · rfl

/-! ### The reader and the patterns -/

/-- A token is read by any of its shapes alike. -/
theorem ofToken?_of_accepts {s : Shape} {token : String} (h : s.accepts token = true) :
    ofToken? token = ofShape? token s := by
  obtain ⟨s', hs', hreading⟩ := Shape.exists_firstOf? Shape.mem_all h
  rw [Shape.firstOf?_all] at hs'
  rw [ofToken?_eq_bind, hs', Option.bind_some, ← ofShape?_reading, hreading, ofShape?_reading]

/-- A token that stands for a value has a shape. -/
theorem exists_accepts_of_ofToken? {token : String} {v : Value} (h : ofToken? token = some v) :
    ∃ s : Shape, s.accepts token = true := by
  obtain ⟨s, hs⟩ := exists_shape_of_ofToken? h
  exact ⟨s, Pattern.accepts_iff.mpr hs⟩

/-- A token stands for a value if it has a shape other than a plain text, or if it is a plain text
    and a keyword. The kind of the value is that of the shape, and a token that begins with `calc`
    makes no exception. -/
theorem ofToken?_exact (token : String) :
    ((ofToken? token).isSome = true ↔
        (∃ s : Shape, s ≠ .text ∧ s.accepts token = true) ∨
          Shape.text.accepts token = true ∧ (Keyword.word? token).isSome = true) ∧
      (∀ v, ofToken? token = some v → ∀ s : Shape, s.accepts token = true → v.shape = s.reading) ∧
      ofToken? token = (Shape.classify? token).bind (ofShape? token) := by
  refine ⟨⟨fun hsome => ?_, ?_⟩, fun v hv s hs => ?_, ofToken?_eq_bind token⟩
  · obtain ⟨v, hv⟩ := Option.isSome_iff_exists.mp hsome
    obtain ⟨s, hs⟩ := exists_accepts_of_ofToken? hv
    -- only a plain text can fail to have a reading
    by_cases htext : s = .text
    · subst htext
      rw [ofToken?_of_accepts hs, ofShape?, Option.isSome_map] at hsome
      exact Or.inr ⟨hs, hsome⟩
    · exact Or.inl ⟨s, htext, hs⟩
  · rintro (⟨s, hne, hs⟩ | ⟨hs, hword⟩)
    · obtain ⟨v, hread, -⟩ := exists_of_accepts hne hs
      rw [ofToken?_of_accepts hs, hread]
      rfl
    · rw [ofToken?_of_accepts hs, ofShape?, Option.isSome_map]
      exact hword
  · rw [ofToken?_of_accepts hs] at hv
    exact shape_eq_of_ofShape? hs hv

/-- A fraction stands for a value, which is one of numbers. -/
theorem ofToken?_exact_fraction : Shape.fraction.accepts "05" = true ∧
    ∃ v, ofToken? "05" = some v ∧ v.shape = .numbers := by
  have hs : Shape.fraction.accepts "05" = true := by decide +kernel
  obtain ⟨hsome, hshape, -⟩ := ofToken?_exact "05"
  obtain ⟨v, hv⟩ := Option.isSome_iff_exists.mp (hsome.mpr (Or.inl ⟨.fraction, by decide, hs⟩))
  exact ⟨hs, v, hv, hshape v hv .fraction hs⟩

end Value

end ClassSheet.Css
