import ClassSheet.Css.Value
import ClassSheet.Proofs.Css.Tables
import ClassSheet.Proofs.Css.Tokens

/-! # The CSS texts of values

No value that a token stands for has a character in its CSS text that could end the declaration or
the rule around it (`Value.lacks_marks`). Numbers, lengths, functions and tracks are written with
digits and fixed words; a keyword is one of the table; and what is taken over from the token as it
stands, a hexadecimal colour or a word of a border, has the characters of value tokens. -/

namespace ClassSheet.Css

open ClassSheet.Text

/-! ### Numbers and lengths -/

/-- No digit could end a declaration. -/
theorem isDigit_of_mem_marks : ∀ x ∈ marks, x.isDigit = false := by decide

/-- A number is written with digits and perhaps a point. -/
theorem Numeral.lacks_css (n : Numeral) : Lacks marks n.css := by
  have hdigits : ∀ d ∈ n.digits, d ∉ marks := by
    intro d hd hmem
    have hdigit := n.isDigit d hd
    rw [isDigit_of_mem_marks d hmem] at hdigit
    cases hdigit
  -- a number that begins with a zero gets a point behind it
  unfold Numeral.css
  split
  · next d ds heq =>
    have hpoint : Lacks marks "0." := by decide
    refine hpoint.append (.of_forall fun c hc => hdigits c ?_)
    rw [heq]
    exact List.mem_cons_of_mem '0' hc
  · exact .of_forall hdigits

/-- The texts of units are fixed. -/
theorem LengthUnit.lacks_css (u : LengthUnit) : Lacks marks u.css := by cases u <;> decide

/-- A dimension is a number and a unit. -/
theorem Dimension.lacks_css (d : Dimension) : Lacks marks d.css :=
  d.number.lacks_css.append (.getD fun u _ => u.lacks_css)

/-- The signs of operators could not end a declaration. -/
theorem Operator.lacks_sign (o : Operator) : Lacks marks (String.singleton o.sign) := by
  cases o <;> decide

/-! ### Colours -/

/-- The names of colour functions are fixed. -/
theorem ColorModel.lacks_name (m : ColorModel) : Lacks marks m.name := by cases m <;> decide

/-- An argument is a number, to which `hsl` may add a percent sign. -/
theorem ColorFunction.lacks_argCss (m : ColorModel) (arg : Numeral) (i : Nat) :
    Lacks marks (argCss m arg i) := by
  unfold argCss
  split
  · exact arg.lacks_css.append (by decide)
  · exact arg.lacks_css

/-- A colour function is its name and its arguments. -/
theorem ColorFunction.lacks_css (f : ColorFunction) : Lacks marks f.css := by
  refine ((f.model.lacks_name.append (by decide)).append ?_).append (by decide)
  refine .intercalate (by decide) fun s hs => ?_
  obtain ⟨⟨arg, i⟩, -, rfl⟩ := List.mem_map.mp hs
  exact lacks_argCss f.model arg i

/-! ### Tracks -/

/-- A track is a length or a call around lengths. -/
theorem Track.lacks_css (t : Track) : Lacks marks t.css := by
  have hminMax : Lacks marks "minmax(" := by decide
  have hfitContent : Lacks marks "fit-content(" := by decide
  cases t with
  | length d => exact d.lacks_css
  | minMax least greatest =>
    exact (((hminMax.append least.lacks_css).append (by decide)).append greatest.lacks_css).append
      (by decide)
  | fitContent d => exact (hfitContent.append d.lacks_css).append (by decide)

/-- A count is a number or one of two words. -/
theorem RepeatCount.lacks_css (c : RepeatCount) : Lacks marks c.css := by
  cases c with
  | times n => exact n.lacks_css
  | autoFill => decide
  | autoFit => decide

/-- An entry of a template is a track, or a call around a count and tracks. -/
theorem GridEntry.lacks_css (e : GridEntry) : Lacks marks e.css := by
  have hrepeat : Lacks marks "repeat(" := by decide
  cases e with
  | track t => exact t.lacks_css
  | repeated count tracks =>
    have htracks : Lacks marks (String.intercalate " " (tracks.map Track.css)) := by
      refine .intercalate (by decide) fun s hs => ?_
      obtain ⟨t, -, rfl⟩ := List.mem_map.mp hs
      exact t.lacks_css
    exact (((hrepeat.append count.lacks_css).append (by decide)).append htracks).append (by decide)

/-! ### What is taken over from a token -/

/-- No character of a value token could end a declaration. -/
theorem notMem_marks_of_isTokenChar {c : Char} (h : isTokenChar c = true) : c ∉ marks := by
  intro hmem
  revert h
  revert c
  decide

/-- The pieces between hyphens outside brackets are made of characters of the token. -/
theorem mem_of_mem_outerPieces {depth : Nat} {cs p : List Char} (h : p ∈ outerPieces depth cs) :
    ∀ c ∈ p, c ∈ cs := by
  induction cs generalizing depth p with
  | nil =>
    obtain rfl : p = [] := by simpa [outerPieces] using h
    exact fun _ hc => nomatch hc
  | cons d cs ih =>
    intro c hc
    -- cut at this character, or carry it over to the first piece behind it
    rw [outerPieces] at h
    split at h
    · rcases List.mem_cons.mp h with rfl | h
      · cases hc
      · exact List.mem_cons_of_mem d (ih h c hc)
    · dsimp only at h
      split at h
      · obtain rfl := List.mem_singleton.mp h
        rw [List.mem_singleton.mp hc]
        exact List.mem_cons_self
      · next q qs heq =>
        rcases List.mem_cons.mp h with rfl | h
        · rcases List.mem_cons.mp hc with rfl | hc
          · exact List.mem_cons_self
          · exact List.mem_cons_of_mem d (ih (heq ▸ List.mem_cons_self) c hc)
        · exact List.mem_cons_of_mem d (ih (heq ▸ List.mem_cons_of_mem q h) c hc)

/-- A colour is harmless if its token is: it is that token itself, a function or a word of the
    table. -/
theorem Color.lacks_css_of_ofToken? {token : String} (htoken : Lacks marks token) {c : Color}
    (h : Color.ofToken? token = some c) : Lacks marks c.css := by
  unfold Color.ofToken? at h
  split at h
  · obtain ⟨-, heq⟩ := Option.ite_none_right_eq_some.mp h
    obtain rfl := Option.some.inj heq
    exact htoken
  · split at h
    · obtain ⟨f, -, rfl⟩ := Option.map_eq_some_iff.mp h
      exact f.lacks_css
    · obtain ⟨w, hw, rfl⟩ := Option.map_eq_some_iff.mp h
      exact Keyword.lacks_of_color? hw

/-- A border is harmless if its style and its colour are, since both may be taken over from the
    token. -/
theorem Value.lacks_css_of_borderOfParts? {width style : List Char} {color : Option (List Char)}
    {v : Value} (hstyle : Lacks marks (String.ofList style))
    (hcolor : ∀ c ∈ color, Lacks marks (String.ofList c))
    (h : borderOfParts? width style color = some v) : Lacks marks v.css := by
  simp only [borderOfParts?, Option.bind_eq_bind, Option.bind_eq_some_iff, Option.pure_def,
    Option.some.injEq] at h
  obtain ⟨d, -, rfl⟩ := h
  -- the style is a word of the table, or the token of an unknown style
  have hword : Lacks marks ((Keyword.borderStyle? (String.ofList style)).getD
      (String.ofList style)) := by
    cases hs : Keyword.borderStyle? (String.ofList style) with
    | none => exact hstyle
    | some w => exact Keyword.lacks_of_borderStyle? hs
  refine ((d.lacks_css.append (by decide)).append hword).append (.getD fun c hc => ?_)
  -- so is the colour, if there is one
  have hspace : Lacks marks " " := by decide
  refine hspace.append ?_
  obtain ⟨cs, hcs, rfl⟩ := Option.map_eq_some_iff.mp hc
  cases hof : Color.ofToken? (String.ofList cs) with
  | none => exact hcolor cs hcs
  | some c => exact Color.lacks_css_of_ofToken? (hcolor cs hcs) hof

/-- What a token of a shape is made of could not end a declaration. -/
theorem Shape.lacks_marks {token : String} {shape : Shape} (h : classify? token = some shape) :
    Lacks marks token := by
  have htoken := Shape.token (matches_of_classify? h)
  exact fun c hc => notMem_marks_of_isTokenChar (htoken.isTokenChar c hc)

/-! ### Values -/

namespace Value

/-- A row of lengths. -/
theorem lacks_css_lengths (ds : List Dimension) : Lacks marks (lengths ds).css := by
  refine .intercalate (by decide) fun s hs => ?_
  obtain ⟨d, -, rfl⟩ := List.mem_map.mp hs
  exact d.lacks_css

/-- A row of numbers. -/
theorem lacks_css_numbers (ns : List Numeral) : Lacks marks (numbers ns).css := by
  refine .intercalate (by decide) fun s hs => ?_
  obtain ⟨n, -, rfl⟩ := List.mem_map.mp hs
  exact n.lacks_css

/-- A template. -/
theorem lacks_css_grid (entries : List GridEntry) : Lacks marks (grid entries).css := by
  refine .intercalate (by decide) fun s hs => ?_
  obtain ⟨e, -, rfl⟩ := List.mem_map.mp hs
  exact e.lacks_css

/-- A calculation is harmless whatever it was read from: none of it is taken over as it stands. -/
theorem lacks_css_of_calculationOfChars? {token : List Char} {v : Value}
    (h : calculationOfChars? token = some v) : Lacks marks v.css := by
  unfold calculationOfChars? at h
  obtain ⟨⟨name, inside⟩, -, h⟩ := Option.bind_eq_some_iff.mp h
  dsimp only at h
  obtain ⟨-, h⟩ := Option.ite_none_right_eq_some.mp h
  split at h
  · simp only [Option.bind_eq_bind, Option.bind_eq_some_iff, Option.pure_def,
      Option.some.injEq] at h
    obtain ⟨left, -, op, -, right, -, rfl⟩ := h
    -- both dimensions and the operator are written anew
    have hcalc : Lacks marks "calc(" := by decide
    exact (((((hcalc.append left.lacks_css).append (by decide)).append op.lacks_sign).append
      (by decide)).append right.lacks_css).append (by decide)
  · cases h

/-- A border that was read from harmless characters is harmless. -/
theorem lacks_css_of_borderOfChars? {token : List Char} (htoken : ∀ c ∈ token, c ∉ marks)
    {v : Value} (h : borderOfChars? token = some v) : Lacks marks v.css := by
  -- the parts of the border are pieces of the token
  have hpiece : ∀ p ∈ outerPieces 0 token, Lacks marks (String.ofList p) :=
    fun p hp => .of_forall fun c hc => htoken c (mem_of_mem_outerPieces hp c hc)
  unfold borderOfChars? at h
  split at h
  · next width style heq =>
    have hstyle := hpiece style (by simp [heq])
    exact lacks_css_of_borderOfParts? hstyle (by simp) h
  · next width style color heq =>
    have hstyle := hpiece style (by simp [heq])
    refine lacks_css_of_borderOfParts? hstyle (fun c hc => ?_) h
    obtain rfl := Option.some.inj hc
    exact hpiece color (by simp [heq])
  · cases h

/-- A value that was read by its shape is harmless if the token is. -/
theorem lacks_css_of_ofShape? {token : String} (htoken : Lacks marks token) {shape : Shape}
    {v : Value} (h : ofShape? token shape = some v) : Lacks marks v.css := by
  -- only a hexadecimal colour and the parts of a border are taken over: a keyword is one of the
  -- table, and all else is written anew
  cases shape with
  | border => exact lacks_css_of_borderOfChars? htoken h
  | grid =>
    obtain ⟨entries, -, rfl⟩ := Option.map_eq_some_iff.mp h
    exact lacks_css_grid entries
  | lengths =>
    obtain ⟨ds, -, rfl⟩ := Option.map_eq_some_iff.mp h
    exact lacks_css_lengths ds
  | numbers =>
    obtain ⟨ns, -, rfl⟩ := Option.map_eq_some_iff.mp h
    exact lacks_css_numbers ns
  | fraction =>
    obtain ⟨ns, -, rfl⟩ := Option.map_eq_some_iff.mp h
    exact lacks_css_numbers ns
  | negative =>
    simp only [ofShape?, Option.bind_eq_bind, Option.bind_eq_some_iff, Option.pure_def,
      Option.some.injEq] at h
    obtain ⟨rest, -, d, -, rfl⟩ := h
    have hsign : Lacks marks "-" := by decide
    exact hsign.append d.lacks_css
  | calculation => exact lacks_css_of_calculationOfChars? h
  | colorFunction =>
    obtain ⟨f, -, rfl⟩ := Option.map_eq_some_iff.mp h
    exact f.lacks_css
  | hexColor =>
    obtain rfl := Option.some.inj h
    exact htoken
  | text =>
    obtain ⟨w, hw, rfl⟩ := Option.map_eq_some_iff.mp h
    exact Keyword.lacks_of_word? hw

/-- No value of a token could end the declaration that it stands in. -/
theorem lacks_marks {token : String} {v : Value} (h : ofToken? token = some v) :
    Lacks marks v.css := by
  unfold ofToken? at h
  split at h
  · -- a calculation is written anew, whatever the token looks like
    exact lacks_css_of_calculationOfChars? h
  · obtain ⟨shape, hshape, h⟩ := Option.bind_eq_some_iff.mp h
    exact lacks_css_of_ofShape? (Shape.lacks_marks hshape) h

end Value

end ClassSheet.Css
