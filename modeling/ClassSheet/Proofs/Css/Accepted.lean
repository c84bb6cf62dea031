import ClassSheet.Css.Value
import ClassSheet.Proofs.Css.Tokens

/-! # Accepted value tokens

Every token that stands for a value has one of the shapes (`Value.exists_shape_of_ofToken?`). Most
tokens are read by their shape in the first place; a calculation is read without a look at it, from
its brackets inwards. -/

namespace ClassSheet.Css

open ClassSheet.Text

/-! ### Numbers, units and operators -/

/-- What is read as a number is made of digits. -/
theorem Numeral.matches_of_ofChars? {cs : List Char} {n : Numeral} (h : ofChars? cs = some n) :
    Pattern.digits.Matches cs := by
  unfold ofChars? at h
  split at h
  · next hdigits => exact Pattern.matches_digits.mpr ⟨hdigits.1, List.all_eq_true.mp hdigits.2⟩
  · cases h

/-- What is read as a unit is one of the codes. -/
theorem LengthUnit.matches_of_ofCode? {code : String} {u : LengthUnit} (h : ofCode? code = some u) :
    pattern.Matches code.toList := Pattern.matches_anyText_of_find? h

/-- What is read as an operator is one of the codes. -/
theorem Operator.matches_of_ofCode? {code : String} {o : Operator} (h : ofCode? code = some o) :
    pattern.Matches code.toList := Pattern.matches_anyText_of_find? h

/-- What is read as a dimension is a number and perhaps a unit. -/
theorem Dimension.matches_of_ofChars? {cs : List Char} {d : Dimension} (h : ofChars? cs = some d) :
    pattern.Matches cs := by
  have hcut : cs = cs.takeWhile Char.isDigit ++ cs.dropWhile Char.isDigit :=
    List.takeWhile_append_dropWhile.symm
  obtain ⟨number, hnumber, h⟩ := Option.bind_eq_some_iff.mp h
  refine ⟨_, _, hcut, Numeral.matches_of_ofChars? hnumber, ?_⟩
  split at h
  · next hnil => exact Or.inr hnil
  · obtain ⟨unit, hunit, -⟩ := Option.bind_eq_some_iff.mp h
    have hmatches := LengthUnit.matches_of_ofCode? hunit
    rw [String.toList_ofList] at hmatches
    exact Or.inl hmatches

/-! ### Calculations -/

/-- A call is its name and its inside in brackets. -/
theorem eq_of_call? {token name inside : List Char} (h : call? token = some (name, inside)) :
    token = name ++ '(' :: (inside ++ [')']) := by
  have hcut : token.takeWhile (· != '(') ++ token.dropWhile (· != '(') = token :=
    List.takeWhile_append_dropWhile
  unfold call? at h
  split at h
  · cases h
  · next c rest hrest =>
    obtain ⟨hlast, hparts⟩ := Option.ite_none_right_eq_some.mp h
    obtain ⟨rfl, rfl⟩ := Prod.mk.inj (Option.some.inj hparts)
    -- the name ends in front of the first opening bracket
    obtain rfl : c = '(' := by
      have hstop := List.head?_dropWhile_not (· != '(') token
      rw [hrest] at hstop
      simpa using hstop
    obtain ⟨inside, rfl⟩ := List.getLast?_eq_some_iff.mp hlast
    rw [List.dropLast_concat, ← hrest, hcut]

namespace Value

/-- What is read as a calculation has its shape. -/
theorem matches_of_calculationOfChars? {token : List Char} {v : Value}
    (h : calculationOfChars? token = some v) : Shape.calculationPattern.Matches token := by
  obtain ⟨⟨name, inside⟩, hcall, h⟩ := Option.bind_eq_some_iff.mp h
  obtain ⟨hname, h⟩ := Option.ite_none_right_eq_some.mp h
  split at h
  · next left op right hpieces =>
    simp only [Option.bind_eq_bind, Option.bind_eq_some_iff] at h
    obtain ⟨l, hl, o, ho, r, hr, -⟩ := h
    -- the three pieces, joined again and put back into their brackets, are the token
    have hop := Operator.matches_of_ofCode? ho
    rw [String.toList_ofList] at hop
    have hinside : inside = left ++ '-' :: (op ++ '-' :: right) := by
      rw [← intercalate_pieces '-' inside, hpieces]
      simp [List.intercalate_cons_cons]
    have htoken : token =
        ((((("calc(".toList ++ left) ++ "-".toList) ++ op) ++ "-".toList) ++ right) ++
          ")".toList := by
      rw [eq_of_call? hcall, hname, hinside]
      simp
    rw [htoken]
    have hcalc := Pattern.matches_text (t := "calc(").mpr rfl
    exact ⟨_, _, rfl, ⟨_, _, rfl, ⟨_, _, rfl, ⟨_, _, rfl, ⟨_, _, rfl, ⟨_, _, rfl, hcalc,
      Dimension.matches_of_ofChars? hl⟩, Pattern.matches_text.mpr rfl⟩, hop⟩,
      Pattern.matches_text.mpr rfl⟩, Dimension.matches_of_ofChars? hr⟩,
      Pattern.matches_text.mpr rfl⟩
  · cases h

/-- A token that stands for a value has a shape. -/
theorem exists_shape_of_ofToken? {token : String} {v : Value} (h : ofToken? token = some v) :
    ∃ shape : Shape, shape.pattern.Matches token.toList := by
  unfold ofToken? at h
  split at h
  · exact ⟨.calculation, matches_of_calculationOfChars? h⟩
  · obtain ⟨shape, hshape, -⟩ := Option.bind_eq_some_iff.mp h
    exact ⟨shape, Shape.matches_of_classify? hshape⟩

end Value

end ClassSheet.Css
