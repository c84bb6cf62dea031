import ClassSheet.Media.Condition
import ClassSheet.Proofs.Css.Tables
import ClassSheet.Proofs.Pattern.Texts

/-! # The texts of media conditions

The text of a condition has no brace (`Condition.lacks_css`) and tells the condition
(`Condition.css_injective`): every feature ends with its only closing bracket, its name stands in
front of the colon, and the number of an amount in front of the unit. It has the form that CSS asks
for (`Condition.isWellFormed_css`). -/

namespace ClassSheet.Media

open ClassSheet.Text ClassSheet.Css

/-! ### Words -/

/-- The word tells the orientation. -/
theorem Orientation.css_injective : Function.Injective css := by
  intro a b h
  cases a <;> cases b <;> first | rfl | exact absurd h (by decide)

/-- The text of a unit tells the unit. -/
theorem Scale.css_injective : Function.Injective css := by
  intro a b h
  cases a <;> cases b <;> first | rfl | exact absurd h (by decide)

/-- A number ends where the unit begins. -/
theorem Amount.css_injective : Function.Injective css := by
  intro a b h
  -- digits on one side and a letter on the other: the number ends between them
  have hdigits (n : UInt32) : ∀ c ∈ (wordText n).toList, c.isDigit = true := by
    intro c hc
    rw [wordText, String.toList_ofList] at hc
    exact Nat.isDigit_of_mem_toDigits (by omega) (by omega) hc
  have hunit (s : Scale) : ∀ c ∈ s.css.toList.head?, c.isDigit = false := by
    cases s <;> decide
  have hchars := congrArg String.toList h
  simp only [css, String.toList_append] at hchars
  obtain ⟨hvalue, hscale⟩ :=
    append_inj_of_stop (hdigits a.value) (hunit a.scale) (hdigits b.value) (hunit b.scale) hchars
  -- the digits tell the number
  have hword := word?_wordText a.value
  rw [hvalue, word?_wordText] at hword
  obtain ⟨value, scale⟩ := a
  obtain ⟨value', scale'⟩ := b
  obtain rfl : scale = scale' := Scale.css_injective (String.toList_inj.mp hscale)
  obtain rfl : value' = value := Option.some.inj hword
  rfl

/-! ### Features -/

namespace Feature

/-- What a feature is about: the orientation, or a quantity and the side that it is limited from. -/
def subject : Feature → Option (Bound × Quantity)
  | orientation _ => none
  | range bound quantity _ => some (bound, quantity)

/-- What stands in front of the colon. -/
def lead : Option (Bound × Quantity) → String
  | none => "(orientation"
  | some (bound, quantity) => "(" ++ bound.css ++ "-" ++ quantity.css

/-- What stands in front of the colon tells what the feature is about. -/
theorem lead_injective : Function.Injective lead := by
  intro s s' h
  rcases s with _ | ⟨b, q⟩ <;> rcases s' with _ | ⟨b', q'⟩
  · rfl
  · cases b' <;> cases q' <;> exact absurd h (by decide)
  · cases b <;> cases q <;> exact absurd h (by decide)
  · cases b <;> cases q <;> cases b' <;> cases q' <;> first | rfl | exact absurd h (by decide)

/-- What stands behind the colon. -/
def value : Feature → String
  | orientation o => o.css
  | range _ _ amount => amount.css

/-- The text of a feature is its lead and its value in brackets, with a colon between them. -/
theorem css_eq (f : Feature) : f.css = lead f.subject ++ ": " ++ f.value ++ ")" := by
  cases f <;> rfl

/-- The same by its characters, cut where the lead ends. -/
theorem toList_css (f : Feature) :
    f.css.toList = (lead f.subject).toList ++ ':' :: (' ' :: f.value.toList ++ [')']) := by
  have hcolon : ": ".toList = [':', ' '] := by decide
  have hclosing : ")".toList = [')'] := by decide
  rw [css_eq]
  simp [hcolon, hclosing]

/-- A lead has no colon, no closing bracket and no brace. -/
theorem lacks_lead (s : Option (Bound × Quantity)) : Lacks (':' :: ')' :: braces) (lead s) := by
  rcases s with _ | ⟨b, q⟩
  · decide
  · cases b <;> cases q <;> decide

/-- A value has no colon, no closing bracket and no brace. -/
theorem lacks_value (f : Feature) : Lacks (':' :: ')' :: braces) f.value := by
  cases f with
  | orientation o => cases o <;> decide
  | range bound quantity amount =>
    have hunit : Lacks (':' :: ')' :: braces) amount.scale.css := by
      cases amount.scale <;> decide
    exact (Lacks.wordText (by decide) amount.value).append hunit

/-- The text of a feature has no brace. -/
theorem lacks_css (f : Feature) : Lacks braces f.css := by
  have hsub : ∀ c ∈ braces, c ∈ ':' :: ')' :: braces :=
    fun c hc => List.mem_cons_of_mem _ (List.mem_cons_of_mem _ hc)
  have hlead := (lacks_lead f.subject).mono hsub
  have hvalue := f.lacks_value.mono hsub
  rw [css_eq]
  exact ((hlead.append (by decide)).append hvalue).append (by decide)

/-- A feature ends with its only closing bracket. -/
theorem exists_css_eq (f : Feature) : ∃ body, ')' ∉ body ∧ f.css.toList = body ++ [')'] := by
  refine ⟨(lead f.subject).toList ++ ':' :: ' ' :: f.value.toList, ?_, by simp [toList_css]⟩
  have hlead : ')' ∉ (lead f.subject).toList := (lacks_lead f.subject).not_mem (by decide)
  have hvalue : ')' ∉ f.value.toList := f.lacks_value.not_mem (by decide)
  simp [hlead, hvalue]

/-- The text of a feature tells the feature. -/
theorem css_injective : Function.Injective css := by
  intro f g h
  have hfront (s : Option (Bound × Quantity)) : ∀ c ∈ (lead s).toList, (c != ':') = true :=
    (lacks_lead s).bne (by decide)
  have hchars := congrArg String.toList h
  -- the lead ends at the colon, and it tells the kind of the feature
  rw [toList_css, toList_css] at hchars
  obtain ⟨hlead, hrest⟩ :=
    append_inj_of_stop (hfront f.subject) (by simp) (hfront g.subject) (by simp) hchars
  have hsubject : f.subject = g.subject := lead_injective (String.toList_inj.mp hlead)
  have hvalue : f.value = g.value := by simpa [String.toList_inj] using hrest
  cases f with
  | orientation o =>
    cases g with
    | orientation o' => rw [Orientation.css_injective hvalue]
    | range b q a => cases hsubject
  | range b q a =>
    cases g with
    | orientation o => cases hsubject
    | range b' q' a' =>
      obtain ⟨rfl, rfl⟩ := Prod.mk.inj (Option.some.inj hsubject)
      rw [Amount.css_injective hvalue]

end Feature

/-! ### Conditions -/

namespace Condition

/-- The text of a condition has no brace. -/
theorem lacks_css (c : Condition) : Lacks braces c.css := by
  refine .intercalate (by decide) fun s hs => ?_
  obtain ⟨f, -, rfl⟩ := List.mem_map.mp hs
  exact f.lacks_css

/-- The text of a condition tells its features. -/
theorem css_injective : Function.Injective css := by
  intro c d h
  have hchars := congrArg String.toList h
  simp only [css, String.toList_intercalate, List.map_map] at hchars
  have hfeatures : c.features = d.features :=
    intercalate_map_inj (P := fun _ => True) (fun f _ => f.exists_css_eq)
      (fun f g _ _ hfg => Feature.css_injective (String.toList_inj.mp hfg)) (by decide)
      (fun _ _ => trivial) (fun _ _ => trivial) hchars
  exact (Condition.mk.injEq _ _).mpr hfeatures

/-! ### The form of a condition -/

/-- Any blanks may stand where white space is allowed. -/
theorem matches_blanks {s : List Char} (h : ∀ c ∈ s, isBlank c = true) : blanks.Matches s :=
  Pattern.matches_many_one.mpr h

/-- The decimal text of a number is made of digits. -/
theorem matches_wordText (n : UInt32) : Pattern.digits.Matches (wordText n).toList := by
  rw [wordText, String.toList_ofList]
  exact Pattern.matches_digits.mpr
    ⟨Nat.toDigits_ne_nil, fun _ hc => Nat.isDigit_of_mem_toDigits (by omega) (by omega) hc⟩

/-- A feature is written as CSS writes it. Of all places where white space is allowed, only the one
    behind the colon has any. -/
theorem matches_css (f : Feature) : featurePattern.Matches f.css.toList := by
  have hnone : blanks.Matches [] := matches_blanks (by simp)
  have hspace : blanks.Matches [' '] := matches_blanks (by decide)
  have htext (t : String) : (Pattern.text t).Matches t.toList := Pattern.matches_text.mpr rfl
  have hopen := Pattern.matches_append (htext "(") hnone
  cases f with
  | orientation o =>
    have horientation : (Pattern.anyText ["landscape", "portrait"]).Matches o.css.toList :=
      Pattern.matches_anyText.mpr ⟨o.css, by cases o <;> decide, rfl⟩
    -- the pattern is read from the front: the name, the colon, the value, the end
    have hname := Pattern.matches_append (Pattern.matches_append hopen (htext "orientation")) hnone
    have hcolon := Pattern.matches_append (Pattern.matches_append hname (htext ":")) hspace
    have hvalue := Pattern.matches_append (Pattern.matches_append hcolon horientation) hnone
    have hfeature := Pattern.matches_append hvalue (htext ")")
    have hlead : "(orientation: ".toList =
        "(".toList ++ "orientation".toList ++ ":".toList ++ [' '] := by decide
    refine Or.inr ?_
    simpa [Feature.css, hlead] using hfeature
  | range bound quantity amount =>
    have hbound : (Pattern.anyText ["min", "max"]).Matches bound.css.toList :=
      Pattern.matches_anyText.mpr ⟨bound.css, by cases bound <;> decide, rfl⟩
    have hquantity : (Pattern.anyText ["width", "height", "resolution"]).Matches
        quantity.css.toList :=
      Pattern.matches_anyText.mpr ⟨quantity.css, by cases quantity <;> decide, rfl⟩
    have hunit : (Pattern.anyText ["px", "em", "rem", "vh", "vw", "vmin", "vmax", "dpi", "dpcm",
        "dppx"]).Matches amount.scale.css.toList :=
      Pattern.matches_anyText.mpr ⟨amount.scale.css, by cases amount.scale <;> decide, rfl⟩
    -- the same way, with the bound in front of the name and a unit behind the number
    have hside := Pattern.matches_append (Pattern.matches_append hopen hbound) (htext "-")
    have hname := Pattern.matches_append (Pattern.matches_append hside hquantity) hnone
    have hcolon := Pattern.matches_append (Pattern.matches_append hname (htext ":")) hspace
    have hnumber := Pattern.matches_append hcolon (matches_wordText amount.value)
    have hvalue := Pattern.matches_append (Pattern.matches_append hnumber hunit) hnone
    have hfeature := Pattern.matches_append hvalue (htext ")")
    have hmiddle : ": ".toList = ":".toList ++ [' '] := by decide
    refine Or.inl ?_
    simpa [Feature.css, Amount.css, hmiddle] using hfeature

/-- The text of a condition has the form that CSS asks for, as soon as there is a feature. -/
theorem isWellFormed_css {c : Condition} (h : c.features ≠ []) : isWellFormed c.css = true := by
  have hnone : blanks.Matches [] := matches_blanks (by simp)
  have hspace : blanks.Matches [' '] := matches_blanks (by decide)
  have hand : (blanks ++ Pattern.text "and" ++ blanks).Matches " and ".toList :=
    Pattern.matches_append
      (Pattern.matches_append hspace (Pattern.matches_text.mpr rfl)) hspace
  have hfeatures : ∀ t ∈ c.features.map fun f => f.css.toList, featurePattern.Matches t := by
    intro t ht
    obtain ⟨f, -, rfl⟩ := List.mem_map.mp ht
    exact matches_css f
  have hjoined := Pattern.matches_separated (by simpa using h) hand hfeatures
  have hpattern := Pattern.matches_append (Pattern.matches_append hnone hjoined) hnone
  rw [isWellFormed, Pattern.accepts_iff, pattern]
  simpa [css, String.toList_intercalate, List.map_map, Function.comp_def] using hpattern

end Condition

end ClassSheet.Media
