import ClassSheet.Proofs.Dom.Attributes
import ClassSheet.Proofs.Dom.Classes
import ClassSheet.Proofs.Text.Pieces

/-! # The class attribute and the class list

An element keeps its classes twice: as the value of its `class` attribute and as a list of tokens.
Every edit of an element keeps the two in step (`Element.Built.inStep`): a list that is written
as a value is read back from it (`ClassList.ofValue_value`), because its tokens are words
(`words_intercalate`) and none comes twice. -/

namespace ClassSheet.Text

/-- A text in lower case has no capital. -/
theorem not_capital_of_asciiLowercase {s : String} (h : asciiLowercase s = s) :
    ∀ c ∈ s.toList, ¬('A' ≤ c ∧ c ≤ 'Z') := by
  have hkept : ∀ c ∈ s.toList, asciiLower c = c := by
    have hmap : s.toList.map asciiLower = s.toList.map id := by
      have htoList := congrArg String.toList h
      rw [asciiLowercase] at htoList
      simpa using htoList
    exact List.map_inj_left.mp hmap
  -- the capitals end with the character 90
  have hlow : ∀ n ≤ 90, asciiLower (Char.ofNat n) = Char.ofNat n →
      ¬('A' ≤ Char.ofNat n ∧ Char.ofNat n ≤ 'Z') := by decide +kernel
  intro c hc hcapital
  have hcode : c.toNat ≤ 90 := hcapital.2
  have hc' := hlow c.toNat hcode
  rw [Char.ofNat_toNat] at hc'
  exact hc' (hkept c hc) hcapital

end ClassSheet.Text

namespace ClassSheet.Dom

open ClassSheet.Text

/-! ### Class lists -/

namespace ClassList

/-- A text may be a token if it is not empty and has no blank. -/
theorem isToken_iff {s : String} :
    isToken s = true ↔ s ≠ "" ∧ ∀ c ∈ s.toList, isBlank c = false := by
  simp [isToken]

/-- A token that is not in a list is put at its end. -/
theorem add_of_isToken {l : ClassList} {token : String} (h : isToken token = true)
    (habsent : l.contains token = false) : l.add token = (true, ⟨l.tokens ++ [token]⟩) := by
  rw [add, h, habsent, Bool.not_false, Bool.and_self, if_pos rfl]

/-- A list of tokens, none of which comes twice. -/
structure IsProper (l : ClassList) : Prop where
  nodup : l.tokens.Nodup
  isToken : ∀ token ∈ l.tokens, isToken token = true

namespace IsProper

variable {l : ClassList} (h : l.IsProper)

/-- The empty list is proper. -/
theorem empty : IsProper .empty := ⟨List.nodup_nil, fun _ ht => nomatch ht⟩

include h

/-- Adding keeps a list proper: a token that is there is not added again. -/
theorem add (token : String) : (l.add token).2.IsProper := by
  unfold ClassList.add
  split
  · next hnew =>
    obtain ⟨htoken, habsent⟩ := Bool.and_eq_true_iff.mp hnew
    have hnot : token ∉ l.tokens := by
      simpa [contains] using habsent
    -- the token goes to the end: it is not in the list, and it is a proper token
    refine ⟨List.nodup_append.mpr ⟨h.nodup, List.nodup_singleton token, ?_⟩, ?_⟩
    · intro x hx y hy
      obtain rfl := List.mem_singleton.mp hy
      rintro rfl
      exact hnot hx
    · intro x hx
      rcases List.mem_append.mp hx with hx | hx
      · exact h.isToken x hx
      · obtain rfl := List.mem_singleton.mp hx
        exact htoken
  · exact h

/-- Adding several tokens keeps a list proper. -/
theorem addAll (tokens : List String) : (l.addAll tokens).IsProper := by
  induction tokens generalizing l with
  | nil => exact h
  | cons token tokens ih => exact ih (h.add token)

/-- Removing a token keeps a list proper. -/
theorem remove (token : String) : (l.remove token).2.IsProper :=
  ⟨h.nodup.filter _, fun x hx => h.isToken x (List.mem_of_mem_filter hx)⟩

end IsProper

/-- The words of any value make a proper list. -/
theorem isProper_ofValue (value : String) : (ofValue value).IsProper :=
  IsProper.empty.addAll (words value)

/-- New tokens are added as they are. -/
theorem addAll_eq {l : ClassList} {tokens : List String} (h : IsProper ⟨l.tokens ++ tokens⟩) :
    l.addAll tokens = ⟨l.tokens ++ tokens⟩ := by
  induction tokens generalizing l with
  | nil => simp [addAll]
  | cons token tokens ih =>
    -- the first one is not in the list, so it goes to its end, and the others follow
    have hadd : l.add token = (true, ⟨l.tokens ++ [token]⟩) := by
      have hmem : token ∈ l.tokens ++ token :: tokens :=
        List.mem_append_right _ List.mem_cons_self
      have hnot : token ∉ l.tokens := fun hl =>
        List.disjoint_of_nodup_append h.nodup hl List.mem_cons_self
      exact add_of_isToken (h.isToken token hmem) (by simpa [contains] using hnot)
    have hcons : l.addAll (token :: tokens) = (l.add token).2.addAll tokens := rfl
    rw [hcons, hadd, ih (by simpa using h)]
    simp

/-- A list is read back from its value. -/
theorem ofValue_value {l : ClassList} (h : l.IsProper) : ofValue l.value = l := by
  have hwords : words l.value = l.tokens :=
    words_intercalate fun w hw => isToken_iff.mp (h.isToken w hw)
  have hall : empty.addAll l.tokens = l := addAll_eq h
  rwa [← hwords] at hall

/-- A token is the only word of a `class` attribute with that value. -/
theorem ofValue_of_isToken {token : String} (h : isToken token = true) :
    ofValue token = ⟨[token]⟩ := by
  have hproper : IsProper ⟨[token]⟩ :=
    ⟨List.nodup_singleton token, List.forall_mem_singleton.mpr h⟩
  have hvalue : value ⟨[token]⟩ = token := by simp [value]
  have hread := ofValue_value hproper
  rwa [hvalue] at hread

end ClassList

namespace Element

/-! ### Names of attributes

An element has at most one attribute of a name, as setting one looks for the name first. -/

/-- Putting an attribute adds its name at the end, unless it is there already. -/
theorem map_name_putAttribute (name value : String) (as : List Attribute) :
    (putAttribute name value as).map (·.name) =
      if name ∈ as.map (·.name) then as.map (·.name) else as.map (·.name) ++ [name] := by
  induction as with
  | nil => rfl
  | cons a as ih =>
    rw [putAttribute]
    by_cases ha : a.name = name
    · simp [ha]
    · rw [if_neg (by simpa using ha), List.map_cons, ih, List.map_cons]
      by_cases hlater : name ∈ as.map (·.name)
      · rw [if_pos hlater, if_pos (List.mem_cons_of_mem _ hlater)]
      · rw [if_neg hlater, if_neg (List.not_mem_cons_of_ne_of_not_mem (Ne.symm ha) hlater),
          List.cons_append]

/-- Where the names were pairwise distinct, they stay so. -/
theorem nodup_putAttribute {as : List Attribute} (h : (as.map (·.name)).Nodup)
    (name value : String) : ((putAttribute name value as).map (·.name)).Nodup := by
  rw [map_name_putAttribute]
  split
  · exact h
  · next hnew => simpa using h.concat hnew

/-- The names of the attributes are pairwise distinct. -/
theorem Built.nodup_names {e : Element} (h : e.Built) : (e.attributes.map (·.name)).Nodup := by
  induction h with
  | ofTag tag => exact List.nodup_nil
  | setAttribute _ name value ih => exact nodup_putAttribute ih _ _
  | removeAttribute _ name ih =>
    unfold Element.removeAttribute
    split
    · exact ih
    · exact ih.sublist (List.eraseP_sublist.map _)
  | @addClass e _ token ih =>
    rcases e.addClass_eq_or token with heq | heq <;> rw [heq]
    · exact nodup_putAttribute ih _ _
    · exact ih
  | @removeClass e _ token ih =>
    rcases e.removeClass_eq_or token with heq | heq <;> rw [heq]
    · exact nodup_putAttribute ih _ _
    · exact ih

/-- Attributes without a second one of a name are told by their names and by what is found under
    them. -/
theorem attributes_eq_map {as : List Attribute} (h : (as.map (·.name)).Nodup) :
    as = (as.map (·.name)).map fun name =>
      ⟨name, ((as.find? (·.name == name)).map (·.value)).getD ""⟩ := by
  induction as with
  | nil => rfl
  | cons a as ih =>
    obtain ⟨hnot, has⟩ := List.nodup_cons.mp h
    rw [List.map_cons, List.map_cons, List.find?_cons_of_pos (by simp)]
    refine congrArg (a :: ·) ((ih has).trans ?_)
    -- the first one is not found under the name of another
    refine List.map_congr_left fun name hname => ?_
    have hne : a.name ≠ name := by
      rintro rfl
      exact hnot hname
    rw [List.find?_cons_of_neg (by simpa using hne)]

/-! ### Removing an attribute -/

/-- Removing an attribute leaves those of other names. -/
theorem attribute?_removeAttribute (e : Element) {name query : String} (h : query ≠ name) :
    (e.removeAttribute name).2.attribute? query = e.attribute? query := by
  have hfind (as : List Attribute) :
      (as.eraseP (·.name == name)).find? (·.name == query) = as.find? (·.name == query) := by
    induction as with
    | nil => rfl
    | cons a as ih =>
      by_cases ha : a.name = name
      · have hne : a.name ≠ query := fun hq => h (hq.symm.trans ha)
        rw [List.eraseP_cons_of_pos (by simpa using ha),
          List.find?_cons_of_neg (by simpa using hne)]
      · rw [List.eraseP_cons_of_neg (by simpa using ha), List.find?_cons, List.find?_cons, ih]
  unfold Element.removeAttribute
  split
  · rfl
  · rw [attribute?, hfind, attribute?]

/-- A removed attribute is gone, as there is no second one of its name. -/
theorem Built.attribute?_removeAttribute_self {e : Element} (h : e.Built) (name : String) :
    (e.removeAttribute name).2.attribute? name = none := by
  -- the removal stops at the first attribute of that name, and distinct names leave no second
  have hfind (as : List Attribute) (has : (as.map (·.name)).Nodup) :
      (as.eraseP (·.name == name)).find? (·.name == name) = none := by
    induction as with
    | nil => rfl
    | cons a as ih =>
      obtain ⟨hnot, has⟩ := List.nodup_cons.mp has
      by_cases ha : a.name = name
      · rw [List.eraseP_cons_of_pos (by simpa using ha), List.find?_eq_none]
        intro b hb hname
        have hsame : b.name = a.name := (beq_iff_eq.mp hname).trans ha.symm
        exact hnot (List.mem_map.mpr ⟨b, hb, hsame⟩)
      · rw [List.eraseP_cons_of_neg (by simpa using ha), List.find?_cons_of_neg (by simpa using ha),
          ih has]
  unfold Element.removeAttribute
  split
  · next hnone => exact hnone
  · rw [attribute?, hfind _ h.nodup_names, Option.map_none]

/-! ### Classes -/

/-- The class list of an element is proper. -/
theorem Built.isProper_classes {e : Element} (h : e.Built) : e.classes.IsProper := by
  -- by the ways in which an element is built: a set `class` is read anew, and a removed one leaves
  -- none
  induction h with
  | ofTag tag => exact .empty
  | setAttribute _ name value ih =>
    unfold Element.setAttribute
    dsimp only
    split
    · exact ClassList.isProper_ofValue value
    · exact ih
  | removeAttribute _ name ih =>
    unfold Element.removeAttribute
    split
    · exact ih
    · dsimp only
      split
      · exact .empty
      · exact ih
  | @addClass e _ token ih =>
    rcases e.addClass_eq_or token with heq | heq <;> rw [heq]
    · exact ih.add token
    · exact ih
  | @removeClass e _ token ih =>
    rcases e.removeClass_eq_or token with heq | heq <;> rw [heq]
    · exact ih.remove token
    · exact ih

/-- What the class list and the `class` attribute of an element have to do with each other: the
    list holds the words of the value. -/
def InStep (e : Element) : Prop := e.classes = .ofValue ((e.attribute? "class").getD "")

/-- Tag and attributes tell the element. -/
theorem InStep.eq_of_attributes_eq {e e' : Element} (h : e.InStep) (h' : e'.InStep)
    (htag : e.tag = e'.tag) (hattributes : e.attributes = e'.attributes) : e = e' := by
  have hclasses : e.classes = e'.classes := by
    rw [h, h', attribute?, attribute?, hattributes]
  obtain ⟨tag, attributes, classes⟩ := e
  obtain rfl : tag = e'.tag := htag
  obtain rfl : attributes = e'.attributes := hattributes
  obtain rfl : classes = e'.classes := hclasses
  rfl

/-- A class list that is put in place brings its attribute with it. -/
theorem inStep_withClasses (e : Element) {classes : ClassList} (h : classes.IsProper) :
    (e.withClasses classes).InStep := by
  have hvalue : (e.withClasses classes).attribute? "class" = some classes.value := by
    rw [attribute?, withClasses, find?_putAttribute, if_pos rfl]
  rw [InStep, hvalue, Option.getD_some, ClassList.ofValue_value h]
  rfl

/-- The class list of an element holds the words of its `class` attribute. -/
theorem Built.inStep {e : Element} (h : e.Built) : e.InStep := by
  -- by the same ways: the list and the attribute change together or not at all
  induction h with
  | ofTag tag =>
    show ClassList.empty = .ofValue ""
    decide +kernel
  | setAttribute _ name value ih =>
    rw [InStep, attribute?_setAttribute]
    by_cases hname : asciiLowercase name = "class"
    · simp [Element.setAttribute, hname]
    · simpa [InStep, Element.setAttribute, hname, Ne.symm hname] using ih
  | @removeAttribute e he name ih =>
    by_cases hname : name = "class"
    · -- without the attribute, the list is that of an empty value
      subst hname
      rw [InStep, he.attribute?_removeAttribute_self, Option.getD_none]
      unfold Element.removeAttribute
      split
      · next hnone => rw [ih, hnone, Option.getD_none]
      · rfl
    · rw [InStep, attribute?_removeAttribute e (Ne.symm hname)]
      unfold Element.removeAttribute
      split
      · exact ih
      · simpa [InStep, hname] using ih
  | @addClass e he token ih =>
    rcases e.addClass_eq_or token with heq | heq <;> rw [heq]
    · exact inStep_withClasses e (he.isProper_classes.add token)
    · exact ih
  | @removeClass e he token ih =>
    rcases e.removeClass_eq_or token with heq | heq <;> rw [heq]
    · exact inStep_withClasses e (he.isProper_classes.remove token)
    · exact ih

/-! ### What an element keeps to -/

/-- The names of attributes are told apart by case and are in lower case, the class list is one of
    tokens and holds the words of the `class` attribute. Only what concerns the classes changes
    them: other attributes leave both the list and the attribute, and an edit that reports no
    change makes none. -/
structure Consistent (e : Element) : Prop where
  nodup_names : (e.attributes.map (·.name)).Nodup
  not_capital : ∀ a ∈ e.attributes, ∀ c ∈ a.name.toList, ¬('A' ≤ c ∧ c ≤ 'Z')
  nodup_tokens : e.classes.tokens.Nodup
  isToken : ∀ token ∈ e.classes.tokens, token ≠ "" ∧ ∀ c ∈ token.toList, isBlank c = false
  classes_eq : e.classes = .ofValue ((e.attribute? "class").getD "")
  setAttribute_other : ∀ name value, asciiLowercase name ≠ "class" →
    (e.setAttribute name value).attribute? "class" = e.attribute? "class" ∧
      (e.setAttribute name value).classes = e.classes
  removeAttribute_other : ∀ name, asciiLowercase name ≠ "class" →
    (e.removeAttribute name).2.attribute? "class" = e.attribute? "class" ∧
      (e.removeAttribute name).2.classes = e.classes
  addClass_of_false : ∀ token, (e.addClass token).1 = false → (e.addClass token).2 = e
  removeClass_of_false : ∀ token, (e.removeClass token).1 = false → (e.removeClass token).2 = e

/-- Every element keeps to it, in whatever way its attributes and classes have been changed. -/
theorem Built.consistent {e : Element} (h : e.Built) : e.Consistent where
  nodup_names := h.nodup_names
  not_capital a ha := not_capital_of_asciiLowercase (h.asciiLowercase_name a ha)
  nodup_tokens := h.isProper_classes.nodup
  isToken token htoken := ClassList.isToken_iff.mp (h.isProper_classes.isToken token htoken)
  classes_eq := h.inStep
  setAttribute_other name value hname := by
    constructor
    · rw [attribute?_setAttribute, if_neg (Ne.symm hname)]
    · simp [Element.setAttribute, hname]
  removeAttribute_other name hname := by
    -- a name that is `class` itself would be so in lower case, too
    have hne : name ≠ "class" := by
      rintro rfl
      exact hname (by decide +kernel)
    refine ⟨attribute?_removeAttribute e (Ne.symm hne), ?_⟩
    unfold Element.removeAttribute
    split
    · rfl
    · simp [hne]
  addClass_of_false token hfalse := by
    rcases e.addClass_eq_or token with heq | heq <;> rw [heq] at hfalse ⊢
    cases hfalse
  removeClass_of_false token hfalse := by
    rcases e.removeClass_eq_or token with heq | heq <;> rw [heq] at hfalse ⊢
    cases hfalse

/-- Classes in a value with too many blanks, and one more class that is added to them. -/
theorem consistent_added :
    (((ofTag "P").setAttribute "CLASS" " a  b a").addClass "c").2.Consistent ∧
      (((ofTag "P").setAttribute "CLASS" " a  b a").addClass "c").2 =
        ⟨"p", [⟨"class", "a b c"⟩], ⟨["a", "b", "c"]⟩⟩ :=
  ⟨Built.consistent (.addClass (.setAttribute (.ofTag "P") "CLASS" " a  b a") "c"),
    by decide +kernel⟩

end Element
end ClassSheet.Dom
