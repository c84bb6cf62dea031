import ClassSheet.Selector.Reach

/-! # Selectors and tags

A selector that relies on the generated class names the tag of the element only where its reach is
limited to elements of the same tag (`Reach.limitsTag`). So the class determines the selector but
for that tag (`Reach.selector_eq_of_tag_eq`), and where the tag is named, the text of the selector
tells it (`Reach.tag_eq_of_css_selector_eq`). -/

namespace ClassSheet

namespace Selector

variable {usesClass usesClass' : Bool} {pseudo : Option Pseudo}

/-- A selector of one part tells the part. -/
theorem css_singleton_inj {a a' : String} :
    css ⟨[a], usesClass⟩ pseudo = css ⟨[a'], usesClass'⟩ pseudo ↔ a = a' := by
  simp [css, String.append_left_inj]

/-- Behind the same first part, a selector tells its second one. -/
theorem css_pair_inj {a b b' : String} :
    css ⟨[a, b], usesClass⟩ pseudo = css ⟨[a, b'], usesClass'⟩ pseudo ↔ b = b' := by
  simp [css, String.append_left_inj, String.append_right_inj]

end Selector

/-- Two texts that give the same when they are repeated equally often, and at least once, are the
    same. -/
theorem eq_of_join_replicate_eq {n : Nat} (hn : n ≠ 0) {s s' : String}
    (h : String.join (List.replicate n s) = String.join (List.replicate n s')) : s = s' := by
  -- the texts are equally long, so their first copies end in the same place
  have hlengths := congrArg String.length h
  have htotal : n * s.length = n * s'.length := by simpa [String.length_join] using hlengths
  have hlength := Nat.eq_of_mul_eq_mul_left (Nat.pos_of_ne_zero hn) htotal
  obtain ⟨m, rfl⟩ := Nat.exists_eq_succ_of_ne_zero hn
  have hchars := congrArg String.toList h
  rw [List.replicate_succ, List.replicate_succ, String.join_cons, String.join_cons,
    String.toList_append, String.toList_append] at hchars
  exact String.toList_inj.mp (List.append_inj_left hchars hlength)

namespace Reach

/-! ### What a selector goes by -/

/-- Where a selector relies on the class, every part begins with it, and nothing or a space or a
    colon comes next. -/
theorem exists_behind_of_usesClass {reach : Reach} {o : Origin}
    (h : (reach.selector o).usesClass = true) :
    ∀ part ∈ (reach.selector o).parts, ∃ behind,
      part.toList = ("." ++ o.className).toList ++ behind ∧
        ∀ c ∈ behind.head?, c = ' ' ∨ c = ':' := by
  cases reach with
  | allOfType => cases h
  | allChildLikeThis =>
    rw [selector] at h ⊢
    split at h
    · cases h
    · simp [Selector.ofClass]
  | all | allWithin | allOfTypeWithin => simp [selector]
  | child ofType position => simp [selector]
  | children ofType except => cases except <;> simp [selector]
  | sibling ofType count =>
    -- without a step the class stands alone, and a step begins with a space
    cases hcount : count.toNat with
    | zero => simp [selector, hcount]
    | succ n => cases ofType <;> simp [selector, hcount, List.replicate_succ]
  | siblings ofType => simp [selector]
  | siblingsExcept position => simp [selector]

/-- Where it does not, the selector is the tag of the element, perhaps below that of its parent. -/
theorem selector_eq_of_not_usesClass {reach : Reach} {o : Origin}
    (h : (reach.selector o).usesClass = false) :
    reach.selector o = ⟨[o.tag], false⟩ ∨
      ∃ parent, o.parentTag = some parent ∧
        reach.selector o = ⟨[parent ++ " > " ++ o.tag], false⟩ := by
  cases reach with
  | allOfType => exact Or.inl rfl
  | allChildLikeThis =>
    rw [selector] at h ⊢
    split at h
    · next parent hparent => exact Or.inr ⟨parent, hparent, rfl⟩
    · cases h
  | children ofType except => cases except <;> cases h
  | _ => cases h

/-! ### The selector of a reach -/

/-- Whether a reach goes by the class and by the tag of the element besides. -/
def limitsTag : Reach → Bool
  | allOfTypeWithin => true
  | child ofType _ | children ofType _ | siblings ofType => ofType
  | sibling ofType count => ofType && count != 0
  | all | allOfType | allWithin | allChildLikeThis | siblingsExcept _ => false

/-- Two selectors of a reach that rely on the same class are the same if the tags are, and whatever
    the tags are if the reach does not go by them. -/
theorem selector_eq_of_tag_eq {reach : Reach} {o o' : Origin} (hclass : o.className = o'.className)
    (htag : o.tag = o'.tag ∨ reach.limitsTag = false) (huses : (reach.selector o).usesClass = true)
    (huses' : (reach.selector o').usesClass = true) : reach.selector o = reach.selector o' := by
  cases reach with
  | all | allWithin | siblingsExcept => simp [selector, hclass]
  | allOfType => simp [selector] at huses
  | allChildLikeThis =>
    -- with a parent, the selector would be made from tags alone
    cases hparent : o.parentTag with
    | some parent => simp [selector, hparent] at huses
    | none =>
      cases hparent' : o'.parentTag with
      | some parent => simp [selector, hparent'] at huses'
      | none => simp [selector, hparent, hparent', hclass]
  | allOfTypeWithin => simp [selector, hclass, htag.resolve_right (by simp [limitsTag])]
  -- from here on, a reach that goes by the tag gets the same one, and any other leaves it out
  | child ofType position =>
    rcases htag with htag | rfl
    · simp [selector, hclass, htag]
    · simp [selector, hclass]
  | children ofType except =>
    rcases htag with htag | rfl
    · cases except <;> simp [selector, hclass, htag]
    · cases except <;> simp [selector, hclass]
  | sibling ofType count =>
    rcases htag with htag | hlimits
    · simp [selector, hclass, htag]
    · rcases Bool.and_eq_false_iff.mp hlimits with rfl | hcount
      · simp [selector, hclass]
      · -- no step is taken, so there is no place for a tag
        obtain rfl : count = 0 := by simpa using hcount
        simp [selector, hclass]
  | siblings ofType =>
    rcases htag with htag | rfl
    · simp [selector, hclass, htag]
    · simp [selector, hclass]

/-- Where a reach goes by the class and the tag, the class and the text tell the tag. -/
theorem tag_eq_of_css_selector_eq {reach : Reach} {o o' : Origin} {pseudo : Option Pseudo}
    (hlimits : reach.limitsTag = true) (hclass : o.className = o'.className)
    (h : (reach.selector o).css pseudo = (reach.selector o').css pseudo) : o.tag = o'.tag := by
  cases reach with
  | all | allOfType | allWithin | allChildLikeThis | siblingsExcept => cases hlimits
  | allOfTypeWithin =>
    simpa [selector, hclass, Selector.css_singleton_inj, String.append_right_inj] using h
  | child ofType position =>
    obtain rfl : ofType = true := hlimits
    simpa [selector, hclass, Selector.css_singleton_inj, String.append_right_inj,
      String.append_left_inj] using h
  | children ofType except =>
    obtain rfl : ofType = true := hlimits
    cases except <;>
      simpa [selector, hclass, Selector.css_singleton_inj, String.append_right_inj,
        String.append_left_inj] using h
  | sibling ofType count =>
    -- the tag stands in every step, and there is at least one
    obtain ⟨rfl, hcount⟩ := Bool.and_eq_true_iff.mp hlimits
    have hsteps : String.join (List.replicate count.toNat (" + " ++ o.tag)) =
        String.join (List.replicate count.toNat (" + " ++ o'.tag)) := by
      simpa [selector, hclass, Selector.css_pair_inj, String.append_right_inj] using h
    have hne : count.toNat ≠ 0 := by
      rw [Ne, ← UInt32.toNat_zero, UInt32.toNat_inj]
      exact bne_iff_ne.mp hcount
    exact (String.append_right_inj " + ").mp (eq_of_join_replicate_eq hne hsteps)
  | siblings ofType =>
    obtain rfl : ofType = true := hlimits
    simpa [selector, hclass, Selector.css_pair_inj, String.append_right_inj] using h

/-! ### The selector of a token -/

/-- The same for the selector of a token: without a reach it is the class alone. -/
theorem exists_behind_selectorOfToken {token : Option String} {o : Origin}
    (h : (selectorOfToken token o).usesClass = true) :
    ∀ part ∈ (selectorOfToken token o).parts, ∃ behind,
      part.toList = ("." ++ o.className).toList ++ behind ∧
        ∀ c ∈ behind.head?, c = ' ' ∨ c = ':' := by
  unfold selectorOfToken at h ⊢
  split at h
  · exact exists_behind_of_usesClass h
  · simp [Selector.ofClass]

/-- Every part of the selector of a token begins with the class, where the selector relies on it. -/
theorem prefix_selectorOfToken {token : Option String} {o : Origin}
    (h : (selectorOfToken token o).usesClass = true) :
    ∀ part ∈ (selectorOfToken token o).parts, ("." ++ o.className).toList <+: part.toList := by
  intro part hpart
  obtain ⟨behind, hbehind, -⟩ := exists_behind_selectorOfToken h part hpart
  exact ⟨behind, hbehind.symm⟩

/-- Where it does not, the selector of a token is made from tags alone. -/
theorem selectorOfToken_eq_of_not_usesClass {token : Option String} {o : Origin}
    (h : (selectorOfToken token o).usesClass = false) :
    selectorOfToken token o = ⟨[o.tag], false⟩ ∨
      ∃ parent, o.parentTag = some parent ∧
        selectorOfToken token o = ⟨[parent ++ " > " ++ o.tag], false⟩ := by
  unfold selectorOfToken at h ⊢
  split at h
  · exact selector_eq_of_not_usesClass h
  · cases h

/-- Whether the selector of a token goes by the class and by the tag of the element besides. -/
def tokenLimitsTag (token : Option String) : Bool := (token.bind ofToken?).any limitsTag

/-- Two selectors of a token that rely on the same class have the same text exactly if the tags are
    the same or the token does not go by them. -/
theorem css_selectorOfToken_eq_iff {token : Option String} {o o' : Origin} {pseudo : Option Pseudo}
    (hclass : o.className = o'.className) (huses : (selectorOfToken token o).usesClass = true)
    (huses' : (selectorOfToken token o').usesClass = true) :
    (selectorOfToken token o).css pseudo = (selectorOfToken token o').css pseudo ↔
      o.tag = o'.tag ∨ tokenLimitsTag token = false := by
  unfold tokenLimitsTag
  unfold selectorOfToken at huses huses' ⊢
  cases hreach : token.bind ofToken? with
  | none => simp [hclass]
  | some reach =>
    simp only [hreach] at huses huses' ⊢
    rw [Option.any_some]
    constructor
    · intro h
      cases hlimits : reach.limitsTag with
      | false => exact Or.inr rfl
      | true => exact Or.inl (tag_eq_of_css_selector_eq hlimits hclass h)
    · intro htag
      rw [selector_eq_of_tag_eq hclass htag huses huses']

end Reach

end ClassSheet
