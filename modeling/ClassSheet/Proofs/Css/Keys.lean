import ClassSheet.Css.Value
import ClassSheet.Proofs.Css.Tables

/-! # Keys of words

A text stands for an entry of a table only if both have the same key (`Keyword.key_of_find?`). The
key of a text of lower-case letters and hyphens is the text without its hyphens
(`Keyword.key_of_forall`), so a word of a class name is its own key, and a border style or a colour
of the tables is the word that it is found by, but for its hyphens. No word of the tables has a key
that begins with `calc` (`Keyword.word?_eq_none_of_calc`). -/

namespace ClassSheet.Css

open ClassSheet.Text

/-! ### Letters -/

/-- The small letters by their numbers. -/
theorem isLower_iff {c : Char} : c.isLower = true ↔ 97 ≤ c.toNat ∧ c.toNat ≤ 122 := by
  show (decide (c.val ≥ 'a'.val) && decide (c.val ≤ 'z'.val)) = true ↔ _
  rw [Bool.and_eq_true_iff]
  exact and_congr decide_eq_true_iff decide_eq_true_iff

/-- A letter is no digit. -/
theorem isDigit_of_isLower {c : Char} (h : c.isLower = true) : c.isDigit = false := by
  have hnine : '9'.toNat = 57 := rfl
  rw [isLower_iff] at h
  rw [Bool.eq_false_iff, Ne, Char.isDigit_iff_toNat]
  omega

/-- A letter is no hyphen. -/
theorem bne_hyphen_of_isLower {c : Char} (h : c.isLower = true) : (c != '-') = true := by
  rw [bne_iff_ne]
  rintro rfl
  exact absurd h (by decide)

/-- A letter is no blank. -/
theorem isBlank_of_isLower {c : Char} (h : c.isLower = true) : isBlank c = false := by
  rw [isLower_iff] at h
  simp [isBlank]
  omega

/-- A lower-case letter stays as it is. -/
theorem lowerChar_of_isLower {c : Char} (h : c.isLower = true) : lowerChar c = [c] := by
  rw [isLower_iff] at h
  have hupper : ('A' ≤ c && c ≤ 'Z') = false := by
    rw [Bool.and_eq_false_iff, decide_eq_false_iff_not, decide_eq_false_iff_not]
    refine Or.inr fun hle => ?_
    have : c.toNat ≤ 90 := hle
    omega
  have hascii : asciiLower c = c := by
    rw [asciiLower, hupper]
    rfl
  rw [lowerChar, if_pos (by omega), hascii]

namespace Keyword

/-! ### Keys -/

/-- A text is found under the key of the entry. -/
theorem key_of_find? {entries : List String} {s e : String}
    (h : find? (indexed entries) s = some e) : key e = key s := by
  obtain ⟨front, back, hindex, -⟩ := List.lookup_eq_some_iff.mp h
  have hmem : (key s, e) ∈ indexed entries := by
    rw [hindex]
    simp
  obtain ⟨e', -, heq⟩ := List.mem_map.mp hmem
  obtain ⟨hkey, rfl⟩ := Prod.mk.inj heq
  exact hkey

/-- Of letters and hyphens, normalising drops the hyphens and keeps the letters. -/
theorem flatMap_lowerChar_of_forall {cs : List Char} (h : ∀ c ∈ cs, c.isLower = true ∨ c = '-') :
    (cs.filter fun c => c != '-' && !isBlank c).flatMap lowerChar = cs.filter (· != '-') := by
  induction cs with
  | nil => rfl
  | cons c cs ih =>
    obtain ⟨hc, hcs⟩ := List.forall_mem_cons.mp h
    rcases hc with hc | rfl
    · simp [bne_hyphen_of_isLower hc, isBlank_of_isLower hc, lowerChar_of_isLower hc, ih hcs]
    · simp [ih hcs]

/-- The key of a text of letters and hyphens is the text without its hyphens. -/
theorem key_of_forall {s : String} (h : ∀ c ∈ s.toList, c.isLower = true ∨ c = '-') :
    key s = String.ofList (s.toList.filter (· != '-')) := by
  rw [key, flatMap_lowerChar_of_forall h]

/-- A word of letters is its own key. -/
theorem key_ofList {w : List Char} (h : ∀ c ∈ w, c.isLower = true) :
    key (String.ofList w) = String.ofList w := by
  have hfilter : w.filter (· != '-') = w :=
    List.filter_eq_self.mpr fun c hc => bne_hyphen_of_isLower (h c hc)
  rw [key_of_forall (by simpa using fun c hc => Or.inl (h c hc)), String.toList_ofList, hfilter]

/-! ### Letters of the tables -/

/-- Whether a word is made of lower-case letters and hyphens. -/
def isLettered (cs : List Char) : Bool := cs.all fun c => c.isLower || c == '-'

/-- The test, as a statement about each character. -/
theorem forall_of_isLettered {cs : List Char} (h : isLettered cs = true) :
    ∀ c ∈ cs, c.isLower = true ∨ c = '-' := by
  intro c hc
  have := List.all_eq_true.mp h c hc
  simpa using this

/-- The border styles of the table are made of letters and hyphens. -/
theorem isLettered_of_mem_borderStyleWords :
    ∀ e ∈ borderStyleWords, isLettered e.toList = true := by
  -- entry by entry, each by its characters
  unfold borderStyleWords
  repeat refine forall_entry_cons (p := isLettered) rfl ?_
  exact fun _ h => nomatch h

/-- The colours of the table are made of letters and hyphens. -/
theorem isLettered_of_mem_colorWords : ∀ e ∈ colorWords, isLettered e.toList = true := by
  unfold colorWords
  repeat refine forall_entry_cons (p := isLettered) rfl ?_
  exact fun _ h => nomatch h

/-! ### Words that begin with `calc` -/

/-- Whether the key of a text begins otherwise than a calculation. -/
def isNoCalc (cs : List Char) : Bool :=
  !"calc".toList.isPrefixOf ((cs.filter fun c => c != '-' && !isBlank c).flatMap lowerChar)

/-- No word of the tables has a key that begins with `calc`. -/
theorem isNoCalc_of_mem_families : ∀ f ∈ families, ∀ w ∈ f.2, isNoCalc w.toList = true := by
  -- family by family, and in each entry by entry
  unfold families
  repeat' refine forall_family_cons (p := isNoCalc) ?_ ?_
  all_goals repeat refine forall_entry_cons (p := isNoCalc) rfl ?_
  all_goals exact fun _ h => nomatch h

/-- A text of letters that begins like a calculation is no keyword. -/
theorem word?_eq_none_of_calc {s : String} (h : ∀ c ∈ s.toList, c.isLower = true ∨ c = '-')
    (hcalc : "calc".toList.isPrefixOf s.toList = true) : word? s = none := by
  refine Option.eq_none_iff_forall_ne_some.mpr fun w hw => ?_
  obtain ⟨f, hf, hmem⟩ := List.mem_flatMap.mp (mem_of_find? hw)
  have hno := isNoCalc_of_mem_families f hf w hmem
  -- the entry has the key of the text, which keeps its first four letters
  have hkey : (w.toList.filter fun c => c != '-' && !isBlank c).flatMap lowerChar =
      s.toList.filter (· != '-') := by
    have := key_of_find? hw
    rw [key_of_forall h] at this
    exact String.ofList_injective this
  obtain ⟨rest, hrest⟩ := List.isPrefixOf_iff_prefix.mp hcalc
  have hfront : "calc".toList.filter (· != '-') = "calc".toList := by decide
  rw [isNoCalc, hkey, ← hrest, List.filter_append, hfront,
    List.isPrefixOf_iff_prefix.mpr (List.prefix_append _ _)] at hno
  cases hno

end Keyword

end ClassSheet.Css
