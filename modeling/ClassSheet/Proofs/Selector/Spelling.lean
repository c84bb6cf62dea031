import ClassSheet.Proofs.Css.Parts
import ClassSheet.Selector.Reach

/-! # Spelling of reaches

A reach token is a word, perhaps with flags, and a position or a count behind them
(`Reach.Spelling`). The pattern describes exactly these tokens
(`Reach.Spelling.accepts_tokenPattern_iff`). A spelling names a reach (`Reach.Spelling.Names`)
unless its number is too large (`Reach.Spelling.Exceeds`), and every reach within the bounds has a
spelling (`Reach.Spelling.exists_names_iff`). -/

namespace ClassSheet

open ClassSheet.Text
open ClassSheet.Css (Numeral)

/-! ### Positions -/

/-- A position as written. -/
inductive Place where
  | first
  | last
  | nth (n : Numeral)

namespace Place

/-- The text of a position. -/
def text : Place → List Char
  | first => "First".toList
  | last => "Last".toList
  | nth n => n.digits

/-- The position that is meant. Leading zeros do not count. -/
inductive Names : Place → Position → Prop
  | first : Names .first .first
  | last : Names .last .last
  | nth {n : Numeral} {k : UInt32} (value : decimalValue n.digits = k.toNat) :
    Names (.nth n) (.nth k)

/-- The number does not fit into 32 bits. -/
inductive Exceeds : Place → Prop
  | nth {n : Numeral} (h : UInt32.size ≤ decimalValue n.digits) : Exceeds (.nth n)

end Place

/-! ### Reaches -/

namespace Reach

/-- The text of a flag. -/
def flagText (flag : String) (b : Bool) : List Char := if b then flag.toList else []

/-- A reach as written. -/
inductive Spelling where
  | all (ofType within : Bool)
  | allChildLikeThis
  | child (ofType : Bool) (place : Option Place)
  | children (ofType : Bool) (except : Option Place)
  | sibling (plural ofType : Bool) (count : Option Numeral)
  | siblingsExcept (plural : Bool) (except : Place)

namespace Spelling

/-- The token of a spelling. -/
def text : Spelling → List Char
  | all ofType within => "All".toList ++ (flagText "OfType" ofType ++ flagText "Within" within)
  | allChildLikeThis => "All".toList ++ "ChildLikeThis".toList
  | child ofType place =>
    "Child".toList ++ (flagText "OfType" ofType ++ (place.map Place.text).getD [])
  | children ofType except =>
    "Children".toList ++
      (flagText "OfType" ofType ++ (except.map ("Not".toList ++ ·.text)).getD [])
  | sibling plural ofType count =>
    "Sibling".toList ++
      (flagText "s" plural ++ (flagText "OfType" ofType ++ (count.map Numeral.digits).getD []))
  | siblingsExcept plural except =>
    "Sibling".toList ++ (flagText "s" plural ++ ("Not".toList ++ except.text))

/-- The reach that is meant. Without a position the first child is meant, and without a count, or
    with a count of zero, the next sibling. A count behind `Siblings` counts as behind `Sibling`. -/
inductive Names : Spelling → Reach → Prop
  | all : Names (.all false false) .all
  | allOfType : Names (.all true false) .allOfType
  | allWithin : Names (.all false true) .allWithin
  | allOfTypeWithin : Names (.all true true) .allOfTypeWithin
  | allChildLikeThis : Names .allChildLikeThis .allChildLikeThis
  | firstChild (ofType : Bool) : Names (.child ofType none) (.child ofType .first)
  | child (ofType : Bool) {place : Place} {position : Position} (h : place.Names position) :
    Names (.child ofType (some place)) (.child ofType position)
  | children (ofType : Bool) : Names (.children ofType none) (.children ofType none)
  | childrenExcept (ofType : Bool) {place : Place} {position : Position}
    (h : place.Names position) :
    Names (.children ofType (some place)) (.children ofType (some position))
  | nextSibling (ofType : Bool) : Names (.sibling false ofType none) (.sibling ofType 1)
  | siblings (ofType : Bool) : Names (.sibling true ofType none) (.siblings ofType)
  | zeroth (plural ofType : Bool) {n : Numeral} (value : decimalValue n.digits = 0) :
    Names (.sibling plural ofType (some n)) (.sibling ofType 1)
  | sibling (plural ofType : Bool) {n : Numeral} {count : UInt32}
    (value : decimalValue n.digits = count.toNat) (positive : 1 ≤ count.toNat)
    (bound : count.toNat ≤ 64) : Names (.sibling plural ofType (some n)) (.sibling ofType count)
  | siblingsExcept (plural : Bool) {place : Place} {position : Position}
    (h : place.Names position) : Names (.siblingsExcept plural place) (.siblingsExcept position)

/-- A number of the token is too large: a position for 32 bits, or a count of siblings. -/
inductive Exceeds : Spelling → Prop
  | child (ofType : Bool) {place : Place} (h : place.Exceeds) : Exceeds (.child ofType (some place))
  | children (ofType : Bool) {place : Place} (h : place.Exceeds) :
    Exceeds (.children ofType (some place))
  | sibling (plural ofType : Bool) {n : Numeral} (h : 64 < decimalValue n.digits) :
    Exceeds (.sibling plural ofType (some n))
  | siblingsExcept (plural : Bool) {place : Place} (h : place.Exceeds) :
    Exceeds (.siblingsExcept plural place)

/-! ### The pattern -/

/-- A flag is there or not. -/
theorem matches_flag_iff {flag : String} {cs : List Char} :
    (Pattern.optional (Pattern.text flag)).Matches cs ↔ ∃ b, flagText flag b = cs := by
  constructor
  · rintro (h | rfl)
    · exact ⟨true, (Pattern.matches_text.mp h).symm⟩
    · exact ⟨false, rfl⟩
  · rintro ⟨b, rfl⟩
    cases b with
    | true => exact Or.inl (Pattern.matches_text.mpr rfl)
    | false => exact Or.inr rfl

/-- `positionPattern` describes exactly the texts of positions. -/
theorem matches_positionPattern_iff {cs : List Char} :
    positionPattern.Matches cs ↔ ∃ place : Place, place.text = cs := by
  constructor
  · rintro (h | h)
    · obtain ⟨word, hword, rfl⟩ := Pattern.matches_anyText.mp h
      simp only [List.mem_cons, List.not_mem_nil, or_false] at hword
      rcases hword with rfl | rfl
      · exact ⟨.first, rfl⟩
      · exact ⟨.last, rfl⟩
    · obtain ⟨n, rfl⟩ := Numeral.exists_of_matches h
      exact ⟨.nth n, rfl⟩
  · rintro ⟨place, rfl⟩
    cases place with
    | first => exact Or.inl (Pattern.matches_anyText.mpr ⟨"First", by simp, rfl⟩)
    | last => exact Or.inl (Pattern.matches_anyText.mpr ⟨"Last", by simp, rfl⟩)
    | nth n => exact Or.inr n.matches_digits

/-- What `tokenPattern` describes is the text of a spelling. -/
theorem exists_text_of_matches {cs : List Char} (h : tokenPattern.Matches cs) :
    ∃ s : Spelling, s.text = cs := by
  -- the four alternatives, by the word in front
  rcases h with ((h | h) | h) | h
  · -- `All`
    obtain ⟨_, _, rfl, hword, h | ⟨_, _, rfl, hofType, hwithin⟩⟩ := h
    · obtain rfl := Pattern.matches_text.mp hword
      obtain rfl := Pattern.matches_text.mp h
      exact ⟨.allChildLikeThis, rfl⟩
    · obtain rfl := Pattern.matches_text.mp hword
      obtain ⟨ofType, rfl⟩ := matches_flag_iff.mp hofType
      obtain ⟨within, rfl⟩ := matches_flag_iff.mp hwithin
      exact ⟨.all ofType within, rfl⟩
  · -- `Children`
    obtain ⟨_, _, rfl, ⟨_, _, rfl, hword, hofType⟩, hexcept⟩ := h
    obtain rfl := Pattern.matches_text.mp hword
    obtain ⟨ofType, rfl⟩ := matches_flag_iff.mp hofType
    rw [List.append_assoc]
    rcases hexcept with ⟨_, _, rfl, hnot, hplace⟩ | rfl
    · obtain rfl := Pattern.matches_text.mp hnot
      obtain ⟨place, rfl⟩ := matches_positionPattern_iff.mp hplace
      exact ⟨.children ofType (some place), rfl⟩
    · exact ⟨.children ofType none, rfl⟩
  · -- `Child`
    obtain ⟨_, _, rfl, ⟨_, _, rfl, hword, hofType⟩, hplace⟩ := h
    obtain rfl := Pattern.matches_text.mp hword
    obtain ⟨ofType, rfl⟩ := matches_flag_iff.mp hofType
    rw [List.append_assoc]
    rcases hplace with hplace | rfl
    · obtain ⟨place, rfl⟩ := matches_positionPattern_iff.mp hplace
      exact ⟨.child ofType (some place), rfl⟩
    · exact ⟨.child ofType none, rfl⟩
  · -- `Sibling`
    obtain ⟨_, _, rfl, ⟨_, _, rfl, hword, hplural⟩, hrest⟩ := h
    obtain rfl := Pattern.matches_text.mp hword
    obtain ⟨plural, rfl⟩ := matches_flag_iff.mp hplural
    rw [List.append_assoc]
    rcases hrest with ((⟨_, _, rfl, hnot, hplace⟩ | ⟨_, _, rfl, hofType, hcount⟩) | hcount) | rfl
    · obtain rfl := Pattern.matches_text.mp hnot
      obtain ⟨place, rfl⟩ := matches_positionPattern_iff.mp hplace
      exact ⟨.siblingsExcept plural place, rfl⟩
    · obtain rfl := Pattern.matches_text.mp hofType
      rcases hcount with hcount | rfl
      · obtain ⟨n, rfl⟩ := Numeral.exists_of_matches hcount
        exact ⟨.sibling plural true (some n), rfl⟩
      · exact ⟨.sibling plural true none, rfl⟩
    · obtain ⟨n, rfl⟩ := Numeral.exists_of_matches hcount
      exact ⟨.sibling plural false (some n), rfl⟩
    · exact ⟨.sibling plural false none, rfl⟩

/-- A flag may be there or not. -/
theorem matches_flag (flag : String) (b : Bool) :
    (Pattern.optional (Pattern.text flag)).Matches (flagText flag b) :=
  matches_flag_iff.mpr ⟨b, rfl⟩

/-- A word and a flag in front of what the pattern describes behind them. -/
theorem matches_word_flag {word flag : String} {b : Bool} {p : Pattern} {rest : List Char}
    (h : p.Matches rest) :
    (Pattern.text word ++ Pattern.optional (Pattern.text flag) ++ p).Matches
      (word.toList ++ (flagText flag b ++ rest)) := by
  rw [← List.append_assoc]
  exact Pattern.matches_append
    (Pattern.matches_append (Pattern.matches_text.mpr rfl) (matches_flag flag b)) h

/-- An exception is `Not` and a position. -/
theorem matches_not {place : Place} :
    (Pattern.text "Not" ++ positionPattern).Matches ("Not".toList ++ place.text) :=
  Pattern.matches_append (Pattern.matches_text.mpr rfl)
    (matches_positionPattern_iff.mpr ⟨place, rfl⟩)

/-! The alternatives of the pattern, each by the word that it begins with. -/

/-- Behind `All`: the word `ChildLikeThis`, or two flags. -/
theorem matches_all {rest : List Char}
    (h : (Pattern.text "ChildLikeThis" ||| Pattern.optional (Pattern.text "OfType") ++
      Pattern.optional (Pattern.text "Within")).Matches rest) :
    tokenPattern.Matches ("All".toList ++ rest) :=
  Or.inl (Or.inl (Or.inl (Pattern.matches_append (Pattern.matches_text.mpr rfl) h)))

/-- Behind `Children` and its flag: perhaps an exception. -/
theorem matches_children {ofType : Bool} {rest : List Char}
    (h : (Pattern.optional (Pattern.text "Not" ++ positionPattern)).Matches rest) :
    tokenPattern.Matches ("Children".toList ++ (flagText "OfType" ofType ++ rest)) :=
  Or.inl (Or.inl (Or.inr (matches_word_flag h)))

/-- Behind `Child` and its flag: perhaps a position. -/
theorem matches_child {ofType : Bool} {rest : List Char}
    (h : (Pattern.optional positionPattern).Matches rest) :
    tokenPattern.Matches ("Child".toList ++ (flagText "OfType" ofType ++ rest)) :=
  Or.inl (Or.inr (matches_word_flag h))

/-- What may stand behind `Sibling` or `Siblings`. -/
def siblingPattern : Pattern :=
  Pattern.text "Not" ++ positionPattern |||
    Pattern.text "OfType" ++ Pattern.optional Pattern.digits ||| Pattern.digits

/-- Behind `Sibling` and its plural: perhaps one of three endings. -/
theorem matches_sibling {plural : Bool} {rest : List Char}
    (h : (Pattern.optional siblingPattern).Matches rest) :
    tokenPattern.Matches ("Sibling".toList ++ (flagText "s" plural ++ rest)) :=
  Or.inr (matches_word_flag h)

/-- The first ending is an exception. -/
theorem siblingPattern_not (place : Place) :
    siblingPattern.Matches ("Not".toList ++ place.text) := Or.inl (Or.inl matches_not)

/-- The second one is the flag of a tag, and perhaps a count. -/
theorem siblingPattern_ofType {rest : List Char}
    (h : (Pattern.optional Pattern.digits).Matches rest) :
    siblingPattern.Matches ("OfType".toList ++ rest) :=
  Or.inl (Or.inr (Pattern.matches_append (Pattern.matches_text.mpr rfl) h))

/-- The third one is a count. -/
theorem siblingPattern_count (n : Numeral) : siblingPattern.Matches n.digits :=
  Or.inr n.matches_digits

/-- Every spelling has a token that the pattern describes. -/
theorem matches_tokenPattern (s : Spelling) : tokenPattern.Matches s.text := by
  -- what is optional is there or is empty
  cases s with
  | all ofType within =>
    have hofType := matches_flag "OfType" ofType
    have hwithin := matches_flag "Within" within
    exact matches_all (Or.inr (Pattern.matches_append hofType hwithin))
  | allChildLikeThis => exact matches_all (Or.inl (Pattern.matches_text.mpr rfl))
  | child ofType place =>
    refine matches_child ?_
    cases place with
    | none => exact Or.inr rfl
    | some place => exact Or.inl (matches_positionPattern_iff.mpr ⟨place, rfl⟩)
  | children ofType except =>
    refine matches_children ?_
    cases except with
    | none => exact Or.inr rfl
    | some place => exact Or.inl matches_not
  | sibling plural ofType count =>
    refine matches_sibling ?_
    cases ofType with
    | true =>
      refine Or.inl (siblingPattern_ofType ?_)
      cases count with
      | none => exact Or.inr rfl
      | some n => exact Or.inl n.matches_digits
    | false =>
      cases count with
      | none => exact Or.inr rfl
      | some n => exact Or.inl (siblingPattern_count n)
  | siblingsExcept plural except => exact matches_sibling (Or.inl (siblingPattern_not except))

/-- The pattern describes exactly the tokens of spellings. -/
theorem accepts_tokenPattern_iff {token : String} :
    tokenPattern.accepts token.toList = true ↔ ∃ s : Spelling, s.text = token.toList := by
  rw [Pattern.accepts_iff]
  constructor
  · exact exists_text_of_matches
  · rintro ⟨s, hs⟩
    rw [← hs]
    exact matches_tokenPattern s

/-! ### What has a spelling -/

/-- Every number of 32 bits is the value of some digits. -/
theorem exists_numeral (k : UInt32) : ∃ n : Numeral, decimalValue n.digits = k.toNat := by
  obtain ⟨hne, hdigit, hvalue⟩ := word?_eq_some_iff.mp (word?_wordText k)
  exact ⟨⟨_, hne, hdigit⟩, hvalue⟩

/-- Every position has a text that names it. -/
theorem exists_place (position : Position) : ∃ place : Place, place.Names position := by
  cases position with
  | first => exact ⟨.first, .first⟩
  | last => exact ⟨.last, .last⟩
  | nth k =>
    obtain ⟨n, hvalue⟩ := exists_numeral k
    exact ⟨.nth n, .nth hvalue⟩

/-- The counts of siblings that a spelling may name. -/
theorem exists_names_iff {r : Reach} :
    (∃ s : Spelling, s.Names r) ↔
      ∀ ofType count, r = .sibling ofType count → 1 ≤ count.toNat ∧ count.toNat ≤ 64 := by
  constructor
  · -- no spelling names a sibling outside the bounds
    rintro ⟨s, hs⟩ ofType count rfl
    cases hs with
    | nextSibling => decide
    | zeroth => decide
    | sibling _ _ _ hpos hle => exact ⟨hpos, hle⟩
  · -- reach by reach, with digits for its number
    intro h
    cases r with
    | all => exact ⟨_, .all⟩
    | allOfType => exact ⟨_, .allOfType⟩
    | allWithin => exact ⟨_, .allWithin⟩
    | allOfTypeWithin => exact ⟨_, .allOfTypeWithin⟩
    | allChildLikeThis => exact ⟨_, .allChildLikeThis⟩
    | child ofType position =>
      obtain ⟨place, hplace⟩ := exists_place position
      exact ⟨_, .child ofType hplace⟩
    | children ofType except =>
      cases except with
      | none => exact ⟨_, .children ofType⟩
      | some position =>
        obtain ⟨place, hplace⟩ := exists_place position
        exact ⟨_, .childrenExcept ofType hplace⟩
    | sibling ofType count =>
      obtain ⟨hpos, hle⟩ := h ofType count rfl
      obtain ⟨n, hvalue⟩ := exists_numeral count
      exact ⟨_, .sibling false ofType hvalue hpos hle⟩
    | siblings ofType => exact ⟨_, .siblings ofType⟩
    | siblingsExcept position =>
      obtain ⟨place, hplace⟩ := exists_place position
      exact ⟨_, .siblingsExcept false hplace⟩

end Spelling

end Reach

end ClassSheet
