import ClassSheet.Proofs.Selector.Spelling

/-! # Decoding of reach tokens

Each reach token is decoded as the reach that it names, and as nothing exactly if its number is too
large (`Reach.ofToken?_decodes`). The words and flags begin each other, so every reader along the
way is shown to pass on what is not its own. -/

namespace ClassSheet

open ClassSheet.Text
open ClassSheet.Css (Numeral)

/-! ### Numbers -/

/-- The digits are read as a number of 32 bits if that is their value. -/
theorem word?_digits_eq_some_iff {n : Numeral} {k : UInt32} :
    word? n.digits = some k ↔ decimalValue n.digits = k.toNat := by
  rw [word?_eq_some_iff]
  exact ⟨fun h => h.2.2, fun h => ⟨n.nonempty, n.isDigit, h⟩⟩

/-- They are read as nothing if their value does not fit into 32 bits. -/
theorem word?_digits_eq_none_iff {n : Numeral} :
    word? n.digits = none ↔ UInt32.size ≤ decimalValue n.digits := by
  constructor
  · -- a value that fits would have been read
    refine fun h => Nat.not_lt.mp fun hlt => ?_
    have hvalue : (UInt32.ofNat (decimalValue n.digits)).toNat = decimalValue n.digits :=
      UInt32.toNat_ofNat_of_lt hlt
    rw [word?_digits_eq_some_iff.mpr hvalue.symm] at h
    cases h
  · -- and what is read is the value, which fits
    refine fun hle => Option.eq_none_iff_forall_ne_some.mpr fun k hk => ?_
    have hvalue := word?_digits_eq_some_iff.mp hk
    have hlt := k.toNat_lt
    rw [UInt32.size] at hle
    omega

/-! ### Positions -/

namespace Place

/-- The first character of a position: no letter that goes on with a word of a reach. -/
theorem exists_head (place : Place) : ∃ c cs, place.text = c :: cs ∧
    (c = 'F' ∨ c = 'L' ∨ c.isDigit = true) := by
  cases place with
  | first => exact ⟨'F', "irst".toList, by decide, Or.inl rfl⟩
  | last => exact ⟨'L', "ast".toList, by decide, Or.inr (Or.inl rfl)⟩
  | nth n =>
    obtain ⟨c, cs, hdigits, hc⟩ := n.exists_cons
    exact ⟨c, cs, hdigits, Or.inr (Or.inr hc)⟩

/-- Digits are no word, so they are read as a number. -/
theorem ofChars?_digits (n : Numeral) :
    Position.ofChars? n.digits = (word? n.digits).map Position.nth := by
  have hfirst : n.digits ≠ "First".toList := n.digits_ne (by decide)
  have hlast : n.digits ≠ "Last".toList := n.digits_ne (by decide)
  rw [Position.ofChars?, if_neg hfirst, if_neg hlast]

/-- A position is read as the one that it names. -/
theorem ofChars?_eq_some_iff {place : Place} {position : Position} :
    Position.ofChars? place.text = some position ↔ place.Names position := by
  -- the two words are read as they stand, and digits by their value
  cases place with
  | first =>
    have hread : Position.ofChars? Place.first.text = some .first := if_pos rfl
    rw [hread, Option.some.injEq]
    constructor
    · rintro rfl
      exact .first
    · rintro ⟨⟩
      rfl
  | last =>
    have hread : Position.ofChars? Place.last.text = some .last :=
      (if_neg (by decide)).trans (if_pos rfl)
    rw [hread, Option.some.injEq]
    constructor
    · rintro rfl
      exact .last
    · rintro ⟨⟩
      rfl
  | nth n =>
    rw [text, ofChars?_digits, Option.map_eq_some_iff]
    constructor
    · rintro ⟨k, hk, rfl⟩
      exact .nth (word?_digits_eq_some_iff.mp hk)
    · intro h
      cases h with
      | nth hvalue => exact ⟨_, word?_digits_eq_some_iff.mpr hvalue, rfl⟩

/-- A position is read as nothing only if its number is too large. -/
theorem ofChars?_eq_none_iff {place : Place} :
    Position.ofChars? place.text = none ↔ place.Exceeds := by
  have hnames {position : Position} (h : place.Names position) :
      Position.ofChars? place.text ≠ none := by
    rw [ofChars?_eq_some_iff.mpr h]
    exact Option.some_ne_none _
  cases place with
  | first => exact ⟨fun h => absurd h (hnames .first), fun h => nomatch h⟩
  | last => exact ⟨fun h => absurd h (hnames .last), fun h => nomatch h⟩
  | nth n =>
    rw [text, ofChars?_digits, Option.map_eq_none_iff, word?_digits_eq_none_iff]
    exact ⟨.nth, fun ⟨h⟩ => h⟩

end Place

/-! ### Reading a spelling -/

/-- Behind a word stands what was put there. -/
theorem afterLead?_append (lead rest : List Char) : afterLead? lead (lead ++ rest) = some rest :=
  afterLead?_eq_some_iff.mpr rfl

/-- A text with another first character does not begin with the word. -/
theorem afterLead?_eq_none {lead : String} (l : Char) (hlead : lead.toList.head? = some l)
    {cs : List Char} (h : ∀ c ∈ cs.head?, c ≠ l) : afterLead? lead.toList cs = none := by
  obtain ⟨ls, hls⟩ := List.head?_eq_some_iff.mp hlead
  rw [hls]
  cases cs with
  | nil => rfl
  | cons c cs => simp [afterLead?, (h c rfl).symm]

namespace Reach

/-- A flag is taken off where it stands, as long as what follows does not begin like it. -/
theorem takeFlag_append {flag : String} {rest : List Char} (b : Bool)
    (h : afterLead? flag.toList rest = none) :
    takeFlag flag (flagText flag b ++ rest) = (b, rest) := by
  cases b with
  | true => rw [flagText, if_pos rfl, takeFlag, afterLead?_append]
  | false =>
    rw [flagText, if_neg (by decide), List.nil_append, takeFlag, h]

namespace Spelling

/-- The count of siblings that a number stands for. -/
def count? (n : Numeral) : Option UInt32 :=
  (word? n.digits).bind fun count =>
    if maxSiblingCount < count then none else some (if count = 0 then 1 else count)

/-- The reach that a spelling is read as, part by part. -/
def reach? : Spelling → Option Reach
  | all false false => some .all
  | all true false => some .allOfType
  | all false true => some .allWithin
  | all true true => some .allOfTypeWithin
  | allChildLikeThis => some .allChildLikeThis
  | child ofType none => some (.child ofType .first)
  | child ofType (some place) => (Position.ofChars? place.text).map (.child ofType)
  | children ofType none => some (.children ofType none)
  | children ofType (some except) =>
    (Position.ofChars? except.text).map fun p => .children ofType (some p)
  | sibling plural ofType none => some (if plural then .siblings ofType else .sibling ofType 1)
  | sibling _ ofType (some n) => (count? n).map (.sibling ofType)
  | siblingsExcept _ except => (Position.ofChars? except.text).map .siblingsExcept

/-! #### Behind each word -/

/-- The first letters of the flags, of `Not` and of the end of `Children`. -/
def openers : List Char := ['O', 'N', 's', 'r']

/-- A position, or nothing, begins with none of these. -/
theorem head_of_place (place : Option Place) :
    ∀ c ∈ ((place.map Place.text).getD []).head?, c ∉ openers := by
  intro c hc
  cases place with
  | none => cases hc
  | some place =>
    obtain ⟨d, ds, htext, hd⟩ := place.exists_head
    rw [Option.map_some, Option.getD_some, htext] at hc
    obtain rfl : d = c := Option.some.inj hc
    simp only [openers, List.mem_cons, List.not_mem_nil, or_false]
    rintro (rfl | rfl | rfl | rfl) <;> simp at hd

/-- With the flag of a tag in front, it may begin with the letter of the flag. -/
theorem head_of_flag (ofType : Bool) {rest : List Char} (h : ∀ c ∈ rest.head?, c ∉ openers) :
    ∀ c ∈ (flagText "OfType" ofType ++ rest).head?, c = 'O' ∨ c ∉ openers := by
  intro c hc
  cases ofType with
  | true => exact Or.inl (Option.some.inj hc).symm
  | false => exact Or.inr (h c hc)

/-- The flag of a tag does not begin behind it. -/
theorem afterLead?_ofType {cs : List Char} (h : ∀ c ∈ cs.head?, c ∉ openers) :
    afterLead? "OfType".toList cs = none := by
  refine afterLead?_eq_none 'O' (by decide) fun c hc => ?_
  rintro rfl
  exact h _ hc (by decide)

/-- No other word begins behind the flag of a tag. -/
theorem afterLead?_opener {word : String} (l : Char) (hword : word.toList.head? = some l)
    (hl : l ∈ openers ∧ l ≠ 'O') {cs : List Char} (h : ∀ c ∈ cs.head?, c = 'O' ∨ c ∉ openers) :
    afterLead? word.toList cs = none := by
  refine afterLead?_eq_none l hword fun c hc => ?_
  rintro rfl
  rcases h c hc with heq | hnot
  · exact hl.2 heq
  · exact hnot hl.1

/-- What stands behind `Child` is read as the child that it means. -/
theorem ofChild?_append (ofType : Bool) (place : Option Place) :
    ofChild? (flagText "OfType" ofType ++ (place.map Place.text).getD []) =
      (child ofType place).reach? := by
  rw [ofChild?, takeFlag_append ofType (afterLead?_ofType (head_of_place place))]
  cases place with
  | none => rfl
  | some place =>
    obtain ⟨c, cs, htext, -⟩ := place.exists_head
    have hne : place.text ≠ [] := by simp [htext]
    exact if_neg hne

/-- What stands behind `Children` is read as the children that it means. -/
theorem ofChildren?_append (ofType : Bool) (except : Option Place) :
    ofChildren? (flagText "OfType" ofType ++ (except.map ("Not".toList ++ ·.text)).getD []) =
      (children ofType except).reach? := by
  have hplain : afterLead? "OfType".toList
      ((except.map ("Not".toList ++ ·.text)).getD []) = none := by
    cases except with
    | none => rfl
    | some place => exact afterLead?_eq_none 'O' (by decide) (by simp)
  rw [ofChildren?, takeFlag_append ofType hplain]
  cases except with
  | none => rfl
  | some place =>
    dsimp only [Option.map_some, Option.getD_some]
    rw [afterLead?_append]
    rfl

/-- What stands behind `Sibling` is read as an exception if it begins with `Not`. -/
theorem ofSibling?_except (plural : Bool) (except : Place) :
    ofSibling? (flagText "s" plural ++ ("Not".toList ++ except.text)) =
      (siblingsExcept plural except).reach? := by
  have hplain : afterLead? "s".toList ("Not".toList ++ except.text) = none := rfl
  rw [ofSibling?, takeFlag_append plural hplain]
  dsimp only
  rw [afterLead?_append]
  rfl

/-- What stands behind `Sibling` otherwise is read as a count, or as none. -/
theorem ofSibling?_count (plural ofType : Bool) (count : Option Numeral) :
    ofSibling? (flagText "s" plural ++
        (flagText "OfType" ofType ++ (count.map Numeral.digits).getD [])) =
      (sibling plural ofType count).reach? := by
  -- neither a count nor its absence begins like one of the words
  have hdigits : ∀ c ∈ ((count.map Numeral.digits).getD []).head?, c ∉ openers := by
    cases count with
    | none => exact head_of_place none
    | some n => exact head_of_place (some (.nth n))
  have hrest := head_of_flag ofType hdigits
  -- the plural is taken off, then the flag of a tag, and no `Not` stands between
  rw [ofSibling?, takeFlag_append plural (afterLead?_opener 's' (by decide) (by decide) hrest)]
  dsimp only
  rw [afterLead?_opener 'N' (by decide) (by decide) hrest,
    takeFlag_append ofType (afterLead?_ofType hdigits)]
  dsimp only
  -- what is left is the count
  cases count with
  | none => rfl
  | some n =>
    rw [Option.map_some, Option.getD_some, if_neg n.nonempty, reach?, count?]
    cases word? n.digits with
    | none => rfl
    | some k =>
      rw [Option.bind_some]
      dsimp only
      split
      · rfl
      · rfl

/-! #### The words -/

/-- The words in the order in which the reader tries them. -/
def readWord? (cs : List Char) : Option Reach :=
  match afterLead? "All".toList cs with
  | some rest => ofAll? rest
  | none =>
    match afterLead? "Children".toList cs with
    | some rest => ofChildren? rest
    | none =>
      match afterLead? "Child".toList cs with
      | some rest => ofChild? rest
      | none => (afterLead? "Sibling".toList cs).bind ofSibling?

/-- A token of the pattern is read by its words. -/
theorem ofToken?_of_accepts {token : String} (h : tokenPattern.accepts token.toList = true) :
    ofToken? token = readWord? token.toList := if_pos h

/-- `All` is tried first. -/
theorem readWord?_all (rest : List Char) : readWord? ("All".toList ++ rest) = ofAll? rest := by
  rw [readWord?, afterLead?_append]

/-- `Children` is no `All`. -/
theorem readWord?_children (rest : List Char) :
    readWord? ("Children".toList ++ rest) = ofChildren? rest := by
  have hall : afterLead? "All".toList ("Children".toList ++ rest) = none := rfl
  rw [readWord?, hall]
  dsimp only
  rw [afterLead?_append]

/-- What follows `Child` may not go on as in `Children`. -/
theorem readWord?_child {rest : List Char} (h : ∀ c ∈ rest.head?, c = 'O' ∨ c ∉ openers) :
    readWord? ("Child".toList ++ rest) = ofChild? rest := by
  have hall : afterLead? "All".toList ("Child".toList ++ rest) = none := rfl
  have hchildren : afterLead? "Children".toList ("Child".toList ++ rest) = none := by
    have hnone : afterLead? "ren".toList rest = none :=
      afterLead?_opener 'r' (by decide) (by decide) h
    exact hnone
  rw [readWord?, hall]
  dsimp only
  rw [hchildren]
  dsimp only
  rw [afterLead?_append]

/-- `Sibling` is tried last, and begins with no other word. -/
theorem readWord?_sibling (rest : List Char) :
    readWord? ("Sibling".toList ++ rest) = ofSibling? rest := by
  have hall : afterLead? "All".toList ("Sibling".toList ++ rest) = none := rfl
  have hchildren : afterLead? "Children".toList ("Sibling".toList ++ rest) = none := rfl
  have hchild : afterLead? "Child".toList ("Sibling".toList ++ rest) = none := rfl
  rw [readWord?, hall]
  dsimp only
  rw [hchildren]
  dsimp only
  rw [hchild]
  dsimp only
  rw [afterLead?_append, Option.bind_some]

/-- A spelling is read part by part. -/
theorem readWord?_text (s : Spelling) : readWord? s.text = s.reach? := by
  -- by the word at the front: its reader takes it off and goes on with the flags behind it
  cases s with
  | all ofType within =>
    refine (readWord?_all _).trans ?_
    cases ofType <;> cases within <;> decide +kernel
  | allChildLikeThis =>
    refine (readWord?_all _).trans ?_
    decide +kernel
  | child ofType place =>
    exact (readWord?_child (head_of_flag ofType (head_of_place place))).trans
      (ofChild?_append ofType place)
  | children ofType except =>
    exact (readWord?_children _).trans (ofChildren?_append ofType except)
  | sibling plural ofType count =>
    exact (readWord?_sibling _).trans (ofSibling?_count plural ofType count)
  | siblingsExcept plural except =>
    exact (readWord?_sibling _).trans (ofSibling?_except plural except)

/-! #### What a spelling names -/

/-- A count is read as its value, and a count of zero as one. -/
theorem count?_eq_some_iff {n : Numeral} {count : UInt32} :
    count? n = some count ↔ decimalValue n.digits = 0 ∧ count = 1 ∨
      decimalValue n.digits = count.toNat ∧ 1 ≤ count.toNat ∧ count.toNat ≤ 64 := by
  have hmax : maxSiblingCount.toNat = 64 := rfl
  rw [count?, Option.bind_eq_some_iff]
  constructor
  · rintro ⟨k, hk, hcount⟩
    have hvalue := word?_digits_eq_some_iff.mp hk
    obtain ⟨hle, hcount⟩ := Option.ite_none_left_eq_some.mp hcount
    rw [UInt32.lt_iff_toNat_lt, hmax] at hle
    obtain rfl := Option.some.inj hcount
    -- read: within the bound, and zero counts as one
    by_cases hzero : k = 0
    · subst hzero
      exact Or.inl ⟨hvalue, if_pos rfl⟩
    · have hne : k.toNat ≠ 0 := fun h => hzero (UInt32.toNat_inj.mp h)
      rw [if_neg hzero]
      exact Or.inr ⟨hvalue, by omega, by omega⟩
  · rintro (⟨hvalue, rfl⟩ | ⟨hvalue, hpos, hle⟩)
    · -- conversely, zero is read as one
      exact ⟨0, word?_digits_eq_some_iff.mpr hvalue, rfl⟩
    · -- and any other count within the bound as itself
      have hne : count ≠ 0 := by
        rintro rfl
        exact absurd hpos (by decide)
      have hmost : ¬ maxSiblingCount < count := by
        rw [UInt32.lt_iff_toNat_lt, hmax]
        omega
      refine ⟨count, word?_digits_eq_some_iff.mpr hvalue, ?_⟩
      rw [if_neg hmost, if_neg hne]

/-- A count is read as nothing only beyond 64. -/
theorem count?_eq_none_iff {n : Numeral} : count? n = none ↔ 64 < decimalValue n.digits := by
  have hmax : maxSiblingCount.toNat = 64 := rfl
  rw [count?]
  cases hk : word? n.digits with
  | none =>
    -- a number beyond 32 bits is beyond 64
    have hlarge := word?_digits_eq_none_iff.mp hk
    rw [UInt32.size] at hlarge
    exact ⟨fun _ => by omega, fun _ => rfl⟩
  | some k =>
    rw [Option.bind_some, word?_digits_eq_some_iff.mp hk]
    by_cases hlt : maxSiblingCount < k
    · rw [if_pos hlt]
      rw [UInt32.lt_iff_toNat_lt, hmax] at hlt
      exact ⟨fun _ => hlt, fun _ => rfl⟩
    · rw [if_neg hlt]
      rw [UInt32.lt_iff_toNat_lt, hmax] at hlt
      exact ⟨fun h => absurd h (Option.some_ne_none _), fun h => absurd h hlt⟩

/-- A reach with a position is read as the one with the position that is named. -/
theorem map_ofChars?_eq_some_iff {place : Place} {f : Position → Reach} {r : Reach} :
    (Position.ofChars? place.text).map f = some r ↔ ∃ p, place.Names p ∧ f p = r := by
  rw [Option.map_eq_some_iff]
  exact exists_congr fun p => and_congr_left' Place.ofChars?_eq_some_iff

/-- A spelling is read as the reach that it names. -/
theorem reach?_eq_some_iff {s : Spelling} {r : Reach} : s.reach? = some r ↔ s.Names r := by
  constructor
  · -- from the reading to the name, by the parts of the spelling
    intro h
    cases s with
    | all ofType within =>
      cases ofType <;> cases within <;> cases h
      · exact .all
      · exact .allWithin
      · exact .allOfType
      · exact .allOfTypeWithin
    | allChildLikeThis => cases h; exact .allChildLikeThis
    | child ofType place =>
      cases place with
      | none => cases h; exact .firstChild ofType
      | some place =>
        obtain ⟨p, hp, rfl⟩ := map_ofChars?_eq_some_iff.mp h
        exact .child ofType hp
    | children ofType except =>
      cases except with
      | none => cases h; exact .children ofType
      | some place =>
        obtain ⟨p, hp, rfl⟩ := map_ofChars?_eq_some_iff.mp h
        exact .childrenExcept ofType hp
    | sibling plural ofType count =>
      cases count with
      | none =>
        cases plural with
        | true => cases h; exact .siblings ofType
        | false => cases h; exact .nextSibling ofType
      | some n =>
        obtain ⟨count, hcount, rfl⟩ := Option.map_eq_some_iff.mp h
        rcases count?_eq_some_iff.mp hcount with ⟨hvalue, rfl⟩ | ⟨hvalue, hpos, hle⟩
        · exact .zeroth plural ofType hvalue
        · exact .sibling plural ofType hvalue hpos hle
    | siblingsExcept plural except =>
      obtain ⟨p, hp, rfl⟩ := map_ofChars?_eq_some_iff.mp h
      exact .siblingsExcept plural hp
  · -- and back, by the ways in which a spelling names a reach
    intro h
    cases h with
    | all | allOfType | allWithin | allOfTypeWithin | allChildLikeThis => rfl
    | firstChild | children | nextSibling | siblings => rfl
    | child ofType hp => exact map_ofChars?_eq_some_iff.mpr ⟨_, hp, rfl⟩
    | childrenExcept ofType hp => exact map_ofChars?_eq_some_iff.mpr ⟨_, hp, rfl⟩
    | siblingsExcept plural hp => exact map_ofChars?_eq_some_iff.mpr ⟨_, hp, rfl⟩
    | zeroth plural ofType hvalue =>
      exact Option.map_eq_some_iff.mpr ⟨1, count?_eq_some_iff.mpr (Or.inl ⟨hvalue, rfl⟩), rfl⟩
    | sibling plural ofType hvalue hpos hle =>
      exact Option.map_eq_some_iff.mpr
        ⟨_, count?_eq_some_iff.mpr (Or.inr ⟨hvalue, hpos, hle⟩), rfl⟩

/-- A spelling is read as nothing only if its number is too large. -/
theorem reach?_eq_none_iff {s : Spelling} : s.reach? = none ↔ s.Exceeds := by
  constructor
  · -- only a position or a count can fail to be read
    intro h
    cases s with
    | all ofType within => cases ofType <;> cases within <;> cases h
    | allChildLikeThis => cases h
    | child ofType place =>
      cases place with
      | none => cases h
      | some place =>
        exact .child ofType (Place.ofChars?_eq_none_iff.mp (Option.map_eq_none_iff.mp h))
    | children ofType except =>
      cases except with
      | none => cases h
      | some place =>
        exact .children ofType (Place.ofChars?_eq_none_iff.mp (Option.map_eq_none_iff.mp h))
    | sibling plural ofType count =>
      cases count with
      | none => cases h
      | some n => exact .sibling plural ofType (count?_eq_none_iff.mp (Option.map_eq_none_iff.mp h))
    | siblingsExcept plural except =>
      exact .siblingsExcept plural (Place.ofChars?_eq_none_iff.mp (Option.map_eq_none_iff.mp h))
  · -- and each of them fails where its number is too large
    intro h
    cases h with
    | child _ h => exact Option.map_eq_none_iff.mpr (Place.ofChars?_eq_none_iff.mpr h)
    | children _ h => exact Option.map_eq_none_iff.mpr (Place.ofChars?_eq_none_iff.mpr h)
    | siblingsExcept _ h => exact Option.map_eq_none_iff.mpr (Place.ofChars?_eq_none_iff.mpr h)
    | sibling _ _ h => exact Option.map_eq_none_iff.mpr (count?_eq_none_iff.mpr h)

/-- The token of a spelling is read part by part. -/
theorem ofToken?_text {s : Spelling} {token : String} (h : s.text = token.toList) :
    ofToken? token = s.reach? := by
  rw [ofToken?_of_accepts (accepts_tokenPattern_iff.mpr ⟨s, h⟩), ← h, readWord?_text]

end Spelling

/-- A token of no spelling stands for nothing. One with a spelling stands for the reach that is
    named, and for nothing exactly if its number is too large. The reaches that tokens stand for are
    all but those of a sibling at no distance or farther away than 64. -/
theorem ofToken?_decodes :
    (∀ token : String, tokenPattern.accepts token.toList = true ↔
      ∃ s : Spelling, s.text = token.toList) ∧
    (∀ token : String, tokenPattern.accepts token.toList = false → ofToken? token = none) ∧
    (∀ (token : String) (s : Spelling), s.text = token.toList →
      (ofToken? token = none ↔ s.Exceeds) ∧ ∀ r, ofToken? token = some r ↔ s.Names r) ∧
    ∀ r : Reach, (∃ token, ofToken? token = some r) ↔
      ∀ ofType count, r = .sibling ofType count → 1 ≤ count.toNat ∧ count.toNat ≤ 64 := by
  refine ⟨fun token => Spelling.accepts_tokenPattern_iff, fun token hnot => ?_,
    fun token s hs => ?_, fun r => ?_⟩
  · -- a token of no spelling is not even tried
    rw [ofToken?, if_neg (by simp [hnot])]
  · -- a token with a spelling is read as the spelling is
    rw [Spelling.ofToken?_text hs]
    exact ⟨Spelling.reach?_eq_none_iff, fun r => Spelling.reach?_eq_some_iff⟩
  · -- the reaches that tokens stand for are those that spellings name
    rw [← Spelling.exists_names_iff]
    constructor
    · rintro ⟨token, htoken⟩
      have haccepts : tokenPattern.accepts token.toList = true := by
        by_cases h : tokenPattern.accepts token.toList = true
        · exact h
        · rw [ofToken?, if_neg h] at htoken
          cases htoken
      obtain ⟨s, hs⟩ := Spelling.accepts_tokenPattern_iff.mp haccepts
      rw [Spelling.ofToken?_text hs] at htoken
      exact ⟨s, Spelling.reach?_eq_some_iff.mp htoken⟩
    · rintro ⟨s, hs⟩
      refine ⟨String.ofList s.text, ?_⟩
      rw [Spelling.ofToken?_text String.toList_ofList.symm]
      exact Spelling.reach?_eq_some_iff.mpr hs

/-- Seven with leading zeros. -/
def sampleSeven : Numeral := ⟨['0', '0', '7'], by decide, by decide⟩

/-- A count behind `Siblings` counts as behind `Sibling`, and leading zeros do not count. -/
theorem ofToken?_decodes_sampleSeven :
    (Spelling.sibling true false (some sampleSeven)).text = "Siblings007".toList ∧
      ofToken? "Siblings007" = some (.sibling false 7) := by
  have htext : (Spelling.sibling true false (some sampleSeven)).text = "Siblings007".toList := by
    decide +kernel
  have hnames : (Spelling.sibling true false (some sampleSeven)).Names (.sibling false 7) :=
    .sibling true false (by decide) (by decide) (by decide)
  exact ⟨htext, ((ofToken?_decodes.2.2.1 "Siblings007" _ htext).2 _).mpr hnames⟩

end Reach

end ClassSheet
