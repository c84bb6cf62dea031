import ClassSheet.Pattern.Basic

/-! # Deciding a pattern is right

The derivative of a pattern describes what may follow a character, so `accepts` decides `Matches`
(`accepts_iff`). The lemmas before it say what each pattern describes in terms of its parts. -/

namespace ClassSheet.Pattern

/-! ### What a pattern describes -/

/-- A sequence describes the texts that fall into one of each pattern. -/
theorem matches_seq {p q : Pattern} {s : List Char} :
    (seq p q).Matches s ↔ ∃ a b, s = a ++ b ∧ p.Matches a ∧ q.Matches b := Iff.rfl

/-- An alternative describes what either pattern does. -/
theorem matches_alt {p q : Pattern} {s : List Char} :
    (alt p q).Matches s ↔ p.Matches s ∨ q.Matches s := Iff.rfl

/-- A test describes the single characters that it accepts. -/
theorem matches_one {test : Char → Bool} {s : List Char} :
    (one test).Matches s ↔ ∃ c, test c = true ∧ s = [c] := Iff.rfl

/-- An optional pattern describes the empty text as well. -/
theorem matches_optional {p : Pattern} {s : List Char} :
    (optional p).Matches s ↔ p.Matches s ∨ s = [] := Iff.rfl

/-- Repetition is nothing, or one text of the pattern and a repetition after it. -/
theorem matches_many_nil (p : Pattern) : (many p).Matches [] := ⟨[], by simp⟩

/-- A text of the pattern in front of a repetition makes a longer one. -/
theorem matches_many_append {p : Pattern} {a b : List Char} (ha : p.Matches a)
    (hb : (many p).Matches b) : (many p).Matches (a ++ b) := by
  obtain ⟨parts, rfl, h⟩ := hb
  refine ⟨a :: parts, by simp, fun t ht => ?_⟩
  rcases List.mem_cons.mp ht with rfl | ht
  · exact ha
  · exact h t ht

/-- A repetition that begins with `c` begins with a text of the pattern that does. -/
theorem matches_many_cons {p : Pattern} {c : Char} {s : List Char} :
    (many p).Matches (c :: s) ↔ ∃ a b, s = a ++ b ∧ p.Matches (c :: a) ∧ (many p).Matches b := by
  constructor
  · rintro ⟨parts, hs, hp⟩
    -- the texts of the repetition in front of the first one that is not empty are passed over
    induction parts with
    | nil => simp at hs
    | cons t ts ih =>
      cases t with
      | nil => exact ih (by simpa using hs) fun t ht => hp t (List.mem_cons_of_mem _ ht)
      | cons d t =>
        simp only [List.flatten_cons, List.cons_append, List.cons.injEq] at hs
        obtain ⟨rfl, rfl⟩ := hs
        exact ⟨t, ts.flatten, rfl, hp _ List.mem_cons_self, ts, rfl,
          fun t ht => hp t (List.mem_cons_of_mem _ ht)⟩
  · rintro ⟨a, b, rfl, ha, hb⟩
    exact matches_many_append ha hb

/-- The text of a literal pattern is the only one it describes. -/
theorem matches_text {t : String} {s : List Char} : (text t).Matches s ↔ s = t.toList := by
  unfold text
  induction t.toList generalizing s with
  | nil => exact Iff.rfl
  | cons c cs ih =>
    simp only [List.foldr_cons, matches_seq, matches_one, ih]
    constructor
    · rintro ⟨a, b, rfl, ⟨d, hd, rfl⟩, rfl⟩
      simp [eq_of_beq hd]
    · rintro rfl
      exact ⟨[c], cs, rfl, ⟨c, by simp, rfl⟩, rfl⟩

/-- One of several patterns. -/
theorem matches_oneOf {ps : List Pattern} {s : List Char} :
    (oneOf ps).Matches s ↔ ∃ p ∈ ps, p.Matches s := by
  induction ps with
  | nil => simp [oneOf, Matches]
  | cons p ps ih =>
    have : (oneOf (p :: ps)).Matches s ↔ p.Matches s ∨ (oneOf ps).Matches s := Iff.rfl
    simp [this, ih]

/-- One of several fixed texts. -/
theorem matches_anyText {ts : List String} {s : List Char} :
    (anyText ts).Matches s ↔ ∃ t ∈ ts, s = t.toList := by
  simp only [anyText, matches_oneOf, List.mem_map]
  constructor
  · rintro ⟨p, ⟨t, ht, rfl⟩, hp⟩
    exact ⟨t, ht, matches_text.mp hp⟩
  · rintro ⟨t, ht, hs⟩
    exact ⟨text t, ⟨t, ht, rfl⟩, matches_text.mpr hs⟩

/-! ### Deciding -/

/-- Only empty texts join to the empty one. -/
theorem matches_seq_nil {p q : Pattern} :
    (seq p q).Matches [] ↔ p.Matches [] ∧ q.Matches [] := by
  constructor
  · rintro ⟨a, b, hs, ha, hb⟩
    obtain ⟨rfl, rfl⟩ := List.append_eq_nil_iff.mp hs.symm
    exact ⟨ha, hb⟩
  · rintro ⟨hp, hq⟩
    exact ⟨[], [], rfl, hp, hq⟩

/-- The empty text in front adds nothing. -/
theorem matches_empty_seq {q : Pattern} {s : List Char} :
    (seq empty q).Matches s ↔ q.Matches s := by
  constructor
  · rintro ⟨a, b, rfl, rfl, hb⟩
    exact hb
  · exact fun h => ⟨[], s, rfl, rfl, h⟩

/-- The empty text behind a pattern changes nothing. -/
theorem matches_seq_empty {p : Pattern} {s : List Char} :
    (seq p empty).Matches s ↔ p.Matches s := by
  constructor
  · rintro ⟨a, b, rfl, ha, rfl⟩
    rwa [List.append_nil]
  · exact fun h => ⟨s, [], (List.append_nil s).symm, h, rfl⟩

/-- `nullable` decides whether a pattern describes the empty text. -/
theorem nullable_iff (p : Pattern) : p.nullable = true ↔ p.Matches [] := by
  induction p with
  | never => simp [nullable, Matches]
  | empty => simp [nullable, Matches]
  | one test => simp [nullable, Matches]
  | seq p q hp hq => simp [nullable, hp, hq, matches_seq_nil]
  | alt p q hp hq => simp [nullable, hp, hq, matches_alt]
  | many p => simp [nullable, matches_many_nil]

/-- `join` describes the same as a sequence, in a smaller pattern where a part is trivial. -/
theorem matches_join {p q : Pattern} {s : List Char} :
    (join p q).Matches s ↔ (seq p q).Matches s := by
  unfold join
  split
  · simp [Matches]
  · simp [Matches]
  · exact matches_empty_seq.symm
  · exact matches_seq_empty.symm
  · exact Iff.rfl

/-- `either` describes the same as an alternative. -/
theorem matches_either {p q : Pattern} {s : List Char} :
    (either p q).Matches s ↔ (alt p q).Matches s := by
  unfold either
  split <;> simp [Matches]

/-- A text of `seq p q` that begins with `c` takes `c` from `p`, or from `q` if `p` describes the
    empty text. -/
theorem matches_seq_cons {p q : Pattern} {c : Char} {s : List Char} :
    (seq p q).Matches (c :: s) ↔
      (∃ a b, s = a ++ b ∧ p.Matches (c :: a) ∧ q.Matches b) ∨
        p.Matches [] ∧ q.Matches (c :: s) := by
  constructor
  · rintro ⟨a, b, hs, ha, hb⟩
    cases a with
    | nil =>
      rw [List.nil_append] at hs
      exact Or.inr ⟨ha, hs ▸ hb⟩
    | cons d a =>
      rw [List.cons_append, List.cons.injEq] at hs
      obtain ⟨rfl, rfl⟩ := hs
      exact Or.inl ⟨a, b, rfl, ha, hb⟩
  · rintro (⟨a, b, rfl, ha, hb⟩ | ⟨hp, hq⟩)
    · exact ⟨c :: a, b, rfl, ha, hb⟩
    · exact ⟨[], c :: s, rfl, hp, hq⟩

/-- The derivative by `c` describes what follows a leading `c`. -/
theorem matches_deriv {p : Pattern} {c : Char} {s : List Char} :
    (p.deriv c).Matches s ↔ p.Matches (c :: s) := by
  -- by induction on the pattern, for all texts: a sequence hands the rest on to its parts
  induction p generalizing s with
  | never => exact Iff.rfl
  | empty => simp [deriv, Matches]
  | one test =>
    by_cases h : test c = true
    · simp only [deriv, h, if_true, matches_one, List.cons.injEq]
      exact ⟨fun hs => ⟨c, h, rfl, hs⟩, fun ⟨_, _, _, hs⟩ => hs⟩
    · simp only [deriv, h, matches_one, List.cons.injEq]
      exact ⟨False.elim, fun ⟨d, hd, hc, _⟩ => h (hc ▸ hd)⟩
  | seq p q hp hq =>
    have hjoin : (join (p.deriv c) q).Matches s ↔
        ∃ a b, s = a ++ b ∧ p.Matches (c :: a) ∧ q.Matches b := by
      simp only [matches_join, matches_seq, hp]
    rw [matches_seq_cons, deriv]
    split
    · -- `p` may be empty, so the character may be the first one of `q`
      rename_i hn
      rw [matches_either, matches_alt, hjoin, hq, ← nullable_iff]
      simp [hn]
    · -- `p` takes the character
      rename_i hn
      rw [hjoin, ← nullable_iff]
      simp [hn]
  | alt p q hp hq => simp [deriv, matches_either, matches_alt, hp, hq]
  | many p hp => simp [deriv, matches_join, matches_seq, hp, matches_many_cons]

/-- `accepts` decides which texts a pattern describes. -/
theorem accepts_iff {p : Pattern} {s : List Char} : p.accepts s = true ↔ p.Matches s := by
  induction s generalizing p with
  | nil => exact nullable_iff p
  | cons c s ih =>
    have : p.accepts (c :: s) = (p.deriv c).accepts s := rfl
    rw [this, ih, matches_deriv]

instance (p : Pattern) (s : List Char) : Decidable (p.Matches s) :=
  decidable_of_iff (p.accepts s = true) accepts_iff

end ClassSheet.Pattern
