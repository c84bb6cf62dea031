import ClassSheet.Pattern.Matching
import ClassSheet.Proofs.Text.Pieces

/-! # What the texts of a pattern look like

Properties of a pattern that can be read off its parts and hold of all its texts: characters that
occur in none of them (`Pattern.avoids`, which can be computed), an alphabet that has all their
characters (`Pattern.Over`), the parts that a separator stands between
(`Pattern.exists_intercalate_of_matches`), and a word that each of them begins with
(`Pattern.Leads`). -/

namespace ClassSheet.Pattern

/-! ### Characters that do not occur -/

/-- Whether no test of a pattern accepts the character `x`. -/
def avoids (x : Char) : Pattern → Bool
  | never => true
  | empty => true
  | one test => !test x
  | seq p q => p.avoids x && q.avoids x
  | alt p q => p.avoids x && q.avoids x
  | many p => p.avoids x

/-- A character that no test accepts occurs in no text of the pattern. -/
theorem not_mem_of_avoids {x : Char} {p : Pattern} {s : List Char} (h : p.avoids x = true)
    (hs : p.Matches s) : x ∉ s := by
  -- the induction is on the pattern: a text is made of texts of its parts
  induction p generalizing s with
  | never => exact hs.elim
  | empty => simp only [Matches] at hs; simp [hs]
  | one test =>
    obtain ⟨c, hc, rfl⟩ := hs
    intro hx
    obtain rfl := List.mem_singleton.mp hx
    simp [avoids, hc] at h
  | seq p q hp hq =>
    simp only [avoids, Bool.and_eq_true] at h
    obtain ⟨a, b, rfl, ha, hb⟩ := hs
    rw [List.mem_append, not_or]
    exact ⟨hp h.1 ha, hq h.2 hb⟩
  | alt p q hp hq =>
    simp only [avoids, Bool.and_eq_true] at h
    rcases hs with hs | hs
    · exact hp h.1 hs
    · exact hq h.2 hs
  | many p hp =>
    obtain ⟨parts, rfl, hparts⟩ := hs
    intro hx
    obtain ⟨part, hmem, hx⟩ := List.mem_flatten.mp hx
    exact hp h (hparts part hmem) hx

/-- Whether no test of a pattern accepts any of some characters. -/
def avoidsAll (xs : List Char) (p : Pattern) : Bool := xs.all p.avoids

/-- None of the characters that a pattern avoids occurs in its texts. -/
theorem not_mem_of_avoidsAll {xs : List Char} {p : Pattern} {s : List Char}
    (h : p.avoidsAll xs = true) (hs : p.Matches s) : ∀ c ∈ s, c ∉ xs := by
  intro c hc hx
  have hc' := not_mem_of_avoids (List.all_eq_true.mp h c hx) hs
  exact hc' hc

/-! ### Alphabets -/

/-- Whether every test of a pattern accepts characters of an alphabet only. -/
def Over (alphabet : Char → Bool) : Pattern → Prop
  | never => True
  | empty => True
  | one test => ∀ c, test c = true → alphabet c = true
  | seq p q => p.Over alphabet ∧ q.Over alphabet
  | alt p q => p.Over alphabet ∧ q.Over alphabet
  | many p => p.Over alphabet

/-- A pattern over an alphabet has texts over that alphabet. -/
theorem forall_of_over {alphabet : Char → Bool} {p : Pattern} {s : List Char}
    (h : p.Over alphabet) (hs : p.Matches s) : ∀ c ∈ s, alphabet c = true := by
  induction p generalizing s with
  | never => exact hs.elim
  | empty =>
    obtain rfl : s = [] := hs
    exact fun _ hc => nomatch hc
  | one test =>
    obtain ⟨c, hc, rfl⟩ := hs
    exact List.forall_mem_singleton.mpr (h c hc)
  | seq p q hp hq =>
    obtain ⟨a, b, rfl, ha, hb⟩ := hs
    exact List.forall_mem_append.mpr ⟨hp h.1 ha, hq h.2 hb⟩
  | alt p q hp hq =>
    rcases hs with hs | hs
    · exact hp h.1 hs
    · exact hq h.2 hs
  | many p hp =>
    obtain ⟨parts, rfl, hparts⟩ := hs
    intro c hc
    obtain ⟨part, hmem, hc⟩ := List.mem_flatten.mp hc
    exact hp h (hparts part hmem) c hc

namespace Over

variable {alphabet : Char → Bool} {p q : Pattern}

/-- A fixed text over the alphabet. -/
theorem text {t : String} (h : ∀ c ∈ t.toList, alphabet c = true) :
    (Pattern.text t).Over alphabet := by
  unfold Pattern.text
  generalize t.toList = cs at h
  induction cs with
  | nil => trivial
  | cons c cs ih =>
    obtain ⟨hc, hcs⟩ := List.forall_mem_cons.mp h
    refine ⟨fun d hd => ?_, ih hcs⟩
    rwa [eq_of_beq hd]

/-- A table of texts over the alphabet. -/
theorem anyText {ts : List String} (h : ∀ t ∈ ts, ∀ c ∈ t.toList, alphabet c = true) :
    (Pattern.anyText ts).Over alphabet := by
  induction ts with
  | nil => trivial
  | cons t ts ih =>
    obtain ⟨ht, hts⟩ := List.forall_mem_cons.mp h
    exact ⟨.text ht, ih hts⟩

/-- A sequence of patterns over the alphabet. -/
theorem seq (hp : p.Over alphabet) (hq : q.Over alphabet) : (p ++ q).Over alphabet := ⟨hp, hq⟩

/-- An alternative of patterns over the alphabet. -/
theorem alt (hp : p.Over alphabet) (hq : q.Over alphabet) : (p ||| q).Over alphabet := ⟨hp, hq⟩

/-- An optional pattern over the alphabet. -/
theorem optional (hp : p.Over alphabet) : (Pattern.optional p).Over alphabet := ⟨hp, trivial⟩

/-- A repetition of a pattern over the alphabet. -/
theorem many1 (hp : p.Over alphabet) : (Pattern.many1 p).Over alphabet := ⟨hp, hp⟩

/-- A list over the alphabet, separators included. -/
theorem separated {sep : Pattern} (hsep : sep.Over alphabet) (hp : p.Over alphabet) :
    (Pattern.separated sep p).Over alphabet := ⟨hp, hsep, hp⟩

end Over

/-! ### Texts behind each other -/

/-- A text of one pattern and then a text of another. -/
theorem matches_append {p q : Pattern} {s t : List Char} (hs : p.Matches s) (ht : q.Matches t) :
    (p ++ q).Matches (s ++ t) := ⟨s, t, rfl, hs, ht⟩

/-! ### Texts of single characters -/

/-- A repetition of a test describes the texts all of whose characters it accepts. -/
theorem matches_many_one {test : Char → Bool} {s : List Char} :
    (many (one test)).Matches s ↔ ∀ c ∈ s, test c = true := by
  induction s with
  | nil => simp [matches_many_nil]
  | cons c s ih =>
    rw [matches_many_cons, List.forall_mem_cons]
    constructor
    · rintro ⟨a, b, rfl, ⟨d, hd, heq⟩, hb⟩
      obtain ⟨rfl, rfl⟩ := List.cons.inj heq
      exact ⟨hd, ih.mp hb⟩
    · rintro ⟨hc, hs⟩
      exact ⟨[], s, rfl, ⟨c, hc, rfl⟩, ih.mpr hs⟩

/-- Digits are one digit at least and nothing else. -/
theorem matches_digits {s : List Char} :
    digits.Matches s ↔ s ≠ [] ∧ ∀ c ∈ s, c.isDigit = true := by
  constructor
  · rintro ⟨_, rest, rfl, ⟨c, hc, rfl⟩, hrest⟩
    refine ⟨List.cons_ne_nil c rest, List.forall_mem_cons.mpr ⟨hc, matches_many_one.mp hrest⟩⟩
  · rintro ⟨hne, hs⟩
    obtain ⟨c, rest, rfl⟩ := List.exists_cons_of_ne_nil hne
    obtain ⟨hc, hrest⟩ := List.forall_mem_cons.mp hs
    exact ⟨[c], rest, rfl, ⟨c, hc, rfl⟩, matches_many_one.mpr hrest⟩

/-- The codes of a table are what is found in it. -/
theorem matches_anyText_of_find? {α : Type} {entries : List α} {code : α → String} {t : String}
    {a : α} (h : entries.find? (code · == t) = some a) :
    (anyText (entries.map code)).Matches t.toList := by
  refine matches_anyText.mpr ⟨t, List.mem_map.mpr ⟨a, List.mem_of_find?_eq_some h, ?_⟩, rfl⟩
  simpa using List.find?_some h

/-! ### Texts with a separator between them -/

/-- A list is the texts of a pattern with the separator between them. -/
theorem exists_intercalate_of_matches {x : Char} {sep : String} (hsep : sep.toList = [x])
    {p : Pattern} {s : List Char} (hs : (separated (text sep) p).Matches s) :
    ∃ ts, ts ≠ [] ∧ s = [x].intercalate ts ∧ ∀ t ∈ ts, p.Matches t := by
  obtain ⟨first, rest, rfl, hfirst, parts, rfl, hparts⟩ := hs
  -- the induction is on the later texts, each of which has a separator in front of it
  induction parts generalizing first with
  | nil => exact ⟨[first], List.cons_ne_nil _ _, by simp, by simpa using hfirst⟩
  | cons part parts ih =>
    obtain ⟨d, next, rfl, hd, hnext⟩ := hparts part List.mem_cons_self
    obtain rfl := matches_text.mp hd
    obtain ⟨ts, hne, heq, hts⟩ := ih next hnext fun t ht => hparts t (List.mem_cons_of_mem _ ht)
    refine ⟨first :: ts, List.cons_ne_nil _ _, ?_, List.forall_mem_cons.mpr ⟨hfirst, hts⟩⟩
    rw [List.intercalate_cons_of_ne_nil hne, ← heq, hsep]
    simp

/-- Texts of a pattern may be joined with any text of the separator. -/
theorem matches_separated {sep p : Pattern} {s : List Char} {ts : List (List Char)} (hne : ts ≠ [])
    (hs : sep.Matches s) (hts : ∀ t ∈ ts, p.Matches t) :
    (separated sep p).Matches (s.intercalate ts) := by
  obtain ⟨t, rest, rfl⟩ := List.exists_cons_of_ne_nil hne
  obtain ⟨ht, hrest⟩ := List.forall_mem_cons.mp hts
  rw [Text.intercalate_cons_eq]
  refine ⟨t, _, rfl, ht, rest.map (s ++ ·), List.flatMap_def, fun part hpart => ?_⟩
  obtain ⟨u, hu, rfl⟩ := List.mem_map.mp hpart
  exact ⟨s, u, rfl, hs, hrest u hu⟩

/-- Texts of a pattern joined with a separator of one character are such a list. -/
theorem matches_separated_intercalate {x : Char} {sep : String} (hsep : sep.toList = [x])
    {p : Pattern} {ts : List (List Char)} (hne : ts ≠ []) (hts : ∀ t ∈ ts, p.Matches t) :
    (separated (text sep) p).Matches ([x].intercalate ts) :=
  matches_separated hne (matches_text.mpr hsep.symm) hts

/-! ### Words at the beginning -/

/-- Every text of the pattern begins with the word. -/
def Leads (p : Pattern) (lead : String) : Prop := ∀ s, p.Matches s → lead.toList <+: s

/-- A fixed text begins with itself. -/
theorem leads_text (t : String) : (text t).Leads t := by
  intro s hs
  obtain rfl := matches_text.mp hs
  exact List.prefix_refl _

/-- What follows does not change how a text begins. -/
theorem Leads.seq {p : Pattern} {lead : String} (h : p.Leads lead) (q : Pattern) :
    (p ++ q).Leads lead := by
  rintro s ⟨a, b, rfl, ha, -⟩
  exact (h a ha).trans (List.prefix_append a b)

end ClassSheet.Pattern
