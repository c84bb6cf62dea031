import ClassSheet.Css.Shape
import ClassSheet.Proofs.Pattern.Texts
import ClassSheet.Proofs.Text.Pieces
import Mathlib.Data.List.Basic

/-! # The texts of value tokens

Apart from brackets and the sign of a hexadecimal colour, a value token consists of stretches of
lower-case letters, digits and single hyphens inside (`Solid`). `Token` lists the ways in which such
stretches make up a token, and every token of a shape is one of them (`Shape.token`). -/

namespace ClassSheet.Css

/-! ### Solid texts -/

/-- Lower-case letters, digits and hyphens. -/
def isWordChar (c : Char) : Bool := c.isLower || c.isDigit || c == '-'

/-- A text of such characters that neither begins nor ends with a hyphen and is not empty. -/
structure Solid (s : List Char) : Prop where
  nonempty : s ≠ []
  isWordChar : ∀ c ∈ s, isWordChar c = true
  head : s.head? ≠ some '-'
  last : s.getLast? ≠ some '-'

namespace Solid

variable {s t : List Char}

/-- `Solid` as a conjunction of tests, each of which can be run. -/
theorem iff : Solid s ↔ s ≠ [] ∧ (∀ c ∈ s, Css.isWordChar c = true) ∧ s.head? ≠ some '-' ∧
    s.getLast? ≠ some '-' :=
  ⟨fun h => ⟨h.nonempty, h.isWordChar, h.head, h.last⟩, fun ⟨h₁, h₂, h₃, h₄⟩ => ⟨h₁, h₂, h₃, h₄⟩⟩

instance (s : List Char) : Decidable (Solid s) := decidable_of_iff _ iff.symm

/-- Letters and digits are solid. -/
theorem of_forall (hne : s ≠ []) (h : ∀ c ∈ s, (c.isLower || c.isDigit) = true) : Solid s := by
  have hhyphen : '-' ∉ s := fun hmem => absurd (h _ hmem) (by decide)
  refine ⟨hne, fun c hc => ?_, fun hhead => ?_, fun hlast => ?_⟩
  · rw [Css.isWordChar, h c hc, Bool.true_or]
  · exact hhyphen (List.mem_of_mem_head? hhead)
  · exact hhyphen (List.mem_of_getLast? hlast)

/-- Solid texts one behind the other are solid. -/
theorem append (hs : Solid s) (ht : Solid t) : Solid (s ++ t) := by
  refine ⟨by simp [hs.nonempty], fun c hc => ?_, ?_, ?_⟩
  · rcases List.mem_append.mp hc with hc | hc
    · exact hs.isWordChar c hc
    · exact ht.isWordChar c hc
  · rw [List.head?_append_of_ne_nil _ hs.nonempty]
    exact hs.head
  · rw [List.getLast?_append_of_ne_nil _ ht.nonempty]
    exact ht.last

/-- A hyphen may stand between solid texts. -/
theorem hyphen (hs : Solid s) (ht : Solid t) : Solid (s ++ '-' :: t) := by
  refine ⟨by simp, fun c hc => ?_, ?_, ?_⟩
  · rcases List.mem_append.mp hc with hc | hc
    · exact hs.isWordChar c hc
    · rcases List.mem_cons.mp hc with rfl | hc
      · decide
      · exact ht.isWordChar c hc
  · rw [List.head?_append_of_ne_nil _ hs.nonempty]
    exact hs.head
  · rw [List.getLast?_append_of_ne_nil _ (List.cons_ne_nil _ _),
      List.getLast?_cons_of_ne_nil ht.nonempty]
    exact ht.last

end Solid

end ClassSheet.Css

namespace ClassSheet.Pattern

open ClassSheet.Css

/-! ### Patterns of solid texts -/

/-- Every text of the pattern is solid. -/
def IsSolid (p : Pattern) : Prop := ∀ s, p.Matches s → Solid s

/-- A nesting of sequences to the left is one to the right. -/
theorem matches_seq_assoc {p q r : Pattern} {s : List Char} :
    ((p ++ q) ++ r).Matches s ↔ (p ++ (q ++ r)).Matches s := by
  constructor
  · rintro ⟨_, c, rfl, ⟨a, b, rfl, ha, hb⟩, hc⟩
    exact ⟨a, b ++ c, List.append_assoc .., ha, b, c, rfl, hb, hc⟩
  · rintro ⟨a, _, rfl, ha, b, c, rfl, hb, hc⟩
    exact ⟨a ++ b, c, (List.append_assoc ..).symm, ⟨a, b, rfl, ha, hb⟩, hc⟩

namespace IsSolid

variable {p q : Pattern}

/-- A pattern of one letter or digit. -/
theorem one {test : Char → Bool} (h : ∀ c, test c = true → (c.isLower || c.isDigit) = true) :
    (Pattern.one test).IsSolid := by
  rintro _ ⟨c, hc, rfl⟩
  refine .of_forall (List.cons_ne_nil c []) fun d hd => ?_
  rw [List.mem_singleton.mp hd]
  exact h c hc

/-- A fixed text that is solid. -/
theorem text {t : String} (h : Solid t.toList) : (Pattern.text t).IsSolid := by
  intro s hs
  rw [matches_text.mp hs]
  exact h

/-- A table of texts that are all solid. -/
theorem anyText {ts : List String} (h : ∀ t ∈ ts, Solid t.toList) :
    (Pattern.anyText ts).IsSolid := by
  intro s hs
  obtain ⟨t, ht, rfl⟩ := matches_anyText.mp hs
  exact h t ht

/-- Either of two patterns of solid texts. -/
theorem alt (hp : p.IsSolid) (hq : q.IsSolid) : (p ||| q).IsSolid := by
  intro s hs
  rcases hs with hs | hs
  · exact hp s hs
  · exact hq s hs

/-- Two patterns of solid texts, one behind the other. -/
theorem seq (hp : p.IsSolid) (hq : q.IsSolid) : (p ++ q).IsSolid := by
  rintro _ ⟨a, b, rfl, ha, hb⟩
  exact (hp a ha).append (hq b hb)

/-- A solid text with perhaps another one behind it. -/
theorem seq_optional (hp : p.IsSolid) (hq : q.IsSolid) : (p ++ Pattern.optional q).IsSolid := by
  rintro _ ⟨a, b, rfl, ha, hb | rfl⟩
  · exact (hp a ha).append (hq b hb)
  · rw [List.append_nil]
    exact hp a ha

/-- Solid texts one after the other, and in front of them one that is there. -/
theorem seq_many (hp : p.IsSolid) (hq : q.IsSolid) : (Pattern.seq p (many q)).IsSolid := by
  rintro _ ⟨a, _, rfl, ha, parts, rfl, hparts⟩
  have hsolid := hp a ha
  clear ha
  induction parts generalizing a with
  | nil =>
    rw [List.flatten_nil, List.append_nil]
    exact hsolid
  | cons part parts ih =>
    have hpart := hq part (hparts part List.mem_cons_self)
    rw [List.flatten_cons, ← List.append_assoc]
    exact ih (a ++ part) (fun t ht => hparts t (List.mem_cons_of_mem _ ht)) (hsolid.append hpart)

/-- At least one solid text. -/
theorem many1 (hp : p.IsSolid) : (Pattern.many1 p).IsSolid := seq_many hp hp

/-- A fixed number of solid texts, at least one. -/
theorem times (hp : p.IsSolid) (n : Nat) : (Pattern.times (n + 1) p).IsSolid := by
  induction n with
  | zero =>
    rintro _ ⟨a, b, rfl, ha, rfl⟩
    rw [List.append_nil]
    exact hp a ha
  | succ n ih => exact seq hp ih

/-- At least so many solid texts, where that is not zero. -/
theorem atLeast (hp : p.IsSolid) (n : Nat) : (Pattern.atLeast (n + 1) p).IsSolid :=
  seq_many (times hp n) hp

/-- At most so many solid texts, and in front of them one that is there. -/
theorem seq_atMost (hp : p.IsSolid) (hq : q.IsSolid) (n : Nat) :
    (p ++ Pattern.atMost n q).IsSolid := by
  induction n generalizing p with
  | zero =>
    rintro _ ⟨a, b, rfl, ha, rfl⟩
    rw [List.append_nil]
    exact hp a ha
  | succ n ih =>
    rintro _ ⟨a, b, rfl, ha, hb | rfl⟩
    · exact ih (seq hp hq) _ (matches_seq_assoc.mpr ⟨a, b, rfl, ha, hb⟩)
    · rw [List.append_nil]
      exact hp a ha

/-- Two solid texts with a hyphen between them. -/
theorem hyphen (hp : p.IsSolid) (hq : q.IsSolid) : (p ++ (Pattern.text "-" ++ q)).IsSolid := by
  rintro _ ⟨a, _, rfl, ha, h, b, rfl, hh, hb⟩
  obtain rfl := matches_text.mp hh
  exact (hp a ha).hyphen (hq b hb)

/-- A solid text with perhaps a hyphen and another one behind it. -/
theorem hyphen_optional (hp : p.IsSolid) (hq : q.IsSolid) :
    (p ++ Pattern.optional (Pattern.text "-" ++ q)).IsSolid := by
  rintro _ ⟨a, b, rfl, ha, hb | rfl⟩
  · exact hyphen hp hq _ ⟨a, b, rfl, ha, hb⟩
  · rw [List.append_nil]
    exact hp a ha

/-- A list of solid texts with hyphens between them. -/
theorem separated (hp : p.IsSolid) : (Pattern.separated (Pattern.text "-") p).IsSolid := by
  intro s hs
  obtain ⟨ts, hne, rfl, hts⟩ := exists_intercalate_of_matches (x := '-') (by decide) hs
  clear hs
  induction ts with
  | nil => exact absurd rfl hne
  | cons t ts ih =>
    have ht := hp t (hts t List.mem_cons_self)
    cases ts with
    | nil => simpa using ht
    | cons t' ts =>
      rw [List.intercalate_cons_cons, List.append_assoc, List.singleton_append]
      exact ht.hyphen (ih (List.cons_ne_nil t' ts) fun u hu => hts u (List.mem_cons_of_mem _ hu))

end IsSolid

/-! ### Parts of value tokens -/

/-- Numbers are solid. -/
theorem isSolid_digits : digits.IsSolid := .many1 (.one fun c hc => by simp [hc])

/-- A lower-case letter is solid. -/
theorem isSolid_lower : lower.IsSolid := .one fun c hc => by simp [hc]

end ClassSheet.Pattern

namespace ClassSheet.Css

open Pattern

/-- The codes of units are solid. -/
theorem LengthUnit.isSolid_pattern : LengthUnit.pattern.IsSolid := by
  refine .anyText fun t ht => ?_
  obtain ⟨u, -, rfl⟩ := List.mem_map.mp ht
  cases u <;> decide

/-- A number with a unit is solid. -/
theorem Dimension.isSolid_lengthPattern : Dimension.lengthPattern.IsSolid :=
  .seq isSolid_digits LengthUnit.isSolid_pattern

/-- A number is solid whether it has a unit or not. -/
theorem Dimension.isSolid_pattern : Dimension.pattern.IsSolid :=
  .seq_optional isSolid_digits LengthUnit.isSolid_pattern

/-- The codes of operators are solid. -/
theorem Operator.isSolid_pattern : Operator.pattern.IsSolid := by
  refine .anyText fun t ht => ?_
  obtain ⟨o, -, rfl⟩ := List.mem_map.mp ht
  cases o <;> decide

/-- The last argument of a colour function is solid. -/
theorem ColorFunction.isSolid_fractionPattern : ColorFunction.fractionPattern.IsSolid := by
  have hdigit : (one Char.isDigit).IsSolid := .one fun c hc => by simp [hc]
  exact .alt (.alt (.text (by decide)) (.seq (.text (by decide)) hdigit)) (.text (by decide))

/-- The count of a repeated group is solid. -/
theorem RepeatCount.isSolid_pattern : RepeatCount.pattern.IsSolid :=
  .alt isSolid_digits (.anyText (by decide))

/-! ### Forms of value tokens -/

/-- Whether the text in front of an opening bracket is one that only the inside of `repeat` has: a
    count and `minmax`, with a hyphen between them. -/
def nests (s : List Char) : Bool := s.contains '-' && s.getLast? == some 'x'

/-- What may follow the first track of a template. -/
inductive Tracks : List Char → Prop
  | nil : Tracks []
  | length {d rest : List Char} (hd : Solid d) (hrest : Tracks rest) : Tracks ('-' :: (d ++ rest))
  | call {f d rest : List Char} (hf : Solid f) (hd : Solid d) (hrest : Tracks rest) :
    Tracks ('-' :: (f ++ '(' :: (d ++ ')' :: rest)))

/-- The ways in which solid texts make up a value token. -/
inductive Token : List Char → Prop
  | word {s : List Char} (hs : Solid s) : Token s
  | hex {h : List Char} (hh : Solid h) : Token ('#' :: h)
  | border {p h : List Char} (hp : Solid p) (hh : Solid h) : Token (p ++ '-' :: '#' :: h)
  | call {p b rest : List Char} (hp : Solid p) (hname : nests p = false) (hb : Solid b)
    (hrest : Tracks rest) : Token (p ++ '(' :: (b ++ ')' :: rest))
  | nested {p x b : List Char} (hp : Solid p) (hname : nests p = false) (hx : Solid x)
    (hnests : nests x = true) (hb : Solid b) : Token (p ++ '(' :: (x ++ '(' :: (b ++ [')', ')'])))

/-- The characters of value tokens. -/
def isTokenChar (c : Char) : Bool := isWordChar c || ['#', '(', ')'].contains c

/-- Value tokens have no capitals, which is why the next token of a name begins with one. -/
theorem isUpper_eq_false_of_isTokenChar {c : Char} (h : isTokenChar c = true) :
    c.isUpper = false := by
  simp only [isTokenChar, isWordChar, Bool.or_eq_true, beq_iff_eq, List.contains_iff_mem,
    List.mem_cons, List.not_mem_nil, or_false] at h
  rw [Bool.eq_false_iff]
  intro hupper
  have hrange : c.val ≥ 'A'.val ∧ c.val ≤ 'Z'.val := of_decide_eq_true hupper
  have hfrom : 65 ≤ c.toNat := hrange.1
  have hto : c.toNat ≤ 90 := hrange.2
  -- small letters come after the capitals in the order of characters and all others before them
  rcases h with ((h | h) | rfl) | rfl | rfl | rfl
  · have hlower : (decide (c.val ≥ 'a'.val) && decide (c.val ≤ 'z'.val)) = true := h
    have hlow : 97 ≤ c.toNat := of_decide_eq_true (Bool.and_eq_true_iff.mp hlower).1
    omega
  · have hdigit : (decide (c.val ≥ '0'.val) && decide (c.val ≤ '9'.val)) = true := h
    have hhigh : c.toNat ≤ 57 := of_decide_eq_true (Bool.and_eq_true_iff.mp hdigit).2
    omega
  all_goals exact absurd hfrom (by decide)

/-- Solid texts are made of characters of tokens. -/
theorem Solid.isTokenChar {s : List Char} (h : Solid s) : ∀ c ∈ s, isTokenChar c = true := by
  intro c hc
  rw [Css.isTokenChar, h.isWordChar c hc, Bool.true_or]

/-- What follows the first track of a template is made of characters of tokens. -/
theorem Tracks.isTokenChar {s : List Char} (h : Tracks s) : ∀ c ∈ s, isTokenChar c = true := by
  induction h with
  | nil => exact fun _ hc => nomatch hc
  | length hd _ ih =>
    simp only [List.forall_mem_cons, List.forall_mem_append]
    exact ⟨by decide, hd.isTokenChar, ih⟩
  | call hf hd _ ih =>
    simp only [List.forall_mem_cons, List.forall_mem_append]
    exact ⟨by decide, hf.isTokenChar, by decide, hd.isTokenChar, by decide, ih⟩

/-- A token has none but the characters of tokens. -/
theorem Token.isTokenChar {s : List Char} (h : Token s) : ∀ c ∈ s, isTokenChar c = true := by
  cases h with
  | word hs => exact hs.isTokenChar
  | hex hh =>
    simp only [List.forall_mem_cons]
    exact ⟨by decide, hh.isTokenChar⟩
  | border hp hh =>
    simp only [List.forall_mem_cons, List.forall_mem_append]
    exact ⟨hp.isTokenChar, by decide, by decide, hh.isTokenChar⟩
  | call hp _ hb hrest =>
    simp only [List.forall_mem_cons, List.forall_mem_append]
    exact ⟨hp.isTokenChar, by decide, hb.isTokenChar, by decide, hrest.isTokenChar⟩
  | nested hp _ hx _ hb =>
    simp only [List.forall_mem_cons, List.forall_mem_append]
    exact ⟨hp.isTokenChar, by decide, hx.isTokenChar, by decide, hb.isTokenChar, by decide,
      by decide, fun _ hc => nomatch hc⟩

/-! ### Calls -/

/-- A call with a fixed name, of which the closing bracket is taken off first. -/
theorem exists_of_call {front B : Pattern} {lead name : String} {s : List Char}
    (hlead : lead.toList = name.toList ++ ['(']) (hB : B.IsSolid)
    (hfront : ∀ s, front.Matches s → (text lead ++ B).Matches s)
    (h : (front ++ text ")").Matches s) :
    ∃ b, Solid b ∧ s = name.toList ++ '(' :: (b ++ [')']) := by
  obtain ⟨_, _, rfl, hf, hclose⟩ := h
  obtain ⟨_, b, rfl, hl, hb⟩ := hfront _ hf
  obtain rfl := matches_text.mp hl
  obtain rfl := matches_text.mp hclose
  refine ⟨b, hB b hb, ?_⟩
  rw [hlead]
  simp

/-- A `minmax` track is a call around a solid text. -/
theorem Track.exists_of_minMax {s : List Char} (h : minMaxPattern.Matches s) :
    ∃ b, Solid b ∧ s = "minmax".toList ++ '(' :: (b ++ [')']) := by
  have hinside := IsSolid.hyphen Dimension.isSolid_lengthPattern Dimension.isSolid_lengthPattern
  have hlead : "minmax(".toList = "minmax".toList ++ ['('] := by decide
  refine exists_of_call hlead hinside (fun s hs => ?_) h
  simpa only [matches_seq_assoc] using hs

/-- A `fitcontent` track is a call around a solid text. -/
theorem Track.exists_of_fitContent {s : List Char} (h : fitContentPattern.Matches s) :
    ∃ b, Solid b ∧ s = "fitcontent".toList ++ '(' :: (b ++ [')']) := by
  have hlead : "fitcontent(".toList = "fitcontent".toList ++ ['('] := by decide
  exact exists_of_call hlead Dimension.isSolid_lengthPattern (fun _ hs => hs) h

/-- A calculation is a call around a solid text. -/
theorem exists_of_calculation {s : List Char} (h : Shape.calculationPattern.Matches s) :
    ∃ b, Solid b ∧ s = "calc".toList ++ '(' :: (b ++ [')']) := by
  have hinside := IsSolid.hyphen Dimension.isSolid_pattern
    (.hyphen Operator.isSolid_pattern Dimension.isSolid_pattern)
  have hlead : "calc(".toList = "calc".toList ++ ['('] := by decide
  refine exists_of_call hlead hinside (fun s hs => ?_) h
  simpa only [matches_seq_assoc] using hs

/-- The name of a colour function does not end like `minmax`. -/
theorem ColorFunction.exists_of_pattern {s : List Char} (h : ColorFunction.pattern.Matches s) :
    ∃ p b, Solid p ∧ p.getLast? ≠ some 'x' ∧ Solid b ∧ s = p ++ '(' :: (b ++ [')']) := by
  have hinside := IsSolid.hyphen isSolid_digits
    (.hyphen isSolid_digits (.hyphen_optional isSolid_digits isSolid_fractionPattern))
  have hclosing : ")".toList = [')'] := by decide
  have hopening : "(".toList = ['('] := by decide
  obtain ⟨front, _, rfl, hfront, hclose⟩ := h
  simp only [matches_seq_assoc] at hfront
  obtain ⟨model, _, rfl, hmodel, alpha, _, rfl, halpha, _, b, rfl, hopen, hb⟩ := hfront
  obtain rfl := matches_text.mp hclose
  obtain rfl := matches_text.mp hopen
  refine ⟨model ++ alpha, b, ?_, ?_, hinside b hb, by simp [hopening, hclosing]⟩
  -- both statements about the name are seen on the four names themselves
  all_goals
    obtain ⟨name, hname, rfl⟩ := matches_anyText.mp hmodel
    simp only [List.mem_cons, List.not_mem_nil, or_false] at hname
    rcases halpha with halpha | rfl
    · obtain rfl := matches_text.mp halpha
      rcases hname with rfl | rfl <;> decide
    · rcases hname with rfl | rfl <;> decide

/-- A hexadecimal colour is a solid text behind its sign. -/
theorem Color.exists_of_hexPattern {s : List Char} (h : Color.hexPattern.Matches s) :
    ∃ digits, Solid digits ∧ s = '#' :: digits := by
  have hdigit : (one fun c => c.isDigit || ('a' ≤ c && c ≤ 'f')).IsSolid := by
    refine .one fun c hc => ?_
    rw [Bool.or_eq_true, Bool.and_eq_true, decide_eq_true_eq, decide_eq_true_eq] at hc
    rcases hc with hc | ⟨hle, hge⟩
    · simp [hc]
    · have hlower : c.isLower = true := Bool.and_eq_true_iff.mpr
        ⟨decide_eq_true hle, decide_eq_true (UInt32.le_trans hge (by decide))⟩
      simp [hlower]
  -- three digits that are there and up to five more
  have hdigits := IsSolid.seq_atMost (.times hdigit 2) hdigit 5
  have hsign : "#".toList = ['#'] := by decide
  rw [Color.hexPattern] at h
  obtain ⟨_, digits, rfl, hs, hd⟩ := matches_seq_assoc.mp h
  obtain rfl := matches_text.mp hs
  exact ⟨digits, hdigits digits hd, by rw [hsign]; rfl⟩

/-! ### Shapes -/

/-- What follows the first track of a template. -/
theorem tracks_of_matches {s : List Char} (h : (many (text "-" ++ Track.pattern)).Matches s) :
    Tracks s := by
  obtain ⟨parts, rfl, hparts⟩ := h
  induction parts with
  | nil => exact .nil
  | cons part parts ih =>
    have hrest := ih fun t ht => hparts t (List.mem_cons_of_mem _ ht)
    obtain ⟨_, track, rfl, hh, htrack⟩ := hparts part List.mem_cons_self
    obtain rfl := matches_text.mp hh
    have hhyphen : "-".toList = ['-'] := by decide
    rw [List.flatten_cons, hhyphen, List.append_assoc, List.singleton_append]
    rcases htrack with (hlength | hfit) | hminMax
    · exact .length (Dimension.isSolid_lengthPattern track hlength) hrest
    · obtain ⟨b, hb, rfl⟩ := Track.exists_of_fitContent hfit
      simpa using Tracks.call (f := "fitcontent".toList) (by decide) hb hrest
    · obtain ⟨b, hb, rfl⟩ := Track.exists_of_minMax hminMax
      simpa using Tracks.call (f := "minmax".toList) (by decide) hb hrest

/-- A border is a solid text that may end in a colour: a hexadecimal one, a call or a name. -/
theorem token_of_border {s : List Char} (h : Shape.borderPattern.Matches s) : Token s := by
  -- the width and the style, in front of the colour
  have hfront : ((ColorFunction.fractionPattern ||| digits) ++ LengthUnit.pattern ++ text "-" ++
      atLeast 4 lower).IsSolid := by
    intro s hs
    have hwidth := IsSolid.seq (.alt ColorFunction.isSolid_fractionPattern isSolid_digits)
      LengthUnit.isSolid_pattern
    exact hwidth.hyphen (.atLeast isSolid_lower 3) s (matches_seq_assoc.mp hs)
  -- which form the token has depends on the colour alone
  obtain ⟨front, _, rfl, hf, hcolor | rfl⟩ := h
  · have hsolid := hfront front hf
    have hhyphen : "-".toList = ['-'] := by decide
    obtain ⟨_, color, rfl, hh, (hcolor | hcolor) | hcolor⟩ := hcolor
    all_goals
      obtain rfl := matches_text.mp hh
      rw [hhyphen, List.singleton_append]
    · obtain ⟨digits, hdigits, rfl⟩ := Color.exists_of_hexPattern hcolor
      exact .border hsolid hdigits
    · obtain ⟨p, b, hp, hlast, hb, rfl⟩ := ColorFunction.exists_of_pattern hcolor
      have hname : nests (front ++ '-' :: p) = false := by
        -- the name of the call ends as that of the colour function does
        have hlast' : (front ++ '-' :: p).getLast? = p.getLast? := by
          rw [List.getLast?_append_of_ne_nil _ (List.cons_ne_nil _ _), List.getLast?_cons]
          simp [List.getLast?_eq_some_getLast hp.nonempty]
        rw [nests, hlast', beq_eq_false_iff_ne.mpr hlast, Bool.and_false]
      simpa using Token.call (hsolid.hyphen hp) hname hb .nil
    · exact .word (hsolid.hyphen (IsSolid.atLeast isSolid_lower 2 color hcolor))
  · rw [List.append_nil]
    exact .word (hfront front hf)

/-- A template is a row of tracks or a call of `repeat`. -/
theorem token_of_template {s : List Char} (h : GridEntry.templatePattern.Matches s) : Token s := by
  rcases h with ⟨first, rest, rfl, hfirst, hrest⟩ | h
  · -- a row of tracks: the first one is a call
    have htracks := tracks_of_matches hrest
    rcases hfirst with hfit | hminMax
    · obtain ⟨b, hb, rfl⟩ := Track.exists_of_fitContent hfit
      simpa using Token.call (p := "fitcontent".toList) (by decide) (by decide) hb htracks
    · obtain ⟨b, hb, rfl⟩ := Track.exists_of_minMax hminMax
      simpa using Token.call (p := "minmax".toList) (by decide) (by decide) hb htracks
  · -- a repeated group: only `minmax` brings a second pair of brackets
    have hlead : "repeat(".toList = "repeat".toList ++ ['('] := by decide
    have hhyphen : "-".toList = ['-'] := by decide
    have hclosing : ")".toList = [')'] := by decide
    obtain ⟨_, _, rfl, hfront, hclose⟩ := h
    obtain rfl := matches_text.mp hclose
    simp only [matches_seq_assoc] at hfront
    obtain ⟨_, _, rfl, hl, count, _, rfl, hcount, _, inside, rfl, hh, hinside⟩ := hfront
    obtain rfl := matches_text.mp hl
    obtain rfl := matches_text.mp hh
    have hc := RepeatCount.isSolid_pattern count hcount
    rw [hlead, hhyphen, hclosing]
    rcases hinside with hlengths | hminMax
    · have hb := hc.hyphen (IsSolid.separated Dimension.isSolid_lengthPattern inside hlengths)
      simpa using Token.call (p := "repeat".toList) (by decide) (by decide) hb .nil
    · -- a single `minmax` stands inside the brackets of `repeat`
      obtain ⟨b, hb, rfl⟩ := Track.exists_of_minMax hminMax
      have hx : Solid (count ++ '-' :: "minmax".toList) := hc.hyphen (by decide)
      have hnests : nests (count ++ '-' :: "minmax".toList) = true := by simp [nests]
      simpa using Token.nested (p := "repeat".toList) (by decide) (by decide) hx hnests hb

/-- A token has the shape that it is classified as. -/
theorem Shape.matches_of_classify? {token : String} {shape : Shape}
    (h : classify? token = some shape) : shape.pattern.Matches token.toList := by
  have haccepts : shape.accepts token = true := by
    simpa using List.find?_some (p := fun s : Shape => s.accepts token) h
  exact accepts_iff.mp haccepts

/-- The token of a shape has one of the forms. -/
theorem Shape.token {shape : Shape} {s : List Char} (h : shape.pattern.Matches s) : Token s := by
  cases shape with
  | border => exact token_of_border h
  | grid => exact token_of_template h
  | lengths => exact .word (IsSolid.separated Dimension.isSolid_lengthPattern s h)
  | numbers => exact .word (IsSolid.separated isSolid_digits s h)
  | fraction => exact .word (ColorFunction.isSolid_fractionPattern s h)
  | negative => exact .word (IsSolid.seq (.text (by decide)) Dimension.isSolid_pattern s h)
  | calculation =>
    obtain ⟨b, hb, rfl⟩ := exists_of_calculation h
    exact .call (by decide) (by decide) hb .nil
  | colorFunction =>
    obtain ⟨p, b, hp, hlast, hb, rfl⟩ := ColorFunction.exists_of_pattern h
    have hname : nests p = false := by
      rw [nests, beq_eq_false_iff_ne.mpr hlast, Bool.and_false]
    exact .call hp hname hb .nil
  | hexColor =>
    obtain ⟨digits, hdigits, rfl⟩ := Color.exists_of_hexPattern h
    exact .hex hdigits
  | text => exact .word (IsSolid.separated (.atLeast isSolid_lower 1) s h)

end ClassSheet.Css
