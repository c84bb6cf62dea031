import ClassSheet.Proofs.Css.Brackets
import ClassSheet.Proofs.Pattern.Texts

/-! # Spelling of the parts of values

Each part of a value has one spelling in a class name: its `token`. The spelling is read back
(`Dimension.ofChars?_token` and so on), and what the pattern of a part describes is the spelling of
such a part (`Dimension.exists_of_matches` and so on). No spelling has a hyphen outside brackets, so
spellings with hyphens between them are told apart. -/

namespace ClassSheet.Css

open ClassSheet.Text

/-! ### Lists -/

section Lists

variable {α β : Type} {P : α → Prop} {f : α → β}

/-- What is read back one by one is read back as a list. -/
theorem mapM_map_eq_some {read : β → Option α} {as : List α} (h : ∀ a ∈ as, read (f a) = some a) :
    (as.map f).mapM read = some as := by
  induction as with
  | nil => rfl
  | cons a as ih =>
    obtain ⟨ha, has⟩ := List.forall_mem_cons.mp h
    simp [ha, ih has]

/-- What each entry comes from, the list comes from. -/
theorem exists_map_eq {bs : List β} (h : ∀ b ∈ bs, ∃ a, P a ∧ f a = b) :
    ∃ as : List α, (∀ a ∈ as, P a) ∧ as.map f = bs := by
  induction bs with
  | nil => exact ⟨[], by simp, rfl⟩
  | cons b bs ih =>
    obtain ⟨hb, hbs⟩ := List.forall_mem_cons.mp h
    obtain ⟨a, ha, rfl⟩ := hb
    obtain ⟨as, has, rfl⟩ := ih hbs
    exact ⟨a :: as, List.forall_mem_cons.mpr ⟨ha, has⟩, rfl⟩

end Lists

/-! ### Numbers, units and operators -/

/-- Letters and digits, of which names, numbers and lengths are made. -/
def isPlainChar (c : Char) : Bool := c.isLower || c.isDigit

/-- Such a text has no other characters. -/
theorem not_mem_of_plain {x : Char} (hx : isPlainChar x = false) {cs : List Char}
    (h : ∀ c ∈ cs, isPlainChar c = true) : x ∉ cs := by
  intro hmem
  rw [h x hmem] at hx
  cases hx

/-- Such a text goes on as far as another character does not come. -/
theorem bne_of_plain {x : Char} (hx : isPlainChar x = false) {cs : List Char}
    (h : ∀ c ∈ cs, isPlainChar c = true) : ∀ c ∈ cs, (c != x) = true := by
  intro c hc
  rw [bne_iff_ne]
  rintro rfl
  exact not_mem_of_plain hx h hc

/-- A plain text has neither brackets nor hyphens, so it is not cut at any depth. -/
theorem Uncut.of_plain {depth : Nat} {p : List Char} (h : ∀ c ∈ p, isPlainChar c = true) :
    Uncut depth p := by
  have hopen : '(' ∉ p := not_mem_of_plain (by decide) h
  have hclose : ')' ∉ p := not_mem_of_plain (by decide) h
  have hhyphen : '-' ∉ p := not_mem_of_plain (by decide) h
  refine .of_forall fun c hc => ⟨?_, ?_, ?_⟩
  · rintro rfl
    exact hopen hc
  · rintro rfl
    exact hclose hc
  · rintro rfl
    exact absurd hc hhyphen

/-- Such texts, with hyphens between them, are the pieces of the joined text. -/
theorem pieces_intercalate_of_plain {ps : List (List Char)} (hne : ps ≠ [])
    (h : ∀ p ∈ ps, ∀ c ∈ p, isPlainChar c = true) :
    pieces (· == '-') (['-'].intercalate ps) = ps :=
  (pieces_eq_iff hne fun p hp => not_mem_of_plain (by decide) (h p hp)).mpr rfl

/-- The hyphen between parts, as a list of characters. -/
theorem toList_hyphen : "-".toList = ['-'] := by decide

/-- The bracket that ends a call, as a list of characters. -/
theorem toList_closing : ")".toList = [')'] := by decide

/-- The digits of a number are read back as that number. -/
theorem Numeral.ofChars?_digits (n : Numeral) : ofChars? n.digits = some n := by
  rw [ofChars?, dif_pos ⟨n.nonempty, List.all_eq_true.mpr n.isDigit⟩]

/-- What `Pattern.digits` describes is the spelling of a number. -/
theorem Numeral.exists_of_matches {cs : List Char} (h : Pattern.digits.Matches cs) :
    ∃ n : Numeral, n.digits = cs := by
  obtain ⟨hne, hdigit⟩ := Pattern.matches_digits.mp h
  exact ⟨⟨cs, hne, hdigit⟩, rfl⟩

/-- A number has a first digit. -/
theorem Numeral.exists_cons (n : Numeral) : ∃ d ds, n.digits = d :: ds ∧ d.isDigit = true := by
  obtain ⟨d, ds, hdigits⟩ := List.exists_cons_of_ne_nil n.nonempty
  refine ⟨d, ds, hdigits, n.isDigit d ?_⟩
  rw [hdigits]
  exact List.mem_cons_self

/-- Every number is spelled as `Pattern.digits` describes it. -/
theorem Numeral.matches_digits (n : Numeral) : Pattern.digits.Matches n.digits :=
  Pattern.matches_digits.mpr ⟨n.nonempty, n.isDigit⟩

/-- A number is no word. -/
theorem Numeral.digits_ne (n : Numeral) {word : List Char} (hword : word.all Char.isDigit = false) :
    n.digits ≠ word := by
  rintro rfl
  rw [List.all_eq_true.mpr n.isDigit] at hword
  cases hword

/-- Digits are plain characters. -/
theorem Numeral.plain_digits (n : Numeral) : ∀ c ∈ n.digits, isPlainChar c = true := by
  intro c hc
  rw [isPlainChar, n.isDigit c hc, Bool.or_true]

/-- The code of a unit is made of plain characters. -/
theorem LengthUnit.plain_code (u : LengthUnit) : ∀ c ∈ u.code.toList, isPlainChar c = true := by
  cases u <;> decide

/-- The code of an operator is made of plain characters. -/
theorem Operator.plain_code (o : Operator) : ∀ c ∈ o.code.toList, isPlainChar c = true := by
  cases o <;> decide

/-- The code of an operator is read back as that operator. -/
theorem Operator.ofCode?_code (o : Operator) : ofCode? o.code = some o := by
  cases o <;> rfl

/-- The code that a table describes is that of an entry. -/
theorem exists_code_eq {α : Type} {entries : List α} {code : α → String} {cs : List Char}
    (h : (Pattern.anyText (entries.map code)).Matches cs) : ∃ a : α, (code a).toList = cs := by
  obtain ⟨t, ht, rfl⟩ := Pattern.matches_anyText.mp h
  obtain ⟨a, -, rfl⟩ := List.mem_map.mp ht
  exact ⟨a, rfl⟩

namespace Dimension

/-- The spelling of a dimension in a class name. -/
def token (d : Dimension) : List Char := d.number.digits ++ (d.unit.map (·.code.toList)).getD []

/-- A dimension is spelled with plain characters, number and unit alike. -/
theorem plain_token (d : Dimension) : ∀ c ∈ d.token, isPlainChar c = true := by
  obtain ⟨number, unit⟩ := d
  refine List.forall_mem_append.mpr ⟨number.plain_digits, ?_⟩
  cases unit with
  | none => simp
  | some u => exact u.plain_code

/-- The spelling of a dimension is not cut at any depth. -/
theorem uncut_token (d : Dimension) (depth : Nat) : Uncut depth d.token := .of_plain d.plain_token

/-- A dimension is read back from its spelling: the digits end where the unit begins. -/
theorem ofChars?_token (d : Dimension) : ofChars? d.token = some d := by
  obtain ⟨number, unit⟩ := d
  have hstop : ∀ c ∈ ((unit.map (·.code.toList)).getD []).head?, c.isDigit = false := by
    cases unit with
    | none => simp
    | some u => cases u <;> decide
  rw [token, ofChars?, takeWhile_append_of_stop number.isDigit hstop,
    dropWhile_append_of_stop number.isDigit hstop, number.ofChars?_digits]
  cases unit with
  | none => rfl
  | some u => cases u <;> rfl

/-- A dimension with a unit is read back as a length. -/
theorem lengthOfChars?_token {d : Dimension} (h : d.unit.isSome = true) :
    lengthOfChars? d.token = some d := by
  rw [lengthOfChars?, ofChars?_token, Option.filter_some, if_pos h]

/-- What `lengthPattern` describes is the spelling of a dimension with a unit. -/
theorem exists_of_matches_length {cs : List Char} (h : lengthPattern.Matches cs) :
    ∃ d : Dimension, d.unit.isSome = true ∧ d.token = cs := by
  obtain ⟨_, _, rfl, hdigits, hunit⟩ := h
  obtain ⟨n, rfl⟩ := Numeral.exists_of_matches hdigits
  obtain ⟨u, rfl⟩ := exists_code_eq hunit
  exact ⟨⟨n, some u⟩, rfl, rfl⟩

/-- What `pattern` describes is the spelling of a dimension. -/
theorem exists_of_matches {cs : List Char} (h : pattern.Matches cs) :
    ∃ d : Dimension, d.token = cs := by
  obtain ⟨digits, _, rfl, hdigits, hunit | rfl⟩ := h
  · obtain ⟨d, -, hd⟩ := exists_of_matches_length ⟨_, _, rfl, hdigits, hunit⟩
    exact ⟨d, hd⟩
  · obtain ⟨n, rfl⟩ := Numeral.exists_of_matches hdigits
    exact ⟨⟨n, none⟩, rfl⟩

end Dimension

/-! ### Calls -/

/-- A name with something in brackets behind it. -/
def callToken (name : String) (inside : List Char) : List Char :=
  name.toList ++ '(' :: (inside ++ [')'])

/-- A call with a plain name is taken apart into its name and what its brackets hold. -/
theorem call?_callToken {name : String} (hname : ∀ c ∈ name.toList, isPlainChar c = true)
    (inside : List Char) : call? (callToken name inside) = some (name.toList, inside) := by
  have hfront : ∀ c ∈ name.toList, (c != '(') = true := bne_of_plain (by decide) hname
  have hstop : ∀ c ∈ ('(' :: (inside ++ [')'])).head?, (c != '(') = false := by simp
  rw [call?, callToken, dropWhile_append_of_stop hfront hstop,
    takeWhile_append_of_stop hfront hstop]
  simp

/-- A plain text is no call. -/
theorem call?_eq_none {cs : List Char} (h : ∀ c ∈ cs, isPlainChar c = true) : call? cs = none := by
  have hfront : ∀ c ∈ cs, (c != '(') = true := bne_of_plain (by decide) h
  have hnone : (cs ++ []).dropWhile (· != '(') = [] := dropWhile_append_of_stop hfront (by simp)
  rw [List.append_nil] at hnone
  rw [call?, hnone]

/-- A call is not cut as long as what its brackets hold is not cut one level deeper. -/
theorem uncut_callToken {depth : Nat} {name : String} {inside : List Char}
    (hname : ∀ c ∈ name.toList, isPlainChar c = true) (h : Uncut (depth + 1) inside) :
    Uncut depth (callToken name inside) := (Uncut.of_plain hname).append h.brackets

/-! ### Colour functions -/

namespace ColorFunction

/-- The spelling of a colour function in a class name. -/
def token (f : ColorFunction) : List Char :=
  callToken f.model.name (['-'].intercalate (f.args.map Numeral.digits))

/-- The names of the colour functions are plain. -/
theorem plain_name (m : ColorModel) : ∀ c ∈ m.name.toList, isPlainChar c = true := by
  cases m <;> decide

/-- The spelling of a colour function is not cut: its hyphens stand inside the brackets. -/
theorem uncut_token (f : ColorFunction) (depth : Nat) : Uncut depth f.token := by
  refine uncut_callToken (plain_name f.model) (.intercalate fun p hp => ?_)
  obtain ⟨n, -, rfl⟩ := List.mem_map.mp hp
  exact .of_plain n.plain_digits

/-- Numbers with hyphens between them are cut at the hyphens. -/
theorem pieces_digits {ns : List Numeral} (hne : ns ≠ []) :
    pieces (· == '-') (['-'].intercalate (ns.map Numeral.digits)) = ns.map Numeral.digits := by
  refine pieces_intercalate_of_plain (by simpa using hne) fun p hp => ?_
  obtain ⟨n, -, rfl⟩ := List.mem_map.mp hp
  exact n.plain_digits

/-- A colour function with three or four arguments is read back from its spelling. -/
theorem ofChars?_token {f : ColorFunction} (h : 3 ≤ f.args.length ∧ f.args.length ≤ 4) :
    ofChars? f.token = some f := by
  have hname : ColorModel.ofName? (String.ofList f.model.name.toList) = some f.model := by
    cases f.model <;> rfl
  have hne : f.args ≠ [] := by
    intro hnil
    rw [hnil] at h
    exact absurd h.1 (by decide)
  rw [ofChars?, token, call?_callToken (plain_name f.model)]
  show (ColorModel.ofName? (String.ofList f.model.name.toList)).bind _ = _
  rw [hname, Option.bind_some, pieces_digits hne,
    mapM_map_eq_some fun n _ => n.ofChars?_digits]
  exact if_pos h

/-- The last argument, of which `fractionPattern` speaks, is spelled like a number. -/
theorem exists_of_matches_fraction {cs : List Char} (h : fractionPattern.Matches cs) :
    ∃ n : Numeral, n.digits = cs := by
  have hone : "1".toList = ['1'] := by decide
  have hzero : "0".toList = ['0'] := by decide
  rcases h with (h | ⟨_, _, rfl, h, d, hd, rfl⟩) | h
  all_goals obtain rfl := Pattern.matches_text.mp h
  · exact ⟨⟨"1".toList, by decide, by decide⟩, rfl⟩
  · refine ⟨⟨"0".toList ++ [d], by simp, ?_⟩, rfl⟩
    rw [hzero]
    simp [hd]
  · exact ⟨⟨"0".toList, by decide, by decide⟩, rfl⟩

/-- The names of the colour functions. -/
theorem exists_model {cs : List Char}
    (h : (Pattern.anyText ["rgb", "hsl"] ++ Pattern.optional (Pattern.text "a")).Matches cs) :
    ∃ m : ColorModel, m.name.toList = cs := by
  obtain ⟨_, _, rfl, hmodel, halpha⟩ := h
  obtain ⟨name, hname, rfl⟩ := Pattern.matches_anyText.mp hmodel
  simp only [List.mem_cons, List.not_mem_nil, or_false] at hname
  rcases halpha with halpha | rfl
  · obtain rfl := Pattern.matches_text.mp halpha
    rcases hname with rfl | rfl
    · exact ⟨.rgba, by decide⟩
    · exact ⟨.hsla, by decide⟩
  · rcases hname with rfl | rfl
    · exact ⟨.rgb, by decide⟩
    · exact ⟨.hsl, by decide⟩

/-- What `pattern` describes is the spelling of a colour function with three or four arguments. -/
theorem exists_of_matches {cs : List Char} (h : pattern.Matches cs) :
    ∃ f : ColorFunction, (3 ≤ f.args.length ∧ f.args.length ≤ 4) ∧ f.token = cs := by
  have hopening : "(".toList = ['('] := by decide
  -- a name, three numbers and perhaps a fraction, with fixed texts between them
  obtain ⟨_, _, rfl, ⟨_, last, rfl, ⟨_, _, rfl, ⟨_, _, rfl, ⟨_, _, rfl, ⟨_, _, rfl, ⟨_, _, rfl,
    ⟨_, _, rfl, hname, hopen⟩, ha⟩, hab⟩, hb⟩, hbc⟩, hc⟩, hlast⟩, hclose⟩ := h
  obtain rfl := Pattern.matches_text.mp hopen
  obtain rfl := Pattern.matches_text.mp hab
  obtain rfl := Pattern.matches_text.mp hbc
  obtain rfl := Pattern.matches_text.mp hclose
  obtain ⟨m, rfl⟩ := exists_model hname
  obtain ⟨a, rfl⟩ := Numeral.exists_of_matches ha
  obtain ⟨b, rfl⟩ := Numeral.exists_of_matches hb
  obtain ⟨c, rfl⟩ := Numeral.exists_of_matches hc
  rcases hlast with ⟨_, _, rfl, hcd, hd⟩ | rfl
  · -- the fourth argument is a fraction, and so a number
    obtain rfl := Pattern.matches_text.mp hcd
    obtain ⟨d, rfl⟩ := exists_of_matches_fraction hd
    refine ⟨⟨m, [a, b, c, d]⟩, by simp, ?_⟩
    simp [token, callToken, List.intercalate_cons_cons, hopening, toList_hyphen, toList_closing]
  · refine ⟨⟨m, [a, b, c]⟩, by simp, ?_⟩
    simp [token, callToken, List.intercalate_cons_cons, hopening, toList_hyphen, toList_closing]

end ColorFunction

/-! ### Tracks -/

namespace Track

/-- The spelling of a track in a class name. -/
def token : Track → List Char
  | length d => d.token
  | minMax least greatest => callToken "minmax" (least.token ++ '-' :: greatest.token)
  | fitContent d => callToken "fitcontent" d.token

/-- Whether every length of a track has a unit. -/
def HasUnits : Track → Prop
  | length d | fitContent d => d.unit.isSome = true
  | minMax least greatest => least.unit.isSome = true ∧ greatest.unit.isSome = true

/-- The names of the calls that are tracks are plain. -/
theorem plain_name : (∀ c ∈ "minmax".toList, isPlainChar c = true) ∧
    ∀ c ∈ "fitcontent".toList, isPlainChar c = true := by decide

/-- The spelling of a track is not cut: its only hyphen stands inside `minmax`. -/
theorem uncut_token (t : Track) (depth : Nat) : Uncut depth t.token := by
  cases t with
  | length d => exact d.uncut_token depth
  | minMax least greatest =>
    have hhyphen : Uncut (depth + 1) ['-'] := .singleton (by decide) (by decide) (by simp)
    exact uncut_callToken plain_name.1
      ((least.uncut_token _).append (hhyphen.append (greatest.uncut_token _)))
  | fitContent d => exact uncut_callToken plain_name.2 (d.uncut_token _)

/-- The two bounds of `minmax` are told apart at the hyphen between them. -/
theorem minMaxOfChars?_token {least greatest : Dimension} (hl : least.unit.isSome = true)
    (hg : greatest.unit.isSome = true) :
    minMaxOfChars? (least.token ++ '-' :: greatest.token) = some (minMax least greatest) := by
  have hfront : ∀ c ∈ least.token, (c != '-') = true := bne_of_plain (by decide) least.plain_token
  have hstop : ∀ c ∈ ('-' :: greatest.token).head?, (c != '-') = false := by simp
  rw [minMaxOfChars?, dropWhile_append_of_stop hfront hstop, takeWhile_append_of_stop hfront hstop]
  simp [Dimension.lengthOfChars?_token hl, Dimension.lengthOfChars?_token hg]

/-- A track all of whose lengths have a unit is read back from its spelling. -/
theorem ofChars?_token {t : Track} (h : t.HasUnits) : ofChars? t.token = some t := by
  cases t with
  | length d =>
    rw [ofChars?, token, call?_eq_none d.plain_token]
    dsimp only
    rw [Dimension.lengthOfChars?_token h]
    rfl
  | minMax least greatest =>
    rw [ofChars?, token, call?_callToken plain_name.1]
    exact (if_pos rfl).trans (minMaxOfChars?_token h.1 h.2)
  | fitContent d =>
    rw [ofChars?, token, call?_callToken plain_name.2]
    dsimp only
    rw [if_neg (by decide), if_pos rfl, Dimension.lengthOfChars?_token h]
    rfl

/-- What `fitContentPattern` describes is the spelling of such a track. -/
theorem exists_of_matches_fitContent {cs : List Char} (h : fitContentPattern.Matches cs) :
    ∃ d : Dimension, d.unit.isSome = true ∧ (fitContent d).token = cs := by
  have hopening : "fitcontent(".toList = "fitcontent".toList ++ ['('] := by decide
  obtain ⟨_, _, rfl, ⟨_, _, rfl, hopen, hd⟩, hclose⟩ := h
  obtain rfl := Pattern.matches_text.mp hopen
  obtain rfl := Pattern.matches_text.mp hclose
  obtain ⟨d, hunit, rfl⟩ := Dimension.exists_of_matches_length hd
  refine ⟨d, hunit, ?_⟩
  rw [token, callToken, hopening, toList_closing]
  simp

/-- What `minMaxPattern` describes is the spelling of such a track, with a unit on both bounds. -/
theorem exists_of_matches_minMax {cs : List Char} (h : minMaxPattern.Matches cs) :
    ∃ least greatest : Dimension, (minMax least greatest).HasUnits ∧
      (minMax least greatest).token = cs := by
  have hopening : "minmax(".toList = "minmax".toList ++ ['('] := by decide
  -- the sequence falls into its five parts, of which three are fixed texts
  obtain ⟨_, _, rfl, ⟨_, _, rfl, ⟨_, _, rfl, ⟨_, _, rfl, hopen, hleast⟩, hbetween⟩, hgreatest⟩,
    hclose⟩ := h
  obtain rfl := Pattern.matches_text.mp hopen
  obtain rfl := Pattern.matches_text.mp hbetween
  obtain rfl := Pattern.matches_text.mp hclose
  obtain ⟨least, hl, rfl⟩ := Dimension.exists_of_matches_length hleast
  obtain ⟨greatest, hg, rfl⟩ := Dimension.exists_of_matches_length hgreatest
  refine ⟨least, greatest, ⟨hl, hg⟩, ?_⟩
  rw [token, callToken, hopening, toList_hyphen, toList_closing]
  simp

/-- The first track of a template, which is no plain length. -/
theorem exists_of_matches_call {cs : List Char}
    (h : (fitContentPattern ||| minMaxPattern).Matches cs) :
    ∃ t : Track, (∀ d, t ≠ length d) ∧ t.HasUnits ∧ t.token = cs := by
  rcases h with h | h
  · obtain ⟨d, hd, rfl⟩ := exists_of_matches_fitContent h
    exact ⟨fitContent d, by simp, hd, rfl⟩
  · obtain ⟨least, greatest, ht, rfl⟩ := exists_of_matches_minMax h
    exact ⟨minMax least greatest, by simp, ht, rfl⟩

/-- What `pattern` describes is the spelling of a track all of whose lengths have a unit. -/
theorem exists_of_matches {cs : List Char} (h : pattern.Matches cs) :
    ∃ t : Track, t.HasUnits ∧ t.token = cs := by
  rcases h with (h | h) | h
  · obtain ⟨d, hd, rfl⟩ := Dimension.exists_of_matches_length h
    exact ⟨length d, hd, rfl⟩
  · obtain ⟨t, -, ht⟩ := exists_of_matches_call (Or.inl h)
    exact ⟨t, ht⟩
  · obtain ⟨t, -, ht⟩ := exists_of_matches_call (Or.inr h)
    exact ⟨t, ht⟩

end Track

/-! ### Templates -/

namespace RepeatCount

/-- The spelling of a count in a class name. -/
def token : RepeatCount → List Char
  | times n => n.digits
  | autoFill => "autofill".toList
  | autoFit => "autofit".toList

/-- A count is spelled with plain characters. -/
theorem plain_token (count : RepeatCount) : ∀ c ∈ count.token, isPlainChar c = true := by
  cases count with
  | times n => exact n.plain_digits
  | autoFill => decide
  | autoFit => decide

/-- A count is read back from its spelling, as no number is one of the two words. -/
theorem ofChars?_token (count : RepeatCount) : ofChars? count.token = some count := by
  cases count with
  | times n =>
    have hfill : n.digits ≠ "autofill".toList := n.digits_ne (by decide)
    have hfit : n.digits ≠ "autofit".toList := n.digits_ne (by decide)
    show ofChars? n.digits = some (times n)
    rw [ofChars?, if_neg hfill, if_neg hfit, n.ofChars?_digits, Option.map_some]
  | autoFill => exact if_pos rfl
  | autoFit => exact (if_neg (by decide)).trans (if_pos rfl)

/-- What `pattern` describes is the spelling of a count. -/
theorem exists_of_matches {cs : List Char} (h : pattern.Matches cs) :
    ∃ count : RepeatCount, count.token = cs := by
  rcases h with h | h
  · obtain ⟨n, rfl⟩ := Numeral.exists_of_matches h
    exact ⟨times n, rfl⟩
  · obtain ⟨word, hword, rfl⟩ := Pattern.matches_anyText.mp h
    simp only [List.mem_cons, List.not_mem_nil, or_false] at hword
    rcases hword with rfl | rfl
    · exact ⟨autoFill, rfl⟩
    · exact ⟨autoFit, rfl⟩

end RepeatCount

namespace GridEntry

/-- The spelling of an entry in a class name. -/
def token : GridEntry → List Char
  | track t => t.token
  | repeated count tracks =>
    callToken "repeat" (['-'].intercalate (count.token :: tracks.map Track.token))

/-- Whether every length of an entry has a unit, and a repeated group has a track. -/
def HasUnits : GridEntry → Prop
  | track t => t.HasUnits
  | repeated _ tracks => tracks ≠ [] ∧ ∀ t ∈ tracks, t.HasUnits

/-- The name of a repeated group is plain. -/
theorem plain_name : ∀ c ∈ "repeat".toList, isPlainChar c = true := by decide

/-- Neither the count nor the tracks of a repeated group are cut. -/
theorem uncut_parts (count : RepeatCount) (tracks : List Track) (depth : Nat) :
    ∀ p ∈ count.token :: tracks.map Track.token, Uncut depth p := by
  refine List.forall_mem_cons.mpr ⟨.of_plain count.plain_token, fun p hp => ?_⟩
  obtain ⟨t, -, rfl⟩ := List.mem_map.mp hp
  exact t.uncut_token depth

/-- The spelling of an entry is not cut: the hyphens of a group stand inside its brackets. -/
theorem uncut_token (e : GridEntry) (depth : Nat) : Uncut depth e.token := by
  cases e with
  | track t => exact t.uncut_token depth
  | repeated count tracks =>
    exact uncut_callToken plain_name (.intercalate (uncut_parts count tracks (depth + 1)))

/-- The count and the tracks of a group are read back from what its brackets hold. -/
theorem repeatedOfChars?_token {count : RepeatCount} {tracks : List Track} (hne : tracks ≠ [])
    (h : ∀ t ∈ tracks, t.HasUnits) :
    repeatedOfChars? (['-'].intercalate (count.token :: tracks.map Track.token)) =
      some (repeated count tracks) := by
  obtain ⟨t, ts, rfl⟩ := List.exists_cons_of_ne_nil hne
  have htracks : ((t :: ts).map Track.token).mapM Track.ofChars? = some (t :: ts) :=
    mapM_map_eq_some fun t ht => Track.ofChars?_token (h t ht)
  -- the count and the tracks are the pieces, as the hyphens of a track stand inside its brackets
  rw [repeatedOfChars?, outerPieces_intercalate (List.cons_ne_nil _ _) (uncut_parts count _ 0)]
  show (RepeatCount.ofChars? count.token).bind (fun _ => (((t :: ts).map Track.token).mapM
    Track.ofChars?).bind _) = _
  rw [count.ofChars?_token, htracks]
  rfl

/-- An entry all of whose lengths have a unit is read back from its spelling. -/
theorem ofChars?_token {e : GridEntry} (h : e.HasUnits) : ofChars? e.token = some e := by
  cases e with
  | track t =>
    have htrack : (Track.ofChars? t.token).map track = some (track t) := by
      rw [Track.ofChars?_token h]
      rfl
    -- whatever call the track is, it is no group
    rw [ofChars?, token]
    cases t with
    | length d =>
      rw [Track.token, call?_eq_none d.plain_token]
      exact htrack
    | minMax least greatest =>
      rw [Track.token, call?_callToken Track.plain_name.1]
      exact (if_neg (by decide)).trans htrack
    | fitContent d =>
      rw [Track.token, call?_callToken Track.plain_name.2]
      exact (if_neg (by decide)).trans htrack
  | repeated count tracks =>
    rw [ofChars?, token, call?_callToken plain_name]
    exact (if_pos rfl).trans (repeatedOfChars?_token h.1 h.2)

/-- The tracks of a repeated group. -/
theorem exists_of_matches_group {cs : List Char}
    (h : (Pattern.separated (Pattern.text "-") Dimension.lengthPattern |||
      Track.minMaxPattern).Matches cs) :
    ∃ tracks : List Track, tracks ≠ [] ∧ (∀ t ∈ tracks, t.HasUnits) ∧
      ['-'].intercalate (tracks.map Track.token) = cs := by
  rcases h with h | h
  · obtain ⟨ts, hne, rfl, hts⟩ := Pattern.exists_intercalate_of_matches (x := '-') (by decide) h
    obtain ⟨tracks, hunits, rfl⟩ : ∃ tracks : List Track, (∀ t ∈ tracks, t.HasUnits) ∧
        tracks.map Track.token = ts := by
      refine exists_map_eq fun t ht => ?_
      obtain ⟨d, hd, rfl⟩ := Dimension.exists_of_matches_length (hts t ht)
      exact ⟨.length d, hd, rfl⟩
    exact ⟨tracks, by simpa using hne, hunits, rfl⟩
  · obtain ⟨least, greatest, ht, rfl⟩ := Track.exists_of_matches_minMax h
    exact ⟨[.minMax least greatest], by simp, by simpa using ht, by simp⟩

/-- What the second half of `templatePattern` describes is the spelling of a repeated group. -/
theorem exists_of_matches_repeated {cs : List Char}
    (h : (Pattern.text "repeat(" ++ RepeatCount.pattern ++ Pattern.text "-" ++
      (Pattern.separated (Pattern.text "-") Dimension.lengthPattern ||| Track.minMaxPattern) ++
      Pattern.text ")").Matches cs) :
    ∃ count tracks, (repeated count tracks).HasUnits ∧ (repeated count tracks).token = cs := by
  have hopening : "repeat(".toList = "repeat".toList ++ ['('] := by decide
  -- the sequence falls into its five parts, of which three are fixed texts
  obtain ⟨_, _, rfl, ⟨_, _, rfl, ⟨_, _, rfl, ⟨_, _, rfl, hopen, hcount⟩, hsep⟩, htracks⟩,
    hclose⟩ := h
  obtain rfl := Pattern.matches_text.mp hopen
  obtain rfl := Pattern.matches_text.mp hsep
  obtain rfl := Pattern.matches_text.mp hclose
  obtain ⟨count, rfl⟩ := RepeatCount.exists_of_matches hcount
  obtain ⟨tracks, hne, hunits, rfl⟩ := exists_of_matches_group htracks
  refine ⟨count, tracks, ⟨hne, hunits⟩, ?_⟩
  rw [token, callToken, hopening, toList_hyphen, toList_closing,
    List.intercalate_cons_of_ne_nil (by simpa using hne)]
  simp

end GridEntry

end ClassSheet.Css
