import ClassSheet.Proofs.Css.Accepted
import ClassSheet.Proofs.Css.Keys
import ClassSheet.Proofs.Css.Parts

/-! # Spelling of values

A value that is no keyword has one spelling in a class name (`Value.token`). Tokens of a shape other
than a plain text are exactly the spellings of such values: what a pattern describes is the spelling
of a value (`Value.exists_of_matches`), and the spelling is read back as the value
(`Value.ofShape?_token`). -/

namespace ClassSheet.Css

open ClassSheet.Text

/-! ### Words -/

/-- A word of at least `n` lower-case letters. -/
def IsWord (n : Nat) (w : List Char) : Prop := n ≤ w.length ∧ ∀ c ∈ w, c.isLower = true

/-- A number of letters makes a word of that length. -/
theorem isWord_of_matches_times {n : Nat} {w : List Char}
    (h : (Pattern.times n Pattern.lower).Matches w) : IsWord n w := by
  induction n generalizing w with
  | zero =>
    obtain rfl : w = [] := h
    exact ⟨Nat.le_refl 0, fun _ hc => nomatch hc⟩
  | succ n ih =>
    obtain ⟨_, t, rfl, ⟨c, hc, rfl⟩, ht⟩ := h
    obtain ⟨hlength, hlower⟩ := ih ht
    exact ⟨Nat.succ_le_succ hlength, List.forall_mem_cons.mpr ⟨hc, hlower⟩⟩

/-- At least so many letters make a word. -/
theorem isWord_of_matches {n : Nat} {w : List Char}
    (h : (Pattern.atLeast n Pattern.lower).Matches w) : IsWord n w := by
  obtain ⟨front, rest, rfl, hfront, hrest⟩ := h
  obtain ⟨hlength, hlower⟩ := isWord_of_matches_times hfront
  refine ⟨?_, List.forall_mem_append.mpr ⟨hlower, Pattern.matches_many_one.mp hrest⟩⟩
  rw [List.length_append]
  omega

/-- A long word is a short one as well. -/
theorem IsWord.mono {m n : Nat} {w : List Char} (h : IsWord n w) (hmn : m ≤ n) : IsWord m w :=
  ⟨Nat.le_trans hmn h.1, h.2⟩

/-- A word that is not empty has a first letter. -/
theorem IsWord.exists_cons {n : Nat} {w : List Char} (h : IsWord (n + 1) w) :
    ∃ c cs, w = c :: cs ∧ c.isLower = true := by
  obtain ⟨c, cs, rfl⟩ := List.exists_cons_of_length_pos (Nat.lt_of_lt_of_le n.succ_pos h.1)
  exact ⟨c, cs, rfl, h.2 c List.mem_cons_self⟩

/-- Words are plain texts. -/
theorem IsWord.plain {n : Nat} {w : List Char} (h : IsWord n w) :
    ∀ c ∈ w, isPlainChar c = true := by
  intro c hc
  rw [isPlainChar, h.2 c hc, Bool.true_or]

/-! ### Colours -/

namespace Color

/-- The spelling of a colour in a class name. -/
def token : Color → List Char
  | keyword name => (Keyword.key name).toList
  | hex digits => digits.toList
  | function f => f.token
  | raw word => word.toList

/-- A colour as it may stand in a border: a word is a keyword only if there is such a colour. -/
inductive IsSpelled : Color → Prop
  | keyword {w : List Char} {name : String} (hw : IsWord 1 w)
    (hname : Keyword.color? (String.ofList w) = some name) : IsSpelled (.keyword name)
  | hex {digits : String} (h : hexPattern.Matches digits.toList) : IsSpelled (.hex digits)
  | function {f : ColorFunction} (h : 3 ≤ f.args.length ∧ f.args.length ≤ 4) :
    IsSpelled (.function f)
  | raw {w : List Char} (hw : IsWord 1 w) (hnone : Keyword.color? (String.ofList w) = none) :
    IsSpelled (.raw (String.ofList w))

/-- The keyword of a word is spelled as the word, although the table may write it with hyphens. -/
theorem token_keyword {w : List Char} {name : String} (hw : IsWord 1 w)
    (hname : Keyword.color? (String.ofList w) = some name) : (keyword name).token = w := by
  rw [token, Keyword.key_of_find? hname, Keyword.key_ofList hw.2, String.toList_ofList]

/-- A word stands for a colour only if there is a keyword for it. -/
theorem ofToken?_word {w : List Char} (hw : IsWord 1 w) :
    ofToken? (String.ofList w) = (Keyword.color? (String.ofList w)).map keyword := by
  have hhash : w.head? ≠ some '#' := fun hhead =>
    not_mem_of_plain (by decide) hw.plain (List.mem_of_head? hhead)
  have hopen : w.contains '(' = false := by
    have hnot : '(' ∉ w := not_mem_of_plain (by decide) hw.plain
    simpa using hnot
  rw [ofToken?, String.toList_ofList, if_neg hhash, hopen]
  rfl

/-- A colour is read back from its spelling, a word that is no keyword included. -/
theorem ofToken?_token {c : Color} (h : c.IsSpelled) :
    (ofToken? (String.ofList c.token)).getD (raw (String.ofList c.token)) = c := by
  cases h with
  | keyword hw hname =>
    rw [token_keyword hw hname, ofToken?_word hw, hname]
    rfl
  | @hex digits h =>
    -- the sign in front marks a hexadecimal colour
    have hhead : digits.toList.head? = some '#' := by
      obtain ⟨_, hdigits⟩ := exists_of_hexPattern h
      rw [hdigits.2]
      rfl
    rw [token, String.ofList_toList, ofToken?, if_pos hhead, if_pos (Pattern.accepts_iff.mpr h)]
    rfl
  | @function f h =>
    -- no sign in front, but a bracket inside, marks a function
    have hhash : f.token.head? ≠ some '#' := by
      obtain ⟨model, args⟩ := f
      cases model <;> simp [ColorFunction.token, callToken, ColorModel.name]
    have hopen : f.token.contains '(' = true := by
      simp [ColorFunction.token, callToken]
    rw [token, ofToken?, String.toList_ofList, if_neg hhash, if_pos hopen,
      ColorFunction.ofChars?_token h]
    rfl
  | raw hw hnone =>
    rw [token, String.toList_ofList, ofToken?_word hw, hnone]
    rfl

/-- The spelling of a colour is not cut: only the arguments of a function have hyphens. -/
theorem uncut_token {c : Color} (h : c.IsSpelled) (depth : Nat) : Uncut depth c.token := by
  cases h with
  | keyword hw hname =>
    rw [token_keyword hw hname]
    exact .of_plain hw.plain
  | hex h =>
    have havoids : hexPattern.avoidsAll ['-', '(', ')'] = true := by decide +kernel
    refine .of_forall fun c hc => ?_
    have hnot := Pattern.not_mem_of_avoidsAll havoids h c hc
    simp only [List.mem_cons, List.not_mem_nil, or_false, not_or] at hnot
    exact ⟨hnot.2.1, hnot.2.2, fun heq => absurd heq hnot.1⟩
  | @function f _ => exact f.uncut_token depth
  | @raw w hw _ =>
    rw [token, String.toList_ofList]
    exact .of_plain hw.plain

/-- The colour of a border is the spelling of a colour. -/
theorem exists_of_matches {cs : List Char}
    (h : (hexPattern ||| ColorFunction.pattern ||| Pattern.atLeast 3 Pattern.lower).Matches cs) :
    ∃ c : Color, c.IsSpelled ∧ c.token = cs := by
  rcases h with (h | h) | h
  · exact ⟨hex (String.ofList cs), .hex (by rwa [String.toList_ofList]), String.toList_ofList⟩
  · obtain ⟨f, hlength, rfl⟩ := ColorFunction.exists_of_matches h
    exact ⟨function f, .function hlength, rfl⟩
  · have hw : IsWord 1 cs := (isWord_of_matches h).mono (by decide)
    cases hcolor : Keyword.color? (String.ofList cs) with
    | some name => exact ⟨keyword name, .keyword hw hcolor, token_keyword hw hcolor⟩
    | none => exact ⟨raw (String.ofList cs), .raw hw hcolor, String.toList_ofList⟩

end Color

/-! ### Values -/

/-- The shape whose pattern comes first among those of the tokens that are read like this. -/
def Shape.reading : Shape → Shape
  | fraction => numbers
  | shape => shape

namespace Value

/-- The shape of the tokens that stand for such a value. A fraction is a number as well. -/
def shape : Value → Shape
  | lengths _ => .lengths
  | numbers _ => .numbers
  | negative _ => .negative
  | hexColor _ => .hexColor
  | colorFunction _ => .colorFunction
  | calculation _ _ _ => .calculation
  | grid _ => .grid
  | border _ _ _ => .border
  | keyword _ => .text

/-- The spelling of a value in a class name. -/
def token : Value → List Char
  | lengths ds => ['-'].intercalate (ds.map Dimension.token)
  | numbers ns => ['-'].intercalate (ns.map Numeral.digits)
  | negative d => "mn".toList ++ d.token
  | hexColor digits => digits.toList
  | colorFunction f => f.token
  | calculation left op right =>
    callToken "calc" (['-'].intercalate [left.token, op.code.toList, right.token])
  | grid entries => ['-'].intercalate (entries.map GridEntry.token)
  | border width style color =>
    ['-'].intercalate ([width.token, (Keyword.key style).toList] ++ (color.map Color.token).toList)
  | keyword word => word.toList

/-- A value as it may be spelled out in a token. -/
inductive IsSpelled : Value → Prop
  | lengths {ds : List Dimension} (nonempty : ds ≠ []) (unit : ∀ d ∈ ds, d.unit.isSome = true) :
    IsSpelled (.lengths ds)
  | numbers {ns : List Numeral} (nonempty : ns ≠ []) : IsSpelled (.numbers ns)
  | negative (d : Dimension) : IsSpelled (.negative d)
  | hexColor {digits : String} (h : Color.hexPattern.Matches digits.toList) :
    IsSpelled (.hexColor digits)
  | colorFunction {f : ColorFunction} (h : 3 ≤ f.args.length ∧ f.args.length ≤ 4) :
    IsSpelled (.colorFunction f)
  | calculation (left : Dimension) (op : Operator) (right : Dimension) :
    IsSpelled (.calculation left op right)
  | grid {entries : List GridEntry} (nonempty : entries ≠ [])
    (units : ∀ e ∈ entries, e.HasUnits) (opens : ∀ d, entries.head? ≠ some (.track (.length d))) :
    IsSpelled (.grid entries)
  | border {width : Dimension} {w : List Char} {color : Option Color}
    (unit : width.unit.isSome = true) (word : IsWord 1 w) (spelled : ∀ c ∈ color, c.IsSpelled) :
    IsSpelled (.border width
      ((Keyword.borderStyle? (String.ofList w)).getD (String.ofList w)) color)

/-- The style of a border is spelled as its word, hyphens or not. -/
theorem key_style {w : List Char} (hw : IsWord 1 w) :
    (Keyword.key ((Keyword.borderStyle? (String.ofList w)).getD (String.ofList w))).toList = w := by
  have hkey := Keyword.key_ofList hw.2
  cases hstyle : Keyword.borderStyle? (String.ofList w) with
  | none => rw [Option.getD_none, hkey, String.toList_ofList]
  | some style => rw [Option.getD_some, Keyword.key_of_find? hstyle, hkey, String.toList_ofList]

/-- A calculation is read back from its spelling: its brackets hold three pieces. -/
theorem calculationOfChars?_token (left : Dimension) (op : Operator) (right : Dimension) :
    calculationOfChars? (calculation left op right).token = some (calculation left op right) := by
  have hpieces : pieces (· == '-') (['-'].intercalate [left.token, op.code.toList, right.token]) =
      [left.token, op.code.toList, right.token] := by
    refine pieces_intercalate_of_plain (List.cons_ne_nil _ _) ?_
    simp only [List.forall_mem_cons]
    exact ⟨left.plain_token, op.plain_code, right.plain_token, fun _ h => nomatch h⟩
  have hcalc : ∀ c ∈ "calc".toList, isPlainChar c = true := by decide
  rw [calculationOfChars?, token, call?_callToken hcalc, Option.bind_eq_bind, Option.bind_some]
  dsimp only
  rw [if_pos rfl, hpieces]
  simp [left.ofChars?_token, right.ofChars?_token, op.ofCode?_code]

/-- A border is read back from its spelling, with or without a colour. -/
theorem borderOfChars?_token {width : Dimension} {w : List Char} {color : Option Color}
    (hunit : width.unit.isSome = true) (hw : IsWord 1 w) (hcolor : ∀ c ∈ color, c.IsSpelled) :
    borderOfChars? (['-'].intercalate ([width.token, w] ++ (color.map Color.token).toList)) =
      some (border width ((Keyword.borderStyle? (String.ofList w)).getD (String.ofList w))
        color) := by
  have hwidth := Dimension.lengthOfChars?_token hunit
  -- two pieces without a colour and three with one, as no part is cut
  cases color with
  | none =>
    have hpieces : outerPieces 0 (['-'].intercalate [width.token, w]) = [width.token, w] := by
      refine outerPieces_intercalate (List.cons_ne_nil _ _) ?_
      simp only [List.forall_mem_cons]
      exact ⟨width.uncut_token 0, .of_plain hw.plain, fun _ h => nomatch h⟩
    show borderOfChars? (['-'].intercalate [width.token, w]) = _
    rw [borderOfChars?, hpieces]
    simp [borderOfParts?, hwidth]
  | some c =>
    have hc := hcolor c rfl
    have hpieces : outerPieces 0 (['-'].intercalate [width.token, w, c.token]) =
        [width.token, w, c.token] := by
      refine outerPieces_intercalate (List.cons_ne_nil _ _) ?_
      simp only [List.forall_mem_cons]
      exact ⟨width.uncut_token 0, .of_plain hw.plain, Color.uncut_token hc 0, fun _ h => nomatch h⟩
    show borderOfChars? (['-'].intercalate [width.token, w, c.token]) = _
    rw [borderOfChars?, hpieces]
    simp [borderOfParts?, hwidth, Color.ofToken?_token hc]

/-- The spelling of a value is read back as the value. -/
theorem ofShape?_token {v : Value} (h : v.IsSpelled) :
    ofShape? (String.ofList v.token) v.shape = some v := by
  -- in each case the pieces of the spelling are those that it was joined from
  cases h with
  | @lengths ds hne hunit =>
    have hpieces : pieces (· == '-') (['-'].intercalate (ds.map Dimension.token)) =
        ds.map Dimension.token := by
      refine pieces_intercalate_of_plain (by simpa using hne) fun p hp => ?_
      obtain ⟨d, -, rfl⟩ := List.mem_map.mp hp
      exact d.plain_token
    rw [shape, ofShape?, String.toList_ofList, token, hpieces,
      mapM_map_eq_some fun d hd => Dimension.lengthOfChars?_token (hunit d hd)]
    rfl
  | numbers hne =>
    rw [shape, ofShape?, String.toList_ofList, token, ColorFunction.pieces_digits hne,
      mapM_map_eq_some fun n _ => n.ofChars?_digits]
    rfl
  | negative d =>
    have htoken : (String.ofList (negative d).token).toList = "mn".toList ++ d.token :=
      String.toList_ofList
    have hlead : afterLead? "mn".toList ("mn".toList ++ d.token) = some d.token :=
      afterLead?_eq_some_iff.mpr rfl
    rw [shape, ofShape?, htoken, hlead]
    simp [d.ofChars?_token]
  | hexColor h =>
    rw [shape, ofShape?, token, String.ofList_toList]
  | @colorFunction f h =>
    rw [shape, ofShape?, String.toList_ofList, token, ColorFunction.ofChars?_token h]
    rfl
  | calculation left op right =>
    rw [shape, ofShape?, String.toList_ofList]
    exact calculationOfChars?_token left op right
  | @grid entries hne hunits hopens =>
    have hpieces : outerPieces 0 (['-'].intercalate (entries.map GridEntry.token)) =
        entries.map GridEntry.token := by
      refine outerPieces_intercalate (by simpa using hne) fun p hp => ?_
      obtain ⟨e, -, rfl⟩ := List.mem_map.mp hp
      exact e.uncut_token 0
    rw [shape, ofShape?, String.toList_ofList, token, hpieces,
      mapM_map_eq_some fun e he => GridEntry.ofChars?_token (hunits e he)]
    rfl
  | border hunit hw hcolor =>
    rw [shape, ofShape?, String.toList_ofList, token, key_style hw]
    exact borderOfChars?_token hunit hw hcolor

/-! ### From patterns to values -/

/-- A list of digits is the spelling of numbers. -/
theorem exists_digits {ts : List (List Char)} (h : ∀ t ∈ ts, Pattern.digits.Matches t) :
    ∃ ns : List Numeral, ns.map Numeral.digits = ts := by
  obtain ⟨ns, -, hns⟩ := exists_map_eq (P := fun _ => True) (f := Numeral.digits) fun t ht =>
    (Numeral.exists_of_matches (h t ht)).imp fun _ hn => ⟨trivial, hn⟩
  exact ⟨ns, hns⟩

/-- A list of lengths is the spelling of dimensions with units. -/
theorem exists_lengths {cs : List Char}
    (h : (Pattern.separated (Pattern.text "-") Dimension.lengthPattern).Matches cs) :
    ∃ ds : List Dimension, ds ≠ [] ∧ (∀ d ∈ ds, d.unit.isSome = true) ∧
      ['-'].intercalate (ds.map Dimension.token) = cs := by
  obtain ⟨ts, hne, rfl, hts⟩ := Pattern.exists_intercalate_of_matches (x := '-') (by decide) h
  obtain ⟨ds, hunits, rfl⟩ :=
    exists_map_eq fun t ht => Dimension.exists_of_matches_length (hts t ht)
  exact ⟨ds, by simpa using hne, hunits, rfl⟩

/-- A width is a number with a unit; that the number may be a fraction adds nothing. -/
theorem exists_width {cs : List Char}
    (h : ((ColorFunction.fractionPattern ||| Pattern.digits) ++ LengthUnit.pattern).Matches cs) :
    ∃ d : Dimension, d.unit.isSome = true ∧ d.token = cs := by
  obtain ⟨digits, _, rfl, hdigits, hunit⟩ := h
  obtain ⟨u, rfl⟩ := exists_code_eq hunit
  obtain ⟨n, rfl⟩ : ∃ n : Numeral, n.digits = digits := by
    rcases hdigits with hdigits | hdigits
    · exact ColorFunction.exists_of_matches_fraction hdigits
    · exact Numeral.exists_of_matches hdigits
  exact ⟨⟨n, some u⟩, rfl, rfl⟩

/-- What `borderPattern` describes is the spelling of a border. -/
theorem exists_border {cs : List Char} (h : Shape.borderPattern.Matches cs) :
    ∃ v : Value, v.IsSpelled ∧ v.shape = .border ∧ v.token = cs := by
  -- a width, a style and perhaps a colour, with hyphens between them
  obtain ⟨_, _, rfl, ⟨_, w, rfl, ⟨_, _, rfl, hwidth, hfirst⟩, hword⟩, hrest⟩ := h
  obtain rfl := Pattern.matches_text.mp hfirst
  obtain ⟨width, hunit, rfl⟩ := exists_width hwidth
  -- that a style has four letters is more than its spelling needs
  have hw : IsWord 1 w := (isWord_of_matches hword).mono (by decide)
  rcases hrest with ⟨_, c, rfl, hsecond, hcolor⟩ | rfl
  · obtain rfl := Pattern.matches_text.mp hsecond
    obtain ⟨color, hspelled, rfl⟩ := Color.exists_of_matches hcolor
    have hv : (border width _ (some color)).IsSpelled :=
      .border hunit hw (by simpa using hspelled)
    refine ⟨_, hv, rfl, ?_⟩
    rw [token, key_style hw, toList_hyphen]
    simp [List.intercalate_cons_cons]
  · have hv : (border width _ none).IsSpelled := .border hunit hw (fun _ h => nomatch h)
    refine ⟨_, hv, rfl, ?_⟩
    rw [token, key_style hw, toList_hyphen]
    simp [List.intercalate_cons_cons]

/-- What `templatePattern` describes is the spelling of a template. -/
theorem exists_template {cs : List Char} (h : GridEntry.templatePattern.Matches cs) :
    ∃ entries : List GridEntry, (grid entries).IsSpelled ∧ (grid entries).token = cs := by
  rcases h with ⟨_, _, rfl, hfirst, parts, rfl, hparts⟩ | h
  · obtain ⟨first, hcall, hunits, rfl⟩ := Track.exists_of_matches_call hfirst
    -- each further track has its hyphen in front
    obtain ⟨rest, hrest, rfl⟩ : ∃ rest : List Track, (∀ t ∈ rest, t.HasUnits) ∧
        rest.map (['-'] ++ ·.token) = parts := by
      refine exists_map_eq fun part hpart => ?_
      obtain ⟨_, _, rfl, hsep, htrack⟩ := hparts part hpart
      obtain rfl := Pattern.matches_text.mp hsep
      obtain ⟨t, ht, rfl⟩ := Track.exists_of_matches htrack
      exact ⟨t, ht, by rw [toList_hyphen]⟩
    refine ⟨(first :: rest).map .track, .grid (by simp) ?_ (by simpa using hcall), ?_⟩
    · simp only [List.forall_mem_map, List.forall_mem_cons]
      exact ⟨hunits, hrest⟩
    · rw [token, List.map_map, List.map_cons, intercalate_cons_eq, List.flatMap_def, List.map_map]
      rfl
  · obtain ⟨count, tracks, hunits, rfl⟩ := GridEntry.exists_of_matches_repeated h
    exact ⟨[.repeated count tracks], .grid (by simp) (by simpa using hunits) (by simp),
      by simp [token]⟩

/-- What `calculationPattern` describes is the spelling of a calculation. -/
theorem exists_calculation {cs : List Char} (h : Shape.calculationPattern.Matches cs) :
    ∃ left op right, (calculation left op right).token = cs := by
  have hopening : "calc(".toList = "calc".toList ++ ['('] := by decide
  -- two dimensions and an operator, with fixed texts around them
  obtain ⟨_, _, rfl, ⟨_, _, rfl, ⟨_, _, rfl, ⟨_, _, rfl, ⟨_, _, rfl, ⟨_, _, rfl, hopen, hleft⟩,
    hfirst⟩, hop⟩, hsecond⟩, hright⟩, hclose⟩ := h
  obtain rfl := Pattern.matches_text.mp hopen
  obtain rfl := Pattern.matches_text.mp hfirst
  obtain rfl := Pattern.matches_text.mp hsecond
  obtain rfl := Pattern.matches_text.mp hclose
  obtain ⟨left, rfl⟩ := Dimension.exists_of_matches hleft
  obtain ⟨op, rfl⟩ := exists_code_eq hop
  obtain ⟨right, rfl⟩ := Dimension.exists_of_matches hright
  refine ⟨left, op, right, ?_⟩
  rw [token, callToken, hopening, toList_hyphen, toList_closing]
  simp [List.intercalate_cons_cons]

/-- What a pattern describes is the spelling of a value. -/
theorem exists_of_matches {shape : Shape} (hne : shape ≠ .text) {cs : List Char}
    (h : shape.pattern.Matches cs) :
    ∃ v : Value, v.IsSpelled ∧ v.shape = shape.reading ∧ v.token = cs := by
  -- by the shape: a value is found for the parts of its pattern, and it is spelled as the text
  cases shape with
  | border => exact exists_border h
  | grid =>
    obtain ⟨entries, hspelled, rfl⟩ := exists_template h
    exact ⟨_, hspelled, rfl, rfl⟩
  | lengths =>
    obtain ⟨ds, hne, hunits, rfl⟩ := exists_lengths h
    exact ⟨.lengths ds, .lengths hne hunits, rfl, rfl⟩
  | numbers =>
    obtain ⟨ts, hne, rfl, hts⟩ := Pattern.exists_intercalate_of_matches (x := '-') (by decide) h
    obtain ⟨ns, rfl⟩ := exists_digits hts
    exact ⟨.numbers ns, .numbers (by simpa using hne), rfl, rfl⟩
  | fraction =>
    obtain ⟨n, rfl⟩ := ColorFunction.exists_of_matches_fraction h
    exact ⟨.numbers [n], .numbers (List.cons_ne_nil n []), rfl, by simp [token]⟩
  | negative =>
    obtain ⟨_, _, rfl, hsign, hd⟩ := h
    obtain rfl := Pattern.matches_text.mp hsign
    obtain ⟨d, rfl⟩ := Dimension.exists_of_matches hd
    exact ⟨.negative d, .negative d, rfl, rfl⟩
  | calculation =>
    obtain ⟨left, op, right, rfl⟩ := exists_calculation h
    exact ⟨_, .calculation left op right, rfl, rfl⟩
  | colorFunction =>
    obtain ⟨f, hlength, rfl⟩ := ColorFunction.exists_of_matches h
    exact ⟨.colorFunction f, .colorFunction hlength, rfl, rfl⟩
  | hexColor =>
    have hhex : Color.hexPattern.Matches (String.ofList cs).toList := by
      rwa [String.toList_ofList]
    exact ⟨.hexColor (String.ofList cs), .hexColor hhex, rfl, String.toList_ofList⟩
  | text => exact absurd rfl hne

end Value

end ClassSheet.Css
