import ClassSheet.Proofs.Css.Spelling

/-! # Telling shapes apart

The first characters of a token and a few signs in it leave one shape only (`Shape.glance`):
whatever shape a token has, it has the one that a glance tells, or it is a fraction, which is a
number as well (`Shape.glance_of_matches`). So no two other shapes share a token, and the order in
which the shapes are tried does not matter (`Shape.accepts_exclusive`). -/

namespace ClassSheet.Css

open ClassSheet.Text

/-! ### A glance at a token -/

namespace Shape

/-- The shape that follows from what stands behind the unit of a length in front. -/
def glanceBehindUnit : List Char → Shape
  | _ :: c :: _ => if c.isDigit then lengths else border
  | _ => lengths

/-- The shape that follows from what stands behind a number in front. -/
def glanceBehindNumber (rest : List Char) : Shape :=
  if rest = [] ∨ rest.head? = some '-' then numbers
  else glanceBehindUnit (rest.dropWhile (· != '-'))

/-- The shape that follows from the name of a call in front. -/
def glanceAtName (name : List Char) : Shape :=
  if name = "calc".toList then calculation
  else if (ColorModel.ofName? (String.ofList name)).isSome then colorFunction
  else grid

/-- The only shape that a token may have, by its first characters and the signs in it. A fraction is
    taken for a number. -/
def glance (token : List Char) : Shape :=
  if token.head? = some '#' then hexColor
  else if token.head?.any Char.isDigit then glanceBehindNumber (token.dropWhile Char.isDigit)
  else if token.contains '(' then glanceAtName (token.takeWhile (· != '('))
  else if token.any Char.isDigit then negative
  else text

/-- A number in front: what stands behind its digits decides. -/
theorem glance_number (n : Numeral) {rest : List Char}
    (hrest : ∀ c ∈ rest.head?, c.isDigit = false) :
    glance (n.digits ++ rest) = glanceBehindNumber rest := by
  obtain ⟨d, ds, hdigits, hd⟩ := n.exists_cons
  have hhash : d ≠ '#' := by
    rintro rfl
    exact absurd hd (by decide)
  have hhead : (n.digits ++ rest).head? = some d := by rw [hdigits]; rfl
  rw [glance, hhead, if_neg (by simpa using hhash), if_pos (by simpa using hd),
    dropWhile_append_of_stop n.isDigit hrest]

/-- A length in front, with a hyphen or nothing behind it. -/
theorem glance_length {d : Dimension} (hunit : d.unit.isSome = true) {rest : List Char}
    (hrest : ∀ c ∈ rest.head?, c = '-') : glance (d.token ++ rest) = glanceBehindUnit rest := by
  obtain ⟨number, unit⟩ := d
  obtain ⟨u, rfl⟩ := Option.isSome_iff_exists.mp hunit
  have htoken :
      Dimension.token ⟨number, some u⟩ ++ rest = number.digits ++ (u.code.toList ++ rest) :=
    List.append_assoc ..
  -- the unit begins with a letter, so the digits end there and a unit is seen
  have hletter : ∀ c ∈ (u.code.toList ++ rest).head?, c.isDigit = false := by
    cases u <;> simp [LengthUnit.code, LengthUnit.css]
  have hbehind : ¬ (u.code.toList ++ rest = [] ∨ (u.code.toList ++ rest).head? = some '-') := by
    cases u <;> simp [LengthUnit.code, LengthUnit.css]
  -- the unit ends in front of the hyphen
  have hfront : ∀ c ∈ u.code.toList, (c != '-') = true := bne_of_plain (by decide) u.plain_code
  have hstop : ∀ c ∈ rest.head?, (c != '-') = false := fun c hc => by simp [hrest c hc]
  rw [htoken, glance_number number hletter, glanceBehindNumber, if_neg hbehind,
    dropWhile_append_of_stop hfront hstop]

/-- A call in front. -/
theorem glance_call {name : String} (hname : ∀ c ∈ name.toList, isPlainChar c = true)
    (hhead : ∃ c cs, name.toList = c :: cs ∧ c.isDigit = false) (inside rest : List Char) :
    glance (callToken name inside ++ rest) = glanceAtName name.toList := by
  obtain ⟨c, cs, hcs, hdigit⟩ := hhead
  have hhash : c ≠ '#' := bne_iff_ne.mp (bne_of_plain (by decide) hname c (by simp [hcs]))
  have hfront : ∀ c ∈ name.toList, (c != '(') = true := bne_of_plain (by decide) hname
  have htoken : callToken name inside ++ rest = name.toList ++ '(' :: (inside ++ ')' :: rest) := by
    simp [callToken]
  have htake : (name.toList ++ '(' :: (inside ++ ')' :: rest)).takeWhile (· != '(') =
      name.toList := takeWhile_append_of_stop hfront (by simp)
  have hfirst : (name.toList ++ '(' :: (inside ++ ')' :: rest)).head? = some c := by simp [hcs]
  rw [htoken, glance, hfirst, if_neg (by simpa using hhash), if_neg (by simp [hdigit]),
    if_pos (by simp), htake]

/-- A call and nothing behind it. -/
theorem glance_callToken {name : String} (hname : ∀ c ∈ name.toList, isPlainChar c = true)
    (hhead : ∃ c cs, name.toList = c :: cs ∧ c.isDigit = false) (inside : List Char) :
    glance (callToken name inside) = glanceAtName name.toList := by
  have hcall := glance_call hname hhead inside []
  rwa [List.append_nil] at hcall

/-- A letter in front, and no bracket. -/
theorem glance_word {c : Char} {cs : List Char} (hc : c.isLower = true) (hcs : '(' ∉ cs) :
    glance (c :: cs) = if cs.any Char.isDigit then negative else text := by
  have hdigit := isDigit_of_isLower hc
  have hhash : c ≠ '#' := by
    rintro rfl
    exact absurd hc (by decide)
  have hopen : '(' ≠ c := by
    rintro rfl
    exact absurd hc (by decide)
  have hnone : ((c :: cs).contains '(') = false := by simp [hopen, hcs]
  rw [glance, List.head?_cons, if_neg (by simpa using hhash), if_neg (by simp [hdigit]), hnone]
  simp [hdigit]

/-- A plain text is made of letters and hyphens. -/
theorem letters_of_matches_text {cs : List Char} (h : Shape.text.pattern.Matches cs) :
    ∀ c ∈ cs, c.isLower = true ∨ c = '-' := by
  obtain ⟨ts, -, rfl, hts⟩ := Pattern.exists_intercalate_of_matches (x := '-') (by decide) h
  intro c hc
  rcases mem_intercalate hc with rfl | ⟨t, ht, hct⟩
  · exact Or.inr rfl
  · exact Or.inl ((isWord_of_matches (hts t ht)).2 c hct)

/-- A glance at a plain text tells so. -/
theorem glance_text {cs : List Char} (h : Shape.text.pattern.Matches cs) : glance cs = text := by
  have hchars := letters_of_matches_text h
  obtain ⟨ts, hne, rfl, hts⟩ := Pattern.exists_intercalate_of_matches (x := '-') (by decide) h
  obtain ⟨t, ts, rfl⟩ := List.exists_cons_of_ne_nil hne
  obtain ⟨c, cs, rfl, hc⟩ := (isWord_of_matches (hts t List.mem_cons_self)).exists_cons
  rw [intercalate_cons_eq, List.cons_append] at hchars ⊢
  obtain ⟨-, hrest⟩ := List.forall_mem_cons.mp hchars
  -- letters and hyphens are neither brackets nor digits
  have hopen : '(' ∉ cs ++ ts.flatMap (['-'] ++ ·) := by
    intro hmem
    rcases hrest _ hmem with h | h
    · exact absurd h (by decide)
    · exact absurd h (by decide)
  have hdigit : (cs ++ ts.flatMap (['-'] ++ ·)).any Char.isDigit = false := by
    rw [List.any_eq_false]
    intro d hd
    rcases hrest d hd with h | rfl
    · simp [isDigit_of_isLower h]
    · decide
  rw [glance_word hc hopen, hdigit]
  rfl

end Shape

/-- A track that is no plain length, or a repeated group, in front. -/
theorem GridEntry.glance_token {e : GridEntry} (h : ∀ d, e ≠ track (.length d))
    (rest : List Char) : Shape.glance (e.token ++ rest) = .grid := by
  cases e with
  | track t =>
    cases t with
    | length d => exact absurd rfl (h d)
    | minMax least greatest =>
      rw [token, Track.token, Shape.glance_call Track.plain_name.1
        ⟨'m', "inmax".toList, by decide, by decide⟩]
      decide
    | fitContent d =>
      rw [token, Track.token, Shape.glance_call Track.plain_name.2
        ⟨'f', "itcontent".toList, by decide, by decide⟩]
      decide
  | repeated count tracks =>
    have hname : Shape.glanceAtName "repeat".toList = .grid := by decide
    rw [token, Shape.glance_call plain_name ⟨'r', "epeat".toList, by decide, by decide⟩, hname]

/-- The name of a colour function tells it. -/
theorem ColorFunction.glance_token (f : ColorFunction) :
    Shape.glance f.token = .colorFunction := by
  obtain ⟨model, args⟩ := f
  have hhead : ∃ c cs, model.name.toList = c :: cs ∧ c.isDigit = false := by
    cases model <;> exact ⟨_, _, rfl, by decide⟩
  have hname : ∀ m : ColorModel, Shape.glanceAtName m.name.toList = .colorFunction := by
    intro m
    cases m <;> decide
  exact (Shape.glance_callToken (plain_name model) hhead _).trans (hname model)

namespace Value

/-- What follows a part has a hyphen in front. -/
theorem head_of_parts {ps : List (List Char)} :
    ∀ c ∈ (ps.flatMap (['-'] ++ ·)).head?, c = '-' := by
  cases ps <;> simp

/-- A row of lengths has a unit in front and no word behind it. -/
theorem glance_lengths {ds : List Dimension} (hne : ds ≠ [])
    (hunits : ∀ d ∈ ds, d.unit.isSome = true) : Shape.glance (lengths ds).token = .lengths := by
  obtain ⟨d, ds, rfl⟩ := List.exists_cons_of_ne_nil hne
  obtain ⟨hd, -⟩ := List.forall_mem_cons.mp hunits
  rw [token, List.map_cons, intercalate_cons_eq, Shape.glance_length hd head_of_parts]
  cases ds with
  | nil => rfl
  | cons e es =>
    -- a further length begins with a digit
    obtain ⟨c, cs, hcs, hc⟩ := e.number.exists_cons
    simp [Dimension.token, hcs, Shape.glanceBehindUnit, hc]

/-- A row of numbers has no unit in front. -/
theorem glance_numbers {ns : List Numeral} (hne : ns ≠ []) :
    Shape.glance (numbers ns).token = .numbers := by
  obtain ⟨n, ns, rfl⟩ := List.exists_cons_of_ne_nil hne
  have hrest : ∀ c ∈ ((ns.map Numeral.digits).flatMap (['-'] ++ ·)).head?, c.isDigit = false := by
    intro c hc
    rw [head_of_parts c hc]
    decide
  rw [token, List.map_cons, intercalate_cons_eq, Shape.glance_number n hrest]
  cases ns <;> simp [Shape.glanceBehindNumber]

/-- A negative number has a letter in front, no bracket and a digit. -/
theorem glance_negative (d : Dimension) : Shape.glance (negative d).token = .negative := by
  obtain ⟨c, cs, hcs, hc⟩ := d.number.exists_cons
  have hopen : '(' ∉ 'n' :: d.token := by
    rw [List.mem_cons, not_or]
    exact ⟨by decide, not_mem_of_plain (by decide) d.plain_token⟩
  have htoken : (negative d).token = 'm' :: 'n' :: d.token := rfl
  rw [htoken, Shape.glance_word (by decide) hopen]
  simp [Dimension.token, hcs, hc]

/-- The name of a calculation tells it. -/
theorem glance_calculation (left : Dimension) (op : Operator) (right : Dimension) :
    Shape.glance (calculation left op right).token = .calculation :=
  Shape.glance_callToken (by decide) ⟨'c', "alc".toList, by decide, by decide⟩ _

/-- A border has a unit in front and a word behind it. -/
theorem glance_border {width : Dimension} {w : List Char} {color : Option Color}
    (hunit : width.unit.isSome = true) (hw : IsWord 1 w) :
    Shape.glance (['-'].intercalate ([width.token, w] ++ (color.map Color.token).toList)) =
      .border := by
  obtain ⟨c, cs, rfl, hlower⟩ := hw.exists_cons
  rw [List.cons_append, intercalate_cons_eq, Shape.glance_length hunit head_of_parts]
  simp [Shape.glanceBehindUnit, isDigit_of_isLower hlower]

/-- A glance at the spelling of a value tells its shape. -/
theorem glance_token {v : Value} (h : v.IsSpelled) : Shape.glance v.token = v.shape := by
  cases h with
  | lengths hne hunits => exact glance_lengths hne hunits
  | numbers hne => exact glance_numbers hne
  | negative d => exact glance_negative d
  | @hexColor digits h =>
    obtain ⟨cs, -, hcs⟩ := Color.exists_of_hexPattern h
    rw [token, hcs]
    rfl
  | @colorFunction f _ => exact f.glance_token
  | calculation left op right => exact glance_calculation left op right
  | @grid entries hne hunits hopens =>
    -- the first entry is no bare length, so it settles the matter
    obtain ⟨entry, entries, rfl⟩ := List.exists_cons_of_ne_nil hne
    have hfirst : ∀ d, entry ≠ .track (.length d) := fun d heq => hopens d (by rw [heq]; rfl)
    rw [token, List.map_cons, intercalate_cons_eq]
    exact GridEntry.glance_token hfirst _
  | border hunit hw _ =>
    rw [token, key_style hw]
    exact glance_border hunit hw

end Value

/-! ### Disjoint shapes -/

namespace Shape

/-- A token has no other shape than a glance at it tells, but for a fraction. -/
theorem glance_of_matches {shape : Shape} {cs : List Char} (h : shape.pattern.Matches cs) :
    glance cs = shape.reading := by
  by_cases htext : shape = text
  · subst htext
    exact glance_text h
  · obtain ⟨v, hv, hshape, rfl⟩ := Value.exists_of_matches htext h
    rw [Value.glance_token hv, hshape]

/-- The shapes of a token are read in one way. -/
theorem reading_eq_of_accepts {s s' : Shape} {token : String} (h : s.accepts token = true)
    (h' : s'.accepts token = true) : s.reading = s'.reading :=
  (glance_of_matches (Pattern.accepts_iff.mp h)).symm.trans
    (glance_of_matches (Pattern.accepts_iff.mp h'))

/-- Only a fraction is read as another shape. -/
theorem reading_of_ne {shape : Shape} (h : shape ≠ fraction) : shape.reading = shape := by
  cases shape with
  | fraction => exact absurd rfl h
  | _ => rfl

/-- Numbers and fractions are read as numbers. -/
theorem reading_eq_numbers_iff {shape : Shape} :
    shape.reading = numbers ↔ shape = numbers ∨ shape = fraction := by
  cases shape <;> simp [reading]

/-- A fraction is a number as well. -/
theorem accepts_numbers_of_fraction {token : String} (h : fraction.accepts token = true) :
    numbers.accepts token = true := by
  obtain ⟨n, hn⟩ := ColorFunction.exists_of_matches_fraction (Pattern.accepts_iff.mp h)
  have hone : numbers.pattern.Matches (['-'].intercalate [n.digits]) :=
    Pattern.matches_separated_intercalate (by decide) (List.cons_ne_nil n.digits [])
      (by simpa using n.matches_digits)
  rw [List.intercalate_singleton, hn] at hone
  exact Pattern.accepts_iff.mpr hone

/-! ### The order of the shapes -/

/-- The order has every shape. -/
theorem mem_all (shape : Shape) : shape ∈ all := by
  cases shape <;> decide

/-- The first shape of an order that a token has. -/
def firstOf? (order : List Shape) (token : String) : Option Shape := order.find? (·.accepts token)

/-- `classify?` tries the shapes in the order of `all`. -/
theorem firstOf?_all (token : String) : firstOf? all token = classify? token := rfl

/-- A token has the first shape that is found for it. -/
theorem accepts_of_firstOf? {order : List Shape} {token : String} {s : Shape}
    (h : firstOf? order token = some s) : s.accepts token = true := by
  have hfound := List.find?_some (p := fun s : Shape => s.accepts token) h
  exact hfound

/-- A token that has a shape has a first one, which is read in the same way. -/
theorem exists_firstOf? {order : List Shape} (horder : ∀ s : Shape, s ∈ order) {token : String}
    {s : Shape} (h : s.accepts token = true) :
    ∃ s', firstOf? order token = some s' ∧ s'.reading = s.reading := by
  have hsome : (firstOf? order token).isSome = true := List.find?_isSome.mpr ⟨s, horder s, h⟩
  obtain ⟨s', hs'⟩ := Option.isSome_iff_exists.mp hsome
  exact ⟨s', hs', reading_eq_of_accepts (accepts_of_firstOf? hs') h⟩

/-- Numbers are tried before fractions. -/
theorem classify?_ne_fraction (token : String) : classify? token ≠ some fraction := by
  intro h
  rw [← firstOf?_all] at h
  have hnumbers := accepts_numbers_of_fraction (accepts_of_firstOf? h)
  -- the shapes in front of the numbers, and those behind them
  have hsplit : all = [border, grid, lengths] ++ numbers :: [fraction, negative, calculation,
    colorFunction, hexColor, text] := rfl
  rw [firstOf?, hsplit, List.find?_append,
    List.find?_cons_of_pos (p := fun s : Shape => s.accepts token) hnumbers] at h
  cases hfront : [border, grid, lengths].find? (·.accepts token) with
  | none =>
    rw [hfront] at h
    cases h
  | some s =>
    rw [hfront] at h
    obtain rfl : s = fraction := Option.some.inj h
    exact absurd (List.mem_of_find?_eq_some hfront) (by decide)

end Shape

namespace Value

/-- The value that a token stands for if the shapes are tried in another order. -/
def ofTokenTrying? (order : List Shape) (token : String) : Option Value :=
  if "calc".toList.isPrefixOf token.toList then calculationOfChars? token.toList
  else (Shape.firstOf? order token).bind (ofShape? token)

/-- `ofToken?` tries the shapes in the order of `all`. -/
theorem ofTokenTrying?_all (token : String) : ofTokenTrying? Shape.all token = ofToken? token := rfl

/-- A fraction is read like a number. -/
theorem ofShape?_reading (token : String) (shape : Shape) :
    ofShape? token shape.reading = ofShape? token shape := by
  cases shape <;> rfl

/-- Whatever the order is, the token is read in the same way. -/
theorem bind_firstOf?_eq {order : List Shape} (horder : ∀ s : Shape, s ∈ order) (token : String) :
    (Shape.firstOf? order token).bind (ofShape? token) =
      (Shape.classify? token).bind (ofShape? token) := by
  cases hfirst : Shape.classify? token with
  | some s =>
    rw [← Shape.firstOf?_all] at hfirst
    obtain ⟨s', hs', hreading⟩ := Shape.exists_firstOf? horder (Shape.accepts_of_firstOf? hfirst)
    rw [hs', Option.bind_some, Option.bind_some, ← ofShape?_reading, hreading, ofShape?_reading]
  | none =>
    have hnone := List.find?_eq_none.mp hfirst
    have hother : Shape.firstOf? order token = none :=
      List.find?_eq_none.mpr fun s _ => hnone s (Shape.mem_all s)
    rw [hother]

end Value

/-- A token has no shape, or a single one, or it is a fraction and so a number as well. So a number
    is never taken for a fraction, and the shapes may be tried in any order. -/
theorem Shape.accepts_exclusive (token : String) :
    ((∀ s : Shape, s.accepts token = false) ∨
        (∃ s : Shape, ∀ s' : Shape, s'.accepts token = true ↔ s' = s) ∨
        ∀ s : Shape, s.accepts token = true ↔ s = numbers ∨ s = fraction) ∧
      classify? token ≠ some fraction ∧
      ∀ order : List Shape, order.Perm all →
        Value.ofTokenTrying? order token = Value.ofToken? token := by
  refine ⟨?_, classify?_ne_fraction token, fun order hperm => ?_⟩
  · by_cases hnone : ∀ s : Shape, s.accepts token = false
    · exact Or.inl hnone
    refine Or.inr ?_
    -- a fraction has two shapes, and any other token at most one
    by_cases hfraction : fraction.accepts token = true
    · refine Or.inr fun s => ⟨fun hs => ?_, ?_⟩
      · exact reading_eq_numbers_iff.mp (reading_eq_of_accepts hs hfraction)
      · rintro (rfl | rfl)
        · exact accepts_numbers_of_fraction hfraction
        · exact hfraction
    · -- without a fraction, each shape is the one that a glance tells
      have hne {s : Shape} (hs : s.accepts token = true) : s ≠ fraction := by
        rintro rfl
        exact hfraction hs
      simp only [not_forall, Bool.not_eq_false] at hnone
      obtain ⟨s, hs⟩ := hnone
      refine Or.inl ⟨s, fun s' => ⟨fun hs' => ?_, ?_⟩⟩
      · rw [← reading_of_ne (hne hs), ← reading_of_ne (hne hs')]
        exact reading_eq_of_accepts hs' hs
      · rintro rfl
        exact hs
  · have hmem : ∀ s : Shape, s ∈ order := fun s => hperm.mem_iff.mpr (mem_all s)
    rw [← Value.ofTokenTrying?_all, Value.ofTokenTrying?, Value.ofTokenTrying?, firstOf?_all,
      Value.bind_firstOf?_eq hmem]

/-- Tried in the opposite order, a one is a fraction at first sight, and the same value. -/
theorem Shape.accepts_exclusive_one :
    all.reverse.Perm all ∧ firstOf? all.reverse "1" = some fraction ∧
      Value.ofTokenTrying? all.reverse "1" = Value.ofToken? "1" :=
  ⟨List.reverse_perm all, by decide +kernel,
    (Shape.accepts_exclusive "1").2.2 all.reverse (List.reverse_perm all)⟩

end ClassSheet.Css
