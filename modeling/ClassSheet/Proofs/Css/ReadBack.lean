import ClassSheet.Proofs.Css.Reading

/-! # Reading the CSS text of a value back

The CSS text of a value tells the token that it was written as (`Value.css_ne_of_ne`). What is
written for a part of a value is undone character by character (`unwritten`): a point, a comma and
the hyphen of `fit-content` go, a space becomes a hyphen again, and the signs of units and operators
become the words of a class name. Only two signs have two meanings: a percent sign is a unit, but
`hsl` adds it on its own, and a hyphen is a sign of a number, but stands in names as well. The first
characters of the text tell which is meant (`Value.restore`). -/

namespace ClassSheet.Css

open ClassSheet.Text

/-! ### Undoing single characters -/

/-- The characters that a value has in its CSS text but not in its token. -/
def rewritten : List Char := ['.', ',', ' ', '%', '-', '+', '*', '/']

/-- What a token has in place of a character of the CSS text, given what a percent sign and a hyphen
    stand for. -/
def unwritten (percent minus : List Char) (c : Char) : List Char :=
  if c = '.' ∨ c = ',' then []
  else if c = ' ' then ['-']
  else if c = '%' then percent
  else if c = '-' then minus
  else if c = '+' then "pl".toList
  else if c = '*' then "mp".toList
  else if c = '/' then "dv".toList
  else [c]

/-- Any other character is in the token as it is in the text. -/
theorem unwritten_of_not_mem {percent minus : List Char} {c : Char} (h : c ∉ rewritten) :
    unwritten percent minus c = [c] := by
  simp only [rewritten, List.mem_cons, List.not_mem_nil, or_false, not_or] at h
  obtain ⟨hpoint, hcomma, hspace, hpercent, hminus, hplus, htimes, hdiv⟩ := h
  rw [unwritten, if_neg (by simp [hpoint, hcomma]), if_neg hspace, if_neg hpercent, if_neg hminus,
    if_neg hplus, if_neg htimes, if_neg hdiv]

/-- What a token has in place of a part of the CSS text. -/
def unwrite (percent minus cs : List Char) : List Char := cs.flatMap (unwritten percent minus)

section Unwrite

variable (percent minus : List Char)

/-- A text is undone part by part. -/
theorem unwrite_append (cs ds : List Char) :
    unwrite percent minus (cs ++ ds) = unwrite percent minus cs ++ unwrite percent minus ds :=
  List.flatMap_append

/-- A text is undone character by character. -/
theorem unwrite_cons (c : Char) (cs : List Char) :
    unwrite percent minus (c :: cs) = unwritten percent minus c ++ unwrite percent minus cs :=
  List.flatMap_cons

/-- A text without characters that change is its own token. -/
theorem unwrite_of_forall {cs : List Char} (h : ∀ c ∈ cs, c ∉ rewritten) :
    unwrite percent minus cs = cs := by
  induction cs with
  | nil => rfl
  | cons c cs ih =>
    obtain ⟨hc, hcs⟩ := List.forall_mem_cons.mp h
    rw [unwrite_cons, unwritten_of_not_mem hc, ih hcs, List.singleton_append]

/-- Letters and digits do not change. -/
theorem not_mem_rewritten_of_isPlainChar {c : Char} (h : isPlainChar c = true) : c ∉ rewritten := by
  intro hmem
  revert h
  revert c
  decide

/-- Plain texts are undone as themselves. -/
theorem unwrite_of_plain {cs : List Char} (h : ∀ c ∈ cs, isPlainChar c = true) :
    unwrite percent minus cs = cs :=
  unwrite_of_forall percent minus fun c hc => not_mem_rewritten_of_isPlainChar (h c hc)

variable {percent minus}

/-- Where a text has a space, its token has a hyphen. -/
theorem hyphen_mem_unwrite {cs : List Char} (h : ' ' ∈ cs) : '-' ∈ unwrite percent minus cs :=
  List.mem_flatMap.mpr ⟨' ', h, List.mem_cons_self⟩

/-- Parts with a separator between them, each undone on its own. -/
theorem unwrite_intercalate {α : Type} {css : α → String} {token : α → List Char} {sep : String}
    (hsep : unwrite percent minus sep.toList = ['-']) {as : List α}
    (h : ∀ a ∈ as, unwrite percent minus (css a).toList = token a) :
    unwrite percent minus (String.intercalate sep (as.map css)).toList =
      ['-'].intercalate (as.map token) := by
  rw [String.toList_intercalate, List.map_map]
  induction as with
  | nil => rfl
  | cons a as ih =>
    obtain ⟨ha, has⟩ := List.forall_mem_cons.mp h
    cases as with
    | nil => simpa using ha
    | cons b as =>
      rw [List.map_cons, List.map_cons, List.intercalate_cons_cons, unwrite_append, unwrite_append,
        hsep, List.map_cons, List.map_cons, List.intercalate_cons_cons]
      rw [List.map_cons] at ih
      rw [ih has, List.map_cons, Function.comp_apply, ha]

end Unwrite

/-! ### Undoing the parts of values -/

/-- A number is written with its digits, and with a point behind a leading zero if more follows. -/
theorem Numeral.toList_css (n : Numeral) :
    n.css.toList = n.digits ∨ ∃ ds, n.digits = '0' :: ds ∧ n.css.toList = '0' :: '.' :: ds := by
  have hpoint : "0.".toList = ['0', '.'] := by decide
  unfold Numeral.css
  split
  · next d ds heq =>
    refine Or.inr ⟨d :: ds, heq, ?_⟩
    rw [String.toList_append, hpoint, String.toList_ofList]
    rfl
  · exact Or.inl String.toList_ofList

/-- The CSS text of a number is undone as its digits. -/
theorem Numeral.unwrite_css (n : Numeral) (percent minus : List Char) :
    unwrite percent minus n.css.toList = n.digits := by
  have hdigits := unwrite_of_plain percent minus n.plain_digits
  rcases n.toList_css with hcss | ⟨ds, hds, hcss⟩
  · rw [hcss, hdigits]
  · -- but for the point, the digits are there
    rw [hds] at hdigits ⊢
    rw [hcss, unwrite_cons, unwrite_cons]
    exact hdigits

/-- The CSS text of a number begins with a digit. -/
theorem Numeral.head_css (n : Numeral) : ∃ c cs, n.css.toList = c :: cs ∧ c.isDigit = true := by
  rcases n.toList_css with hcss | ⟨ds, -, hcss⟩
  · rw [hcss]
    exact n.exists_cons
  · exact ⟨'0', _, hcss, by decide⟩

/-- A space would be undone as a hyphen, which no number has. -/
theorem Numeral.space_not_mem_css (n : Numeral) : ' ' ∉ n.css.toList := by
  intro hmem
  have hhyphen : '-' ∈ unwrite [] [] n.css.toList := hyphen_mem_unwrite hmem
  rw [n.unwrite_css] at hhyphen
  exact not_mem_of_plain (by decide) n.plain_digits hhyphen

/-- The CSS text of a dimension is undone as its token, with the percent sign as a unit. -/
theorem Dimension.unwrite_css (d : Dimension) (minus : List Char) :
    unwrite "pct".toList minus d.css.toList = d.token := by
  obtain ⟨number, unit⟩ := d
  have hunit : unwrite "pct".toList minus ((unit.map LengthUnit.css).getD "").toList =
      (unit.map (·.code.toList)).getD [] := by
    cases unit with
    | none => rfl
    | some u => cases u <;> rfl
  rw [css, String.toList_append, unwrite_append, number.unwrite_css, hunit]
  rfl

/-- The CSS text of a dimension begins with a digit. -/
theorem Dimension.head_css (d : Dimension) : ∃ c cs, d.css.toList = c :: cs ∧ c.isDigit = true := by
  obtain ⟨c, cs, hcss, hc⟩ := d.number.head_css
  refine ⟨c, cs ++ ((d.unit.map LengthUnit.css).getD "").toList, ?_, hc⟩
  rw [css, String.toList_append, hcss, List.cons_append]

/-- The text of a dimension has no space either. -/
theorem Dimension.space_not_mem_css (d : Dimension) : ' ' ∉ d.css.toList := by
  intro hmem
  have hhyphen : '-' ∈ unwrite "pct".toList [] d.css.toList := hyphen_mem_unwrite hmem
  rw [d.unwrite_css] at hhyphen
  exact not_mem_of_plain (by decide) d.plain_token hhyphen

/-- A call: what stands in brackets is undone on its own. -/
theorem unwrite_call {percent minus name : List Char} {opening inside : String} {token : List Char}
    (hname : unwrite percent minus opening.toList = name ++ ['('])
    (h : unwrite percent minus inside.toList = token) :
    unwrite percent minus (opening ++ inside ++ ")").toList = name ++ '(' :: (token ++ [')']) := by
  have hclosing : unwrite percent minus ")".toList = [')'] := rfl
  rw [String.toList_append, String.toList_append, unwrite_append, unwrite_append, hname, h,
    hclosing]
  simp

/-- An argument is undone as its digits: a percent sign that `hsl` adds goes. -/
theorem ColorFunction.unwrite_argCss (m : ColorModel) (arg : Numeral) (i : Nat)
    (minus : List Char) :
    unwrite [] minus (argCss m arg i).toList = arg.digits := by
  have hpercent : unwrite [] minus "%".toList = [] := rfl
  unfold argCss
  split
  · rw [String.toList_append, unwrite_append, arg.unwrite_css, hpercent, List.append_nil]
  · exact arg.unwrite_css [] minus

/-- The CSS text of a colour function is undone as its token. -/
theorem ColorFunction.unwrite_css (f : ColorFunction) (minus : List Char) :
    unwrite [] minus f.css.toList = f.token := by
  obtain ⟨model, args⟩ := f
  have hopening : unwrite [] minus (model.name ++ "(").toList = model.name.toList ++ ['('] := by
    cases model <;> rfl
  -- the positions that `zipIdx` adds leave the digits as they are
  have hpositions : args.zipIdx.map (fun a => a.1.digits) = args.map Numeral.digits := by
    have hcompose : args.zipIdx.map (fun a => a.1.digits) =
        (args.zipIdx.map Prod.fst).map Numeral.digits := by
      rw [List.map_map]
      rfl
    rw [hcompose, List.zipIdx_map_fst]
  refine unwrite_call hopening ?_
  -- the position of an argument decides about its percent sign only
  rw [← hpositions]
  exact unwrite_intercalate rfl fun a _ => unwrite_argCss model a.1 a.2 minus

/-- Two parts in brackets, with a comma between them. -/
theorem unwrite_call_pair {percent name : List Char} {opening left right : String}
    {token token' : List Char} (hname : unwrite percent [] opening.toList = name ++ ['('])
    (hleft : unwrite percent [] left.toList = token)
    (hright : unwrite percent [] right.toList = token') :
    unwrite percent [] (opening ++ left ++ ", " ++ right ++ ")").toList =
      name ++ '(' :: (token ++ '-' :: token' ++ [')']) := by
  have hseparator : unwrite percent [] ", ".toList = ['-'] := rfl
  have hinside : unwrite percent [] (left ++ ", " ++ right).toList = token ++ '-' :: token' := by
    rw [String.toList_append, String.toList_append, unwrite_append, unwrite_append, hleft, hright,
      hseparator]
    simp
  rw [← unwrite_call hname hinside]
  simp only [String.append_assoc]

/-- A track is undone with its units, and the hyphen of its name goes. -/
theorem Track.unwrite_css (t : Track) : unwrite "pct".toList [] t.css.toList = t.token := by
  cases t with
  | length d => exact d.unwrite_css []
  | minMax least greatest =>
    exact unwrite_call_pair rfl (least.unwrite_css []) (greatest.unwrite_css [])
  | fitContent d => exact unwrite_call rfl (d.unwrite_css [])

/-- The CSS text of a count is undone as its token: the hyphen of `auto-fill` goes. -/
theorem RepeatCount.unwrite_css (count : RepeatCount) (percent : List Char) :
    unwrite percent [] count.css.toList = count.token := by
  cases count with
  | times n => exact n.unwrite_css percent []
  | autoFill => rfl
  | autoFit => rfl

/-- The CSS text of an entry of a template is undone as its token. -/
theorem GridEntry.unwrite_css {e : GridEntry} (h : e.HasUnits) :
    unwrite "pct".toList [] e.css.toList = e.token := by
  cases e with
  | track t => exact t.unwrite_css
  | repeated count tracks =>
    have htracks : unwrite "pct".toList [] (String.intercalate " " (tracks.map Track.css)).toList =
        ['-'].intercalate (tracks.map Track.token) :=
      unwrite_intercalate rfl fun t _ => t.unwrite_css
    have hne : tracks.map Track.token ≠ [] := by simpa using h.1
    -- the token lists the count with the tracks, the text sets it off with a comma
    have hinside : ['-'].intercalate (count.token :: tracks.map Track.token) =
        count.token ++ '-' :: ['-'].intercalate (tracks.map Track.token) := by
      rw [List.intercalate_cons_of_ne_nil hne, List.append_assoc, List.singleton_append]
    rw [token, callToken, hinside]
    exact unwrite_call_pair rfl (count.unwrite_css _) htracks

/-! ### Undoing colours and styles -/

/-- What a table has for a word is the word, but for hyphens. -/
theorem unwrite_of_isLettered {s : String} (h : Keyword.isLettered s.toList = true)
    (percent : List Char) : unwrite percent [] s.toList = (Keyword.key s).toList := by
  have hletters := Keyword.forall_of_isLettered h
  rw [Keyword.key_of_forall hletters, String.toList_ofList]
  clear h
  revert hletters
  -- by induction on the letters: a hyphen is dropped on both sides
  induction s.toList with
  | nil => exact fun _ => rfl
  | cons c cs ih =>
    intro hletters
    obtain ⟨hc, hcs⟩ := List.forall_mem_cons.mp hletters
    rw [unwrite_cons, ih hcs]
    rcases hc with hc | rfl
    · have hkept : c ∉ rewritten :=
        not_mem_rewritten_of_isPlainChar (by rw [isPlainChar, hc, Bool.true_or])
      rw [unwritten_of_not_mem hkept]
      exact (List.filter_cons_of_pos (p := fun c => c != '-') (bne_hyphen_of_isLower hc)).symm
    · rfl

/-- The digits of a hexadecimal colour and its sign do not change. -/
theorem Color.unwrite_hex {digits : String} (h : hexPattern.Matches digits.toList)
    (percent minus : List Char) : unwrite percent minus digits.toList = digits.toList := by
  have havoids : hexPattern.avoidsAll rewritten = true := by decide +kernel
  exact unwrite_of_forall percent minus (Pattern.not_mem_of_avoidsAll havoids h)

/-- The CSS text of a colour is undone as its token. -/
theorem Color.unwrite_css {c : Color} (h : c.IsSpelled) : unwrite [] [] c.css.toList = c.token := by
  cases h with
  | keyword hw hname =>
    exact unwrite_of_isLettered
      (Keyword.isLettered_of_mem_colorWords _ (Keyword.mem_of_find? hname)) []
  | hex h => exact unwrite_hex h [] []
  | @function f _ => exact f.unwrite_css []
  | raw hw _ =>
    rw [css, token, String.toList_ofList]
    exact unwrite_of_plain [] [] hw.plain

/-- The style of a border, hyphens and all, is undone as its word. -/
theorem unwrite_style {w : List Char} (hw : IsWord 1 w) :
    unwrite [] [] ((Keyword.borderStyle? (String.ofList w)).getD (String.ofList w)).toList = w := by
  cases hstyle : Keyword.borderStyle? (String.ofList w) with
  | none =>
    rw [Option.getD_none, String.toList_ofList]
    exact unwrite_of_plain [] [] hw.plain
  | some style =>
    have hletters := Keyword.isLettered_of_mem_borderStyleWords _ (Keyword.mem_of_find? hstyle)
    rw [Option.getD_some, unwrite_of_isLettered hletters, Keyword.key_of_find? hstyle,
      Keyword.key_ofList hw.2, String.toList_ofList]

/-- A style begins with no digit, as its word does not. -/
theorem exists_cons_style {w : List Char} (hw : IsWord 1 w) :
    ∃ c cs, ((Keyword.borderStyle? (String.ofList w)).getD (String.ofList w)).toList = c :: cs ∧
      c.isDigit = false := by
  have hstyle := unwrite_style hw
  obtain ⟨d, ds, rfl, hd⟩ := hw.exists_cons
  -- the word begins with a letter, and a digit would not have changed
  cases hcs : ((Keyword.borderStyle? (String.ofList (d :: ds))).getD
      (String.ofList (d :: ds))).toList with
  | nil =>
    rw [hcs] at hstyle
    cases hstyle
  | cons c cs =>
    refine ⟨c, cs, rfl, Bool.eq_false_iff.mpr fun hc => ?_⟩
    have hkept : c ∉ rewritten :=
      not_mem_rewritten_of_isPlainChar (by rw [isPlainChar, hc, Bool.or_true])
    rw [hcs, unwrite_cons, unwritten_of_not_mem hkept] at hstyle
    obtain rfl : c = d := (List.cons.inj hstyle).1
    rw [isDigit_of_isLower hd] at hc
    cases hc

/-! ### Undoing values -/

namespace Value

/-- The character behind the first space, if it is no digit. -/
def wordBehind? (css : List Char) : Option Char :=
  (css.dropWhile (· != ' ')).tail.head?.filter (!·.isDigit)

/-- The token that a value was written as, read off its CSS text. A percent sign is a unit, but
    in and behind a word it comes from `hsl`; a hyphen is a sign in front of a number and in a
    calculation, and otherwise part of a name. -/
def restore (css : List Char) : List Char :=
  if css.head? = some '-' ∨ css.head? = some 'c' then unwrite "pct".toList "mn".toList css
  else if css.head? = some 'h' ∨ css.take 2 = "rg".toList then unwrite [] [] css
  else if css.head?.any Char.isDigit ∧ (wordBehind? css).isSome then
    unwrite "pct".toList [] (css.takeWhile (· != ' ')) ++ unwrite [] [] (css.dropWhile (· != ' '))
  else unwrite "pct".toList [] css

/-- A text that begins with a digit is a row of lengths or numbers, or a border where a word
    follows. -/
theorem restore_of_digit {c : Char} (hc : c.isDigit = true) (cs : List Char) :
    restore (c :: cs) =
      if (wordBehind? (c :: cs)).isSome then
        unwrite "pct".toList [] ((c :: cs).takeWhile (· != ' ')) ++
          unwrite [] [] ((c :: cs).dropWhile (· != ' '))
      else unwrite "pct".toList [] (c :: cs) := by
  -- a digit is none of the characters that open another form
  have hne {x : Char} (hx : x.isDigit = false) : c ≠ x := by
    rintro rfl
    rw [hc] at hx
    cases hx
  have hsign : c ≠ '-' := hne (by decide)
  have hcalc : c ≠ 'c' := hne (by decide)
  have hhsl : c ≠ 'h' := hne (by decide)
  have hrgb : c ≠ 'r' := hne (by decide)
  simp [restore, hsign, hcalc, hhsl, hrgb, hc]

/-- A character that a text does not have is none of its characters. -/
theorem bne_of_not_mem {x : Char} {cs : List Char} (h : x ∉ cs) : ∀ c ∈ cs, (c != x) = true := by
  intro c hc
  rw [bne_iff_ne]
  rintro rfl
  exact h hc

/-- What stands behind the first space is seen past a front without spaces. -/
theorem wordBehind?_append {front rest : List Char} (hfront : ' ' ∉ front)
    (hrest : ∀ c ∈ rest.head?, c = ' ') :
    wordBehind? (front ++ rest) = rest.tail.head?.filter (!·.isDigit) := by
  rw [wordBehind?,
    dropWhile_append_of_stop (bne_of_not_mem hfront) fun c hc => by simp [hrest c hc]]

/-- Numbers or lengths with spaces between them. -/
theorem restore_row {α : Type} {css : α → String}
    (hhead : ∀ a, ∃ c cs, (css a).toList = c :: cs ∧ c.isDigit = true)
    (hspace : ∀ a, ' ' ∉ (css a).toList) {as : List α} (hne : as ≠ []) :
    restore (String.intercalate " " (as.map css)).toList =
      unwrite "pct".toList [] (String.intercalate " " (as.map css)).toList := by
  obtain ⟨a, as, rfl⟩ := List.exists_cons_of_ne_nil hne
  have hseparator : " ".toList = [' '] := by decide
  -- the first entry stands in front, and each of the others behind a space
  have hrow : (String.intercalate " " ((a :: as).map css)).toList =
      (css a).toList ++ as.flatMap fun b => ' ' :: (css b).toList := by
    rw [String.toList_intercalate, hseparator, List.map_cons, List.map_cons, intercalate_cons_eq,
      List.map_map, List.flatMap_map]
    rfl
  -- no word stands behind the first space: a further entry begins with a digit
  have hword : wordBehind? (String.intercalate " " ((a :: as).map css)).toList = none := by
    rw [hrow, wordBehind?_append (hspace a) (by cases as <;> simp)]
    cases as with
    | nil => rfl
    | cons b bs =>
      obtain ⟨c, cs, hcss, hc⟩ := hhead b
      simp [hcss, hc]
  -- so the whole row is undone in one way
  obtain ⟨c, cs, hcss, hc⟩ := hhead a
  rw [hrow, hcss, List.cons_append] at hword ⊢
  rw [restore_of_digit hc, hword]
  rfl

/-- A width, a space and a word. -/
theorem restore_border (width : Dimension) {c : Char} (hc : c.isDigit = false) (cs : List Char) :
    restore (width.css.toList ++ ' ' :: c :: cs) =
      width.token ++ '-' :: unwrite [] [] (c :: cs) := by
  -- the word behind the space marks the border
  have hword : (wordBehind? (width.css.toList ++ ' ' :: c :: cs)).isSome = true := by
    rw [wordBehind?_append width.space_not_mem_css (by simp)]
    simp [hc]
  -- the first space ends the width, on either side of which a percent sign differs
  have hkeep := bne_of_not_mem width.space_not_mem_css
  have htake : (width.css.toList ++ ' ' :: c :: cs).takeWhile (· != ' ') = width.css.toList :=
    takeWhile_append_of_stop hkeep (by simp)
  have hdrop : (width.css.toList ++ ' ' :: c :: cs).dropWhile (· != ' ') = ' ' :: c :: cs :=
    dropWhile_append_of_stop hkeep (by simp)
  obtain ⟨d, ds, hcss, hd⟩ := width.head_css
  have hwidth := width.unwrite_css []
  rw [hcss, List.cons_append] at hword htake hdrop ⊢
  rw [hcss] at hwidth
  rw [restore_of_digit hd, if_pos hword, htake, hdrop, hwidth]
  rfl

/-- A track that is no plain length, or a repeated group, in front. -/
theorem restore_template {e : GridEntry} (he : ∀ d, e ≠ .track (.length d)) (rest : List Char) :
    restore (e.css.toList ++ rest) = unwrite "pct".toList [] (e.css.toList ++ rest) := by
  have hrg : "rg".toList = ['r', 'g'] := by decide
  cases e with
  | track t =>
    cases t with
    | length d => exact absurd rfl (he d)
    | minMax least greatest =>
      have hname : "minmax(".toList = 'm' :: "inmax(".toList := by decide
      simp [restore, GridEntry.css, Track.css, hname, hrg]
    | fitContent d =>
      have hname : "fit-content(".toList = 'f' :: "it-content(".toList := by decide
      simp [restore, GridEntry.css, Track.css, hname, hrg]
  | repeated count tracks =>
    have hname : "repeat(".toList = 'r' :: 'e' :: "peat(".toList := by decide
    simp [restore, GridEntry.css, hname, hrg]

/-- A calculation: both signs are read as in a class name, and the operator becomes its word. -/
theorem restore_calculation (left : Dimension) (op : Operator) (right : Dimension) :
    restore (calculation left op right).css.toList = (calculation left op right).token := by
  have hspace : unwrite "pct".toList "mn".toList " ".toList = ['-'] := rfl
  have hsign : unwrite "pct".toList "mn".toList (String.singleton op.sign).toList =
      op.code.toList := by
    cases op <;> rfl
  -- inside the brackets: both dimensions and the operator, with spaces between them
  have hinside : unwrite "pct".toList "mn".toList
      (left.css ++ " " ++ String.singleton op.sign ++ " " ++ right.css).toList =
      ['-'].intercalate [left.token, op.code.toList, right.token] := by
    simp only [String.toList_append, unwrite_append, left.unwrite_css, right.unwrite_css, hspace,
      hsign, List.intercalate_cons_cons, List.intercalate_singleton, List.append_assoc]
  have hopening : "calc(".toList = 'c' :: "alc(".toList := by decide
  -- the first letter tells that it is a calculation
  have hrestore : restore (calculation left op right).css.toList =
      unwrite "pct".toList "mn".toList (calculation left op right).css.toList := by
    simp [restore, css, hopening]
  have hcall : unwrite "pct".toList "mn".toList
      ("calc(" ++ (left.css ++ " " ++ String.singleton op.sign ++ " " ++ right.css) ++ ")").toList =
      (calculation left op right).token := unwrite_call rfl hinside
  rw [hrestore, ← hcall, css]
  simp only [String.append_assoc]

/-- A border, with or without a colour behind its style. -/
theorem restore_shorthand {width : Dimension} {w : List Char} {color : Option Color}
    (hw : IsWord 1 w) (hcolor : ∀ c ∈ color, c.IsSpelled) :
    restore (border width
        ((Keyword.borderStyle? (String.ofList w)).getD (String.ofList w)) color).css.toList =
      ['-'].intercalate ([width.token, w] ++ (color.map Color.token).toList) := by
  have hspace : " ".toList = [' '] := by decide
  have hstyle := unwrite_style hw
  obtain ⟨c, cs, hcs, hc⟩ := exists_cons_style hw
  rw [css, String.toList_append, String.toList_append, String.toList_append, hspace, hcs]
  rw [hcs] at hstyle
  -- style and colour together are what follows the first space
  cases color with
  | none =>
    have hrestore := restore_border width hc cs
    rw [hstyle] at hrestore
    simpa using hrestore
  | some color =>
    have hrestore := restore_border width hc (cs ++ ' ' :: color.css.toList)
    have hgap : unwritten [] [] ' ' = ['-'] := rfl
    rw [← List.cons_append, unwrite_append, hstyle, unwrite_cons, hgap,
      Color.unwrite_css (hcolor color rfl)] at hrestore
    simpa [List.intercalate_cons_cons, hspace] using hrestore

/-- The CSS text of a value tells its token. -/
theorem restore_css {v : Value} (h : v.IsSpelled) : restore v.css.toList = v.token := by
  cases h with
  | @lengths ds hne _ =>
    rw [css, restore_row Dimension.head_css Dimension.space_not_mem_css hne]
    exact unwrite_intercalate rfl fun d _ => d.unwrite_css []
  | @numbers ns hne =>
    rw [css, restore_row Numeral.head_css Numeral.space_not_mem_css hne]
    exact unwrite_intercalate rfl fun n _ => n.unwrite_css _ []
  | negative d =>
    -- a hyphen in front is a sign
    have hrestore : restore ('-' :: d.css.toList) =
        unwrite "pct".toList "mn".toList ('-' :: d.css.toList) := rfl
    rw [css, String.toList_append, toList_hyphen, List.singleton_append, hrestore, unwrite_cons,
      d.unwrite_css]
    rfl
  | @hexColor digits h =>
    -- the sign of the colour opens none of the other forms
    have hkept := Color.unwrite_hex h "pct".toList []
    obtain ⟨cs, -, hcs⟩ := Color.exists_of_hexPattern h
    rw [css, token]
    rw [hcs] at hkept ⊢
    exact hkept
  | @colorFunction f h =>
    -- the name tells that a percent sign comes from `hsl`
    have hrestore : restore f.css.toList = unwrite [] [] f.css.toList := by
      have hrg : "rg".toList = ['r', 'g'] := by decide
      obtain ⟨model, args⟩ := f
      cases model <;> simp [restore, ColorFunction.css, ColorModel.name, hrg]
    rw [css, hrestore, f.unwrite_css]
    rfl
  | calculation left op right => exact restore_calculation left op right
  | @grid entries hne hunits hopens =>
    obtain ⟨e, es, rfl⟩ := List.exists_cons_of_ne_nil hne
    -- the first entry is a call, which keeps the template apart from a row of lengths
    have hfirst : ∀ d, e ≠ .track (.length d) := fun d heq => hopens d (by rw [heq]; rfl)
    have hrestore : restore (String.intercalate " " ((e :: es).map GridEntry.css)).toList =
        unwrite "pct".toList [] (String.intercalate " " ((e :: es).map GridEntry.css)).toList := by
      rw [String.toList_intercalate, List.map_cons, List.map_cons, intercalate_cons_eq]
      exact restore_template hfirst _
    rw [css, hrestore]
    exact unwrite_intercalate rfl fun e he => GridEntry.unwrite_css (hunits e he)
  | border _ hw hcolor =>
    rw [token, key_style hw]
    exact restore_shorthand hw hcolor

/-- The token of a shape other than a plain text is read off the CSS text of its value. -/
theorem restore_css_of_accepts {s : Shape} (hne : s ≠ .text) {token : String}
    (hs : s.accepts token = true) {v : Value} (hv : ofToken? token = some v) :
    restore v.css.toList = token.toList := by
  obtain ⟨v', hread, hspelled, -, htoken⟩ := exists_of_accepts hne hs
  rw [ofToken?_of_accepts hs, hread] at hv
  obtain rfl := Option.some.inj hv
  rw [restore_css hspelled, htoken]

/-- Different tokens of shapes other than a plain text have different CSS texts. -/
theorem css_ne_of_ne {t t' : String} (ht : t ≠ t') {s s' : Shape} (hne : s ≠ .text)
    (hne' : s' ≠ .text) (hs : s.accepts t = true) (hs' : s'.accepts t' = true) {v v' : Value}
    (hv : ofToken? t = some v) (hv' : ofToken? t' = some v') : v.css ≠ v'.css := by
  intro hcss
  have hrestore := restore_css_of_accepts hne hs hv
  rw [hcss, restore_css_of_accepts hne' hs' hv'] at hrestore
  exact ht (String.toList_inj.mp hrestore).symm

/-- A tenth. -/
def sampleTenth : Numeral := ⟨['0', '1'], by decide, by decide⟩

/-- A tenth and less than nothing: `0.1%` and `-0.1%`. -/
theorem css_ne_of_ne_sampleTenth :
    "01pct" ≠ "mn01pct" ∧ Shape.lengths.accepts "01pct" = true ∧
      Shape.negative.accepts "mn01pct" = true ∧
      ofToken? "01pct" = some (lengths [⟨sampleTenth, some .percent⟩]) ∧
      ofToken? "mn01pct" = some (negative ⟨sampleTenth, some .percent⟩) ∧
      (lengths [⟨sampleTenth, some .percent⟩]).css ≠
        (negative ⟨sampleTenth, some .percent⟩).css := by
  have ht : "01pct" ≠ "mn01pct" := by decide
  have hs : Shape.lengths.accepts "01pct" = true := by decide +kernel
  have hs' : Shape.negative.accepts "mn01pct" = true := by decide +kernel
  have hv : ofToken? "01pct" = some (lengths [⟨sampleTenth, some .percent⟩]) := by decide +kernel
  have hv' : ofToken? "mn01pct" = some (negative ⟨sampleTenth, some .percent⟩) := by
    decide +kernel
  exact ⟨ht, hs, hs', hv, hv', css_ne_of_ne ht (by decide) (by decide) hs hs' hv hv'⟩

end Value

end ClassSheet.Css
