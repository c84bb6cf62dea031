import ClassSheet.Proofs.Name.Sanitize
import ClassSheet.Proofs.Name.Plan
import ClassSheet.Proofs.Sheet.Pass

/-! # Reading the values back from a generated class

In a generated class all replaced characters of the values look alike, and a stretch of them looks
like a single one. As long as a dot is not part of a longer stretch, each underscore can still be
told from the pieces around it:

* behind nothing or a hyphen it is the sign of a hexadecimal colour;
* in front of nothing or a hyphen it is a closing bracket;
* otherwise it is an opening bracket if the next one is a closing bracket, or if a group of tracks
  with a `minmax` in it ends the values, and a dot if not.

`restore` reads the values back in this way, `Layout` describes the texts for which it does
(`Layout.restore_keptPieces`), and the values of a name are laid out so if their dots stand alone
(`IsValid.layout`). Then the class determines the declarations of the name. -/

namespace ClassSheet.EncodedName

open ClassSheet.Text ClassSheet.Css

/-! ### Restoring -/

/-- Whether the replaced character behind a piece is the sign of a hexadecimal colour. -/
def opensHash (piece : List Char) : Bool := piece.getLast?.all (· == '-')

/-- Whether the replaced character in front of a piece is a closing bracket. -/
def closes (piece : List Char) : Bool := piece.head?.all (· == '-')

/-- The text from its pieces. -/
def restore : List (List Char) → List Char
  | [] => []
  | [q] => q
  | [q, r] => if opensHash q then q ++ '#' :: r else q ++ '.' :: r
  | q :: r :: s :: rest =>
    if opensHash q then q ++ '#' :: restore (r :: s :: rest)
    else if closes s then q ++ '(' :: (r ++ ')' :: restore (s :: rest))
    else if nests r && rest == [[]] then q ++ '(' :: (r ++ '(' :: (s ++ [')', ')']))
    else q ++ '.' :: restore (r :: s :: rest)

/-- Behind nothing or a hyphen, the sign of a colour is restored. -/
theorem restore_of_opensHash {q : List Char} {ps : List (List Char)} (h : opensHash q = true)
    (hne : ps ≠ []) : restore (q :: ps) = q ++ '#' :: restore ps := by
  match ps with
  | [r] => simp [restore, h]
  | r :: s :: rest => simp [restore, h]

/-! ### Texts that can be restored -/

/-- A character that is not replaced and is no underscore. -/
def isKept (c : Char) : Bool := !isReplaced c && c != '_'

/-- A text of such characters. -/
def Kept (s : List Char) : Prop := ∀ c ∈ s, isKept c = true

/-- A text that begins with such a character, but not with a hyphen. -/
def Starts (s : List Char) : Prop := ∃ c rest, s = c :: rest ∧ isKept c = true ∧ c ≠ '-'

/-- What stands in front of the first bracket does not nest, if that is the first replaced
    character. -/
def NameOk (s : List Char) : Prop :=
  ∀ x rest, s = x ++ '(' :: rest → Kept x → nests x = false

/-- The texts that can be restored. -/
inductive Layout : List Char → Prop
  | plain {q : List Char} (hq : Kept q) : Layout q
  | hash {q w : List Char} (hq : Kept q) (hend : opensHash q = true) (hw : Layout w)
    (hstart : Starts w) : Layout (q ++ '#' :: w)
  | dot {q w : List Char} (hq : Kept q) (hend : opensHash q = false) (hw : Layout w)
    (hstart : Starts w) (hname : NameOk w) : Layout (q ++ '.' :: w)
  | call {q b w : List Char} (hq : Kept q) (hend : opensHash q = false) (hb : Kept b)
    (hstart : closes b = false) (hw : Layout w) (hclose : w = [] ∨ ∃ w', w = '-' :: w') :
    Layout (q ++ '(' :: (b ++ ')' :: w))
  | nested {q x b : List Char} (hq : Kept q) (hend : opensHash q = false) (hx : Kept x)
    (hxstart : closes x = false) (hnests : nests x = true) (hb : Kept b)
    (hbstart : closes b = false) : Layout (q ++ '(' :: (x ++ '(' :: (b ++ [')', ')'])))

/-! ### Their pieces -/

/-- A character is kept if it is neither replaced nor an underscore. -/
theorem isKept_iff {c : Char} : isKept c = true ↔ isReplaced c = false ∧ c ≠ '_' := by
  rw [isKept, Bool.and_eq_true, Bool.not_eq_true', bne_iff_ne]

/-- No character of a kept text is replaced. -/
theorem Kept.isReplaced {s : List Char} (h : Kept s) : ∀ c ∈ s, isReplaced c = false :=
  fun c hc => (isKept_iff.mp (h c hc)).1

/-- Kept texts one behind the other are kept. -/
theorem Kept.append {s t : List Char} (hs : Kept s) (ht : Kept t) : Kept (s ++ t) :=
  List.forall_mem_append.mpr ⟨hs, ht⟩

/-- A kept text is a single piece. -/
theorem Kept.keptPieces {s : List Char} (h : Kept s) : keptPieces s = [s] := by
  refine keptPieces_of_kept h.isReplaced fun hmem => ?_
  exact absurd (h _ hmem) (by decide)

/-- A replaced character ends a piece. -/
theorem Kept.keptPieces_append_cons {q : List Char} (hq : Kept q) {c : Char}
    (hc : EncodedName.isReplaced c = true) {w : List Char}
    (hw : ∀ d ∈ w.head?, EncodedName.isReplaced d = false) :
    EncodedName.keptPieces (q ++ c :: w) = q :: EncodedName.keptPieces w := by
  have hq' := hq.keptPieces
  unfold EncodedName.keptPieces at hq' ⊢
  rw [sanitizeChars_of_kept hq.isReplaced] at hq'
  rw [sanitizeChars_append_of_kept hq.isReplaced, sanitizeChars_cons_of_replaced hc hw,
    @pieces_append_cons (· == '_') '_' rfl, hq']
  rfl

/-- A character that is kept stands at the beginning of the first piece. -/
theorem exists_keptPieces_cons {c : Char} (hc : isKept c = true) (w : List Char) :
    ∃ p ps, keptPieces (c :: w) = (c :: p) :: ps := by
  rw [isKept_iff] at hc
  have hsep : (c == '_') = false := beq_eq_false_iff_ne.mpr hc.2
  rw [keptPieces, sanitizeChars_cons_of_kept hc.1, pieces, hsep]
  cases hp : pieces (· == '_') (sanitizeChars w) with
  | nil => exact absurd hp (pieces_ne_nil _ _)
  | cons p ps => exact ⟨p, ps, rfl⟩

/-- A text that begins so has a first piece that does not look like the one behind a closing
    bracket. -/
theorem Starts.exists_keptPieces {w : List Char} (h : Starts w) :
    ∃ s ps, keptPieces w = s :: ps ∧ s ≠ [] ∧ closes s = false := by
  obtain ⟨c, w, rfl, hc, hne⟩ := h
  obtain ⟨p, ps, hp⟩ := exists_keptPieces_cons hc w
  exact ⟨c :: p, ps, hp, List.cons_ne_nil c p, by simp [closes, hne]⟩

/-- A text that begins so has no replaced character in front. -/
theorem Starts.isReplaced_head {w : List Char} (h : Starts w) :
    ∀ d ∈ w.head?, isReplaced d = false := by
  obtain ⟨c, w, rfl, hc, -⟩ := h
  intro d hd
  obtain rfl := Option.some.inj hd
  exact (isKept_iff.mp hc).1

/-- Hyphens are not replaced. -/
theorem isReplaced_hyphen : isReplaced '-' = false := by decide

namespace Layout

variable {w : List Char}

/-- The sign of a hexadecimal colour ends a piece. -/
theorem keptPieces_hash {q : List Char} (hq : Kept q) (hstart : Starts w) :
    keptPieces (q ++ '#' :: w) = q :: keptPieces w :=
  hq.keptPieces_append_cons (by decide) hstart.isReplaced_head

/-- A dot ends a piece. -/
theorem keptPieces_dot {q : List Char} (hq : Kept q) (hstart : Starts w) :
    keptPieces (q ++ '.' :: w) = q :: keptPieces w :=
  hq.keptPieces_append_cons (by decide) hstart.isReplaced_head

/-- A piece that is not empty is kept as it is in front of another text. -/
theorem isReplaced_head_append {b : List Char} (hb : Kept b) (hne : b ≠ []) (w : List Char) :
    ∀ d ∈ (b ++ w).head?, isReplaced d = false := by
  intro d hd
  rw [List.head?_append_of_ne_nil _ hne] at hd
  exact hb.isReplaced d (List.mem_of_mem_head? hd)

/-- What does not look like the piece behind a closing bracket is not empty. -/
theorem ne_nil_of_closes {b : List Char} (h : closes b = false) : b ≠ [] := by
  rintro rfl
  exact absurd h (by decide)

/-- The name of a call and what its brackets hold are two pieces. -/
theorem keptPieces_call {q b : List Char} (hq : Kept q) (hb : Kept b) (hstart : closes b = false)
    (hclose : w = [] ∨ ∃ w', w = '-' :: w') :
    keptPieces (q ++ '(' :: (b ++ ')' :: w)) = q :: b :: keptPieces w := by
  have hw : ∀ d ∈ w.head?, isReplaced d = false := by
    rcases hclose with rfl | ⟨w', rfl⟩
    · exact fun d hd => nomatch hd
    · intro d hd
      obtain rfl := Option.some.inj hd
      exact isReplaced_hyphen
  rw [hq.keptPieces_append_cons (by decide)
    (isReplaced_head_append hb (ne_nil_of_closes hstart) _),
    hb.keptPieces_append_cons (by decide) hw]

/-- A group with a `minmax` in it has four pieces, the last of which is empty. -/
theorem keptPieces_nested {q x b : List Char} (hq : Kept q) (hx : Kept x)
    (hxstart : closes x = false) (hb : Kept b) (hbstart : closes b = false) :
    keptPieces (q ++ '(' :: (x ++ '(' :: (b ++ [')', ')']))) = [q, x, b, []] := by
  -- both closing brackets become one underscore
  have hlast : keptPieces (b ++ [')', ')']) = [b, []] := by
    have hone : sanitizeChars (b ++ [')', ')']) = sanitizeChars (b ++ [')']) := by
      rw [sanitizeChars_append_of_kept hb.isReplaced, sanitizeChars_append_of_kept hb.isReplaced]
      rfl
    rw [keptPieces, hone]
    exact hb.keptPieces_append_cons (w := []) (by decide) (by simp)
  rw [hq.keptPieces_append_cons (by decide)
    (isReplaced_head_append hx (ne_nil_of_closes hxstart) _),
    hx.keptPieces_append_cons (by decide)
      (isReplaced_head_append hb (ne_nil_of_closes hbstart) _), hlast]

/-- No text has just one underscore and nothing behind it. -/
theorem keptPieces_ne (h : Layout w) (s : List Char) : keptPieces w ≠ [s, []] := by
  intro heq
  -- by the layout: there is no underscore, or two, or something stands behind the only one
  cases h with
  | plain hq =>
    rw [hq.keptPieces] at heq
    simp at heq
  | hash hq _ _ hstart =>
    obtain ⟨s', ps, hps, hne, -⟩ := hstart.exists_keptPieces
    rw [keptPieces_hash hq hstart, hps] at heq
    simp [hne] at heq
  | dot hq _ _ hstart _ =>
    obtain ⟨s', ps, hps, hne, -⟩ := hstart.exists_keptPieces
    rw [keptPieces_dot hq hstart, hps] at heq
    simp [hne] at heq
  | @call q b w hq _ hb hstart _ hclose =>
    rw [keptPieces_call hq hb hstart hclose] at heq
    exact keptPieces_ne_nil w (by simpa using (List.cons.inj (List.cons.inj heq).2).2)
  | nested hq _ hx hxstart _ hb hbstart =>
    rw [keptPieces_nested hq hx hxstart hb hbstart] at heq
    simp at heq

/-- What follows a dot looks neither like the inside of a bracket nor like a group of tracks. -/
theorem second_piece (h : Layout w) (hname : NameOk w) {r s : List Char} {rest : List (List Char)}
    (hpieces : keptPieces w = r :: s :: rest) :
    closes s = false ∧ (nests r && rest == [[]]) = false := by
  -- behind a sign or a dot there is a start, and inside brackets a solid text
  cases h with
  | plain hq =>
    rw [hq.keptPieces] at hpieces
    simp at hpieces
  | @hash q w hq hend hw hstart =>
    obtain ⟨s', ps, hps, -, hs'⟩ := hstart.exists_keptPieces
    rw [keptPieces_hash hq hstart, hps] at hpieces
    obtain ⟨rfl, rfl, rfl⟩ := by simpa using hpieces
    refine ⟨hs', ?_⟩
    -- the rest is not a single empty piece, as no text has just one underscore at its end
    have hrest : ps ≠ [[]] := by
      rintro rfl
      exact hw.keptPieces_ne s' hps
    rw [beq_eq_false_iff_ne.mpr hrest, Bool.and_false]
  | @dot q w hq _ hw hstart _ =>
    obtain ⟨s', ps, hps, -, hs'⟩ := hstart.exists_keptPieces
    rw [keptPieces_dot hq hstart, hps] at hpieces
    obtain ⟨rfl, rfl, rfl⟩ := by simpa using hpieces
    refine ⟨hs', ?_⟩
    have hrest : ps ≠ [[]] := by
      rintro rfl
      exact hw.keptPieces_ne s' hps
    rw [beq_eq_false_iff_ne.mpr hrest, Bool.and_false]
  | @call q b w hq _ hb hstart _ hclose =>
    rw [keptPieces_call hq hb hstart hclose] at hpieces
    obtain ⟨rfl, rfl, -⟩ := by simpa using hpieces
    exact ⟨hstart, by rw [hname q _ rfl hq, Bool.false_and]⟩
  | @nested q x b hq _ hx hxstart _ hb hbstart =>
    rw [keptPieces_nested hq hx hxstart hb hbstart] at hpieces
    obtain ⟨rfl, rfl, -⟩ := by simpa using hpieces
    exact ⟨hxstart, by rw [hname q _ rfl hq, Bool.false_and]⟩

/-- The pieces of such a text tell the text. -/
theorem restore_keptPieces (h : Layout w) : restore (keptPieces w) = w := by
  -- by induction on the layout: each form has its own pieces in front
  induction h with
  | plain hq => rw [hq.keptPieces, restore]
  | @hash q w hq hend hw hstart ih =>
    rw [keptPieces_hash hq hstart, restore_of_opensHash hend (keptPieces_ne_nil w), ih]
  | @dot q w hq hend hw hstart hname ih =>
    rw [keptPieces_dot hq hstart]
    cases hpieces : keptPieces w with
    | nil => exact absurd hpieces (keptPieces_ne_nil w)
    | cons r ps =>
      cases ps with
      | nil =>
        rw [hpieces, restore] at ih
        simp [restore, hend, ih]
      | cons s rest =>
        obtain ⟨hs, hr⟩ := hw.second_piece hname hpieces
        rw [hpieces] at ih
        rw [restore, hend, hs, hr, ih]
        simp
  | @call q b w hq hend hb hstart hw hclose ih =>
    rw [keptPieces_call hq hb hstart hclose]
    -- a closing bracket has nothing behind it, or a hyphen
    obtain ⟨s, rest, hpieces, hs⟩ : ∃ s rest, keptPieces w = s :: rest ∧ closes s = true := by
      rcases hclose with rfl | ⟨w', rfl⟩
      · exact ⟨[], [], rfl, rfl⟩
      · obtain ⟨p, ps, hp⟩ := exists_keptPieces_cons (c := '-') (by decide) w'
        exact ⟨_, ps, hp, rfl⟩
    rw [hpieces] at ih ⊢
    rw [restore, hend, hs, ih]
    simp
  | nested hq hend hx hxstart hnests hb hbstart =>
    rw [keptPieces_nested hq hx hxstart hb hbstart, restore, hend, hbstart, hnests]
    simp

end Layout

/-! ### Value tokens are laid out so -/

/-- No dot has a closing bracket in front of it or the sign of a hexadecimal colour behind it. -/
def LoneDots (s : List Char) : Prop := ¬ [')', '.'] <:+: s ∧ ¬ ['.', '#'] <:+: s

instance (s : List Char) : Decidable (LoneDots s) := inferInstanceAs (Decidable (_ ∧ _))

/-- Dots that stand alone do so in the rest of a text as well. -/
theorem LoneDots.of_suffix {s t : List Char} (h : LoneDots s) (ht : t <:+ s) : LoneDots t :=
  ⟨fun hmem => h.1 (hmem.trans ht.isInfix), fun hmem => h.2 (hmem.trans ht.isInfix)⟩

/-- What may follow a value token: nothing, or a dot and further tokens. -/
def Follows (w : List Char) : Prop :=
  w = [] ∨ ∃ w', w = '.' :: w' ∧ Layout w' ∧ Starts w' ∧ NameOk w'

/-- Small letters, digits and hyphens are kept. -/
theorem isKept_of_isWordChar {c : Char} (h : isWordChar c = true) : isKept c = true := by
  rw [isKept_iff, Bool.eq_false_iff, Ne, isReplaced_iff]
  constructor
  · intro hmem
    revert h
    revert c
    decide
  · rintro rfl
    exact absurd h (by decide)

/-- A hyphen is kept. -/
theorem kept_hyphen : Kept ['-'] := List.forall_mem_singleton.mpr (by decide)

section Solid

variable {s : List Char} (h : Solid s)
include h

/-- Solid texts are kept. -/
theorem kept_of_solid : Kept s := fun c hc => isKept_of_isWordChar (h.isWordChar c hc)

/-- A solid text does not begin with a hyphen. -/
theorem starts_of_solid (w : List Char) : Starts (s ++ w) := by
  have hkept := kept_of_solid h
  obtain ⟨c, rest, rfl⟩ := List.exists_cons_of_ne_nil h.nonempty
  refine ⟨c, rest ++ w, rfl, hkept c List.mem_cons_self, ?_⟩
  rintro rfl
  exact h.head rfl

/-- A solid text does not end with a hyphen, so no sign of a colour follows it. -/
theorem opensHash_of_solid (q : List Char) : opensHash (q ++ s) = false := by
  have hlast := List.getLast?_eq_some_getLast h.nonempty
  have hne : s.getLast h.nonempty ≠ '-' := fun heq => h.last (hlast.trans (congrArg some heq))
  rw [opensHash, List.getLast?_append_of_ne_nil _ h.nonempty, hlast, Option.all_some]
  exact beq_eq_false_iff_ne.mpr hne

/-- A solid text does not look like the piece behind a closing bracket. -/
theorem closes_of_solid : closes s = false := by
  obtain ⟨c, rest, rfl⟩ := List.exists_cons_of_ne_nil h.nonempty
  have hne : c ≠ '-' := by
    rintro rfl
    exact h.head rfl
  exact beq_eq_false_iff_ne.mpr hne

end Solid

/-- What follows a value token may follow its last piece. -/
theorem Follows.layout {w : List Char} (h : Follows w) {q : List Char} (hq : Kept q)
    (hend : w = [] ∨ opensHash q = false) : Layout (q ++ w) := by
  rcases h with rfl | ⟨w', rfl, hw', hstart, hname⟩
  · rw [List.append_nil]
    exact .plain hq
  · rcases hend with hnil | hend
    · cases hnil
    · exact .dot hq hend hw' hstart hname

/-- A closing bracket has a hyphen or nothing behind it, if no dot. -/
theorem Follows.tracks_head {w rest : List Char} (h : Follows w) (hrest : Tracks rest)
    (hlone : LoneDots (')' :: (rest ++ w))) :
    (rest ++ w = [] ∨ ∃ w', rest ++ w = '-' :: w') ∧ (rest = [] → w = []) := by
  cases hrest with
  | nil =>
    rcases h with rfl | ⟨w', rfl, -⟩
    · exact ⟨Or.inl rfl, fun _ => rfl⟩
    · exact absurd ⟨[], w', rfl⟩ hlone.1
  | length hd hrest => exact ⟨Or.inr ⟨_, rfl⟩, fun hnil => nomatch hnil⟩
  | call hf hd hrest => exact ⟨Or.inr ⟨_, rfl⟩, fun hnil => nomatch hnil⟩

/-- The later tracks of a template, behind a piece that may be empty if there are any. -/
theorem layout_of_tracks {s : List Char} (hs : Tracks s) {w : List Char} (hw : Follows w)
    (hlone : LoneDots (s ++ w)) {q : List Char} (hq : Kept q)
    (hend : s = [] → w = [] ∨ opensHash q = false) : Layout (q ++ (s ++ w)) := by
  -- the induction is on the tracks: a length goes on with the piece, a call begins another one
  induction hs generalizing q with
  | nil => exact hw.layout hq (hend rfl)
  | @length d rest hd hrest ih =>
    have hkept : Kept (q ++ '-' :: d) :=
      hq.append (List.forall_mem_cons.mpr ⟨by decide, kept_of_solid hd⟩)
    have hopens : opensHash (q ++ '-' :: d) = false := by
      simpa using opensHash_of_solid hd (q ++ ['-'])
    have hlone' := hlone.of_suffix (t := rest ++ w) ⟨'-' :: d, by simp⟩
    simpa using ih hlone' hkept fun _ => Or.inr hopens
  | @call f d rest hf hd hrest ih =>
    have hkept : Kept (q ++ '-' :: f) :=
      hq.append (List.forall_mem_cons.mpr ⟨by decide, kept_of_solid hf⟩)
    have hopens : opensHash (q ++ '-' :: f) = false := by
      simpa using opensHash_of_solid hf (q ++ ['-'])
    have hclosing := hlone.of_suffix (t := ')' :: (rest ++ w)) ⟨'-' :: (f ++ '(' :: d), by simp⟩
    obtain ⟨hclose, hnil⟩ := hw.tracks_head hrest hclosing
    have hlayout : Layout (rest ++ w) :=
      ih (hclosing.of_suffix ⟨[')'], rfl⟩) (q := []) (fun _ hc => nomatch hc)
        fun h => Or.inl (hnil h)
    simpa using Layout.call hkept hopens (kept_of_solid hd) (closes_of_solid hd) hlayout hclose

/-- A value token and what may follow it. -/
theorem layout_of_token {t : List Char} (ht : Token t) {w : List Char} (hw : Follows w)
    (hlone : LoneDots (t ++ w)) : Layout (t ++ w) := by
  have hopens {s : List Char} (hs : Solid s) : opensHash s = false := opensHash_of_solid hs []
  -- by the form of the token, with its last piece in front of what follows
  cases ht with
  | word hs => exact hw.layout (kept_of_solid hs) (Or.inr (hopens hs))
  | hex hh =>
    have hlayout := hw.layout (kept_of_solid hh) (Or.inr (hopens hh))
    exact Layout.hash (q := []) (fun _ hc => nomatch hc) rfl hlayout (starts_of_solid hh w)
  | @border p h hp hh =>
    have hlayout := hw.layout (kept_of_solid hh) (Or.inr (hopens hh))
    have hkept : Kept (p ++ ['-']) := (kept_of_solid hp).append kept_hyphen
    have hend : opensHash (p ++ ['-']) = true := by simp [opensHash]
    simpa using Layout.hash hkept hend hlayout (starts_of_solid hh w)
  | @call p b rest hp hname hb hrest =>
    have hclosing := hlone.of_suffix (t := ')' :: (rest ++ w)) ⟨p ++ '(' :: b, by simp⟩
    obtain ⟨hclose, hnil⟩ := hw.tracks_head hrest hclosing
    have hlayout : Layout (rest ++ w) :=
      layout_of_tracks hrest hw (hclosing.of_suffix ⟨[')'], rfl⟩) (q := []) (fun _ hc => nomatch hc)
        fun h => Or.inl (hnil h)
    simpa using Layout.call (kept_of_solid hp) (hopens hp) (kept_of_solid hb) (closes_of_solid hb)
      hlayout hclose
  | @nested p x b hp _ hx hnests hb =>
    -- a repeated group is the last token
    have hclosing := hlone.of_suffix (t := ')' :: ([] ++ w))
      ⟨p ++ '(' :: (x ++ '(' :: (b ++ [')'])), by simp⟩
    obtain rfl := (hw.tracks_head .nil hclosing).2 rfl
    rw [List.append_nil]
    exact .nested (kept_of_solid hp) (hopens hp) (kept_of_solid hx) (closes_of_solid hx) hnests
      (kept_of_solid hb) (closes_of_solid hb)

/-- Two texts with the same first replaced character have the same piece in front of it. -/
theorem Kept.append_cons_inj {q x : List Char} (hq : Kept q) (hx : Kept x) {c d : Char}
    (hc : EncodedName.isReplaced c = true) (hd : EncodedName.isReplaced d = true)
    {w w' : List Char} (h : q ++ c :: w = x ++ d :: w') : q = x ∧ c = d := by
  have hstop {c : Char} (hc : EncodedName.isReplaced c = true) {w : List Char} :
      ∀ y ∈ (c :: w).head?, isKept y = false := by
    intro y hy
    obtain rfl := Option.some.inj hy
    rw [isKept, hc]
    rfl
  obtain ⟨hfront, hrest⟩ := append_inj_of_stop hq (hstop hc) hx (hstop hd) h
  exact ⟨hfront, (List.cons.inj hrest).1⟩

/-- The name in front of the first bracket of a token does not nest. -/
theorem nameOk_of_token {t : List Char} (ht : Token t) {w : List Char} (hw : Follows w) :
    NameOk (t ++ w) := by
  intro x rest heq hx
  -- the first replaced character of the token would have to be the bracket
  have hbracket : EncodedName.isReplaced '(' = true := by decide
  have hhash : EncodedName.isReplaced '#' = true := by decide
  cases ht with
  | word hs =>
    rcases hw with rfl | ⟨w', rfl, -⟩
    · -- there is no bracket in it
      rw [List.append_nil] at heq
      have hmem : '(' ∈ t := by rw [heq]; simp
      exact absurd ((kept_of_solid hs).isReplaced _ hmem) (by decide)
    · have hdot : EncodedName.isReplaced '.' = true := by decide
      have hinj := (kept_of_solid hs).append_cons_inj hx hdot hbracket heq
      exact absurd hinj.2 (by decide)
  | @hex h hh =>
    have hinj := Kept.append_cons_inj (q := []) (w := h ++ w) (fun _ hc => nomatch hc) hx hhash
      hbracket heq
    exact absurd hinj.2 (by decide)
  | @border p h hp hh =>
    have hkept : Kept (p ++ ['-']) := (kept_of_solid hp).append kept_hyphen
    have hinj := hkept.append_cons_inj (w := h ++ w) hx hhash hbracket (by simpa using heq)
    exact absurd hinj.2 (by decide)
  | @call p b rest' hp hname hb hrest =>
    have hinj := (kept_of_solid hp).append_cons_inj (w := b ++ ')' :: (rest' ++ w)) hx hbracket
      hbracket (by simpa using heq)
    exact hinj.1 ▸ hname
  | @nested p x' b hp hname _ _ hb =>
    have hinj := (kept_of_solid hp).append_cons_inj (w := x' ++ '(' :: (b ++ ')' :: ')' :: w)) hx
      hbracket hbracket (by simpa using heq)
    exact hinj.1 ▸ hname

/-- A value token begins with a character that is kept, unless it is the sign of a colour. -/
theorem starts_of_token {t : List Char} (ht : Token t) (hhead : t.head? ≠ some '#')
    (w : List Char) : Starts (t ++ w) := by
  cases ht with
  | word hs => exact starts_of_solid hs w
  | hex hh => exact absurd rfl hhead
  | border hp _ => simpa using starts_of_solid hp _
  | call hp _ _ _ => simpa using starts_of_solid hp _
  | nested hp _ _ _ _ => simpa using starts_of_solid hp _

/-- Value tokens with lone dots between them. -/
theorem layout_of_tokens {ts : List (List Char)} (hne : ts ≠ []) (hts : ∀ t ∈ ts, Token t)
    (hlone : LoneDots (['.'].intercalate ts)) :
    Layout (['.'].intercalate ts) ∧ NameOk (['.'].intercalate ts) ∧
      ((['.'].intercalate ts).head? ≠ some '#' → Starts (['.'].intercalate ts)) := by
  induction ts with
  | nil => exact absurd rfl hne
  | cons t ts ih =>
    have ht := hts t List.mem_cons_self
    -- what follows the first token
    obtain ⟨w, hw, heq⟩ : ∃ w, Follows w ∧ ['.'].intercalate (t :: ts) = t ++ w := by
      cases ts with
      | nil => exact ⟨[], Or.inl rfl, by simp⟩
      | cons t' ts =>
        have hjoin : ['.'].intercalate (t :: t' :: ts) =
            t ++ '.' :: ['.'].intercalate (t' :: ts) := by
          rw [List.intercalate_cons_cons, List.append_assoc, List.singleton_append]
        rw [hjoin] at hlone ⊢
        have hdot := hlone.of_suffix (List.suffix_append t _)
        obtain ⟨hlayout, hname, hstarts⟩ := ih (List.cons_ne_nil t' ts)
          (fun u hu => hts u (List.mem_cons_of_mem t hu)) (hdot.of_suffix (List.suffix_cons _ _))
        have hhead : (['.'].intercalate (t' :: ts)).head? ≠ some '#' := by
          intro hhash
          obtain ⟨rest, hrest⟩ := List.head?_eq_some_iff.mp hhash
          exact hdot.2 ⟨[], rest, by rw [hrest]; rfl⟩
        exact ⟨_, Or.inr ⟨_, rfl, hlayout, hstarts hhead, hname⟩, rfl⟩
    rw [heq] at hlone ⊢
    refine ⟨layout_of_token ht hw hlone, nameOk_of_token ht hw, fun hhead => ?_⟩
    refine starts_of_token ht (fun hhash => hhead ?_) w
    obtain ⟨t', rfl⟩ := List.head?_eq_some_iff.mp hhash
    rfl

/-- The values of a name are laid out so if their dots stand alone. -/
theorem IsValid.layout {n : EncodedName} (h : n.IsValid) (hlone : LoneDots n.values.toList) :
    Layout n.values.toList := by
  obtain ⟨ts, hne, hjoin, hts⟩ := h.exists_tokens
  rw [hjoin] at hlone ⊢
  exact (layout_of_tokens hne hts hlone).1

/-! ### Classes and declarations -/

/-- Names with the same generated class and with dots that stand alone have the same values. -/
theorem IsValid.values_eq_of_className_eq {n n' : EncodedName} (h : n.IsValid) (h' : n'.IsValid)
    (hlone : LoneDots n.values.toList) (hlone' : LoneDots n'.values.toList)
    (hclass : n.className = n'.className) : n.values = n'.values := by
  obtain ⟨-, -, -, hvalues⟩ := h.eq_of_className_eq h' hclass
  have hpieces : keptPieces n.values.toList = keptPieces n'.values.toList :=
    congrArg (pieces (· == '_')) hvalues
  rw [← String.toList_inj, ← (h.layout hlone).restore_keptPieces, hpieces,
    (h'.layout hlone').restore_keptPieces]

/-- The names that are found under any markers and compiled anywhere declare the same if they share
    a generated class and the dots of their values stand alone. -/
theorem declarations_eq_of_className_eq {marker marker' name name' : String} {n n' : EncodedName}
    (hn : parse? marker name = some n) (hn' : parse? marker' name' = some n')
    (hlone : LoneDots n.values.toList) (hlone' : LoneDots n'.values.toList)
    {t t₁ t' t₁' : Dom.Tree} {r r' : Dom.NodeRef} {compiled compiled' : Compiled}
    (hc : n.compile t r = .ok (compiled, t₁)) (hc' : n'.compile t' r' = .ok (compiled', t₁'))
    {class₀ : String} (hclass : compiled.className = some class₀)
    (hclass' : compiled'.className = some class₀) :
    compiled.rule.declarations = compiled'.rule.declarations := by
  have hvalid := (parse?_eq_some_iff.mp hn).1
  have hvalid' := (parse?_eq_some_iff.mp hn').1
  have hplan := plan_of_compile hc
  have hplan' := plan_of_compile hc'
  have hsame : n.className = n'.className :=
    (className_of_plan hplan _ hclass).symm.trans (className_of_plan hplan' _ hclass')
  obtain ⟨-, hproperties, himportant, -⟩ := hvalid.eq_of_className_eq hvalid' hsame
  have hvalues := hvalid.values_eq_of_className_eq hvalid' hlone hlone' hsame
  -- the declarations depend on nothing else
  obtain ⟨-, -, -, -, -, rfl⟩ := plan_eq_ok_iff.mp hplan
  obtain ⟨-, -, -, -, -, rfl⟩ := plan_eq_ok_iff.mp hplan'
  simp only [planned, declarations, hproperties, hvalues, himportant]

/-- What a class name comes to on the paragraph of the sample page: the class and the
    declarations. -/
def sampleOutcome (marker name : String) : Option (Option String × List Declaration) :=
  (parse? marker name).bind fun n =>
    (n.compile Pass.samplePage.tree (some 5)).toOption.map fun (compiled, _) =>
      (compiled.className, compiled.rule.declarations)

/-- An outcome on the sample page is that of compiling the name there. -/
theorem exists_of_sampleOutcome {marker name : String} {n : EncodedName}
    (hn : parse? marker name = some n) {className : Option String} {ds : List Declaration}
    (h : sampleOutcome marker name = some (className, ds)) :
    ∃ compiled t, n.compile Pass.samplePage.tree (some 5) = .ok (compiled, t) ∧
      compiled.className = className ∧ compiled.rule.declarations = ds := by
  rw [sampleOutcome, hn, Option.bind_some] at h
  cases hc : n.compile Pass.samplePage.tree (some 5) with
  | error e =>
    rw [hc] at h
    cases h
  | ok result =>
    rw [hc] at h
    obtain ⟨rfl, rfl⟩ := by simpa [Except.toOption] using h
    exact ⟨result.1, result.2, rfl, rfl, rfl⟩

/-- A colour under two markers: the brackets in the class are read back. -/
theorem declarations_eq_of_className_eq_rgb :
    ∃ n n' compiled compiled' t t', parse? "lcs" "lcsAll_rgb(1-2-3)" = some n ∧
      parse? "x" "xAll_rgb(1-2-3)" = some n' ∧
      n.compile Pass.samplePage.tree (some 5) = .ok (compiled, t) ∧
      n'.compile Pass.samplePage.tree (some 5) = .ok (compiled', t') ∧
      compiled.className = some "_All_rgb_1-2-3_" ∧ compiled'.className = some "_All_rgb_1-2-3_" ∧
      compiled.rule.declarations = compiled'.rule.declarations := by
  have hn : parse? "lcs" "lcsAll_rgb(1-2-3)" =
      some ⟨"lcsAll_rgb(1-2-3)", none, none, none, "All", "rgb(1-2-3)", false⟩ := by decide +kernel
  have hn' : parse? "x" "xAll_rgb(1-2-3)" =
      some ⟨"xAll_rgb(1-2-3)", none, none, none, "All", "rgb(1-2-3)", false⟩ := by decide +kernel
  have hout : sampleOutcome "lcs" "lcsAll_rgb(1-2-3)" =
      some (some "_All_rgb_1-2-3_", [⟨"all", "rgb(1, 2, 3)", false⟩]) := by decide +kernel
  have hout' : sampleOutcome "x" "xAll_rgb(1-2-3)" =
      some (some "_All_rgb_1-2-3_", [⟨"all", "rgb(1, 2, 3)", false⟩]) := by decide +kernel
  obtain ⟨compiled, t, hc, hclass, -⟩ := exists_of_sampleOutcome hn hout
  obtain ⟨compiled', t', hc', hclass', -⟩ := exists_of_sampleOutcome hn' hout'
  have hlone : LoneDots "rgb(1-2-3)".toList := by decide +kernel
  exact ⟨_, _, compiled, compiled', t, t', hn, hn', hc, hc', hclass, hclass',
    declarations_eq_of_className_eq hn hn' hlone hlone hc hc' hclass hclass'⟩

/-- A dot and the sign of a hexadecimal colour together become one underscore, as a dot alone does,
    so two names with different declarations share a class. -/
theorem sampleOutcome_hash :
    sampleOutcome "lcs" "lcsAll.All_10px.#123" =
        some (some "_All_All_10px_123", [⟨"all", "10px", false⟩, ⟨"all", "#123", false⟩]) ∧
      sampleOutcome "lcs" "lcsAll.All_10px.123" =
        some (some "_All_All_10px_123", [⟨"all", "10px", false⟩, ⟨"all", "123", false⟩]) := by
  decide +kernel

end ClassSheet.EncodedName
