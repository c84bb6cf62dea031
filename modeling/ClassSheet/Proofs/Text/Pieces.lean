import ClassSheet.Text.Blank

/-! # Pieces and their separator

Cutting a text at a character and joining the pieces with that character are inverse to each other
(`pieces_eq_iff`). Two lists that stop passing a test at a joint have the same joint
(`append_inj_of_stop`), so texts that end with a mark can be joined and told apart again
(`intercalate_map_inj`). -/

namespace ClassSheet.Text

/-! ### Deciding -/

section Deciding

variable {p : Char → Prop} [DecidablePred p]

-- these look at the characters of the text, and not at every character that there is
instance (priority := high) decidableForallMem (cs : List Char) : Decidable (∀ c ∈ cs, p c) :=
  List.decidableBAll p cs

instance (priority := high) decidableForallMemOption (o : Option Char) :
    Decidable (∀ c ∈ o, p c) :=
  match o with
  | none => isTrue fun _ hc => nomatch hc
  | some c => decidable_of_iff (p c) (by simp)

end Deciding

/-! ### Joints -/

section Joints

variable {α : Type} {p : α → Bool} {xs xs' ys ys' : List α}

/-- A front whose elements pass a test is taken where the next one does not. -/
theorem takeWhile_append_of_stop (hxs : ∀ x ∈ xs, p x = true)
    (hys : ∀ y ∈ ys.head?, p y = false) : (xs ++ ys).takeWhile p = xs := by
  rw [List.takeWhile_append_of_pos hxs]
  cases ys with
  | nil => simp
  | cons y ys => simp [hys y rfl]

/-- What comes behind it is left. -/
theorem dropWhile_append_of_stop (hxs : ∀ x ∈ xs, p x = true)
    (hys : ∀ y ∈ ys.head?, p y = false) : (xs ++ ys).dropWhile p = ys := by
  rw [List.dropWhile_append_of_pos hxs]
  cases ys with
  | nil => simp
  | cons y ys => simp [hys y rfl]

/-- Where the elements of a front pass a test and the next one does not, the list tells it. -/
theorem append_inj_of_stop (hxs : ∀ x ∈ xs, p x = true) (hys : ∀ y ∈ ys.head?, p y = false)
    (hxs' : ∀ x ∈ xs', p x = true) (hys' : ∀ y ∈ ys'.head?, p y = false)
    (h : xs ++ ys = xs' ++ ys') : xs = xs' ∧ ys = ys' := by
  have hfront : xs = xs' := by
    rw [← takeWhile_append_of_stop hxs hys, h, takeWhile_append_of_stop hxs' hys']
  subst hfront
  exact ⟨rfl, List.append_cancel_left h⟩

end Joints

section Marked

variable {α β : Type} {P : α → Prop} {f : α → List β} {sep : List β} {stop : β}

/-- A joined text is its first part and then each further one behind a separator. -/
theorem intercalate_cons_eq (x : List β) (xs : List (List β)) :
    sep.intercalate (x :: xs) = x ++ xs.flatMap (sep ++ ·) := by
  induction xs generalizing x with
  | nil => simp
  | cons y ys ih =>
    rw [List.intercalate_cons_cons, ih, List.flatMap_cons]
    simp only [List.append_assoc]

-- the texts end with a mark that they do not have inside, and each tells what it is the text of
variable (hmark : ∀ a, P a → ∃ body, stop ∉ body ∧ f a = body ++ [stop])
  (hinj : ∀ a b, P a → P b → f a = f b → a = b)

include hmark in
/-- A text that ends with the mark is not empty. -/
theorem ne_nil_of_mark {a : α} (ha : P a) : f a ≠ [] := by
  obtain ⟨body, -, hfa⟩ := hmark a ha
  simp [hfa]

variable [DecidableEq β]

include hmark hinj

/-- Such a text can be told from what follows it. -/
theorem append_inj_of_mark {a b : α} {xs ys : List β} (ha : P a) (hb : P b)
    (h : f a ++ xs = f b ++ ys) : a = b ∧ xs = ys := by
  obtain ⟨s, hs, hfa⟩ := hmark a ha
  obtain ⟨t, ht, hfb⟩ := hmark b hb
  have hbody {s : List β} (hs : stop ∉ s) : ∀ x ∈ s, (x != stop) = true := by
    intro x hx
    refine bne_iff_ne.mpr fun heq => hs ?_
    rwa [← heq]
  have hjoint (xs : List β) : ∀ x ∈ (stop :: xs).head?, (x != stop) = false := by simp
  rw [hfa, hfb, List.append_assoc, List.append_assoc] at h
  obtain ⟨hst, hrest⟩ := append_inj_of_stop (hbody hs) (hjoint xs) (hbody ht) (hjoint ys) h
  refine ⟨hinj a b ha hb ?_, (List.cons.inj hrest).2⟩
  rw [hfa, hfb, hst]

/-- Each of several such texts behind a separator. -/
theorem flatMap_map_inj (hsep : sep ≠ []) {as bs : List α} (hP : ∀ a ∈ as, P a)
    (hP' : ∀ b ∈ bs, P b)
    (h : (as.map f).flatMap (sep ++ ·) = (bs.map f).flatMap (sep ++ ·)) : as = bs := by
  induction as generalizing bs with
  | nil =>
    cases bs with
    | nil => rfl
    | cons b bs => simp [hsep] at h
  | cons a as ih =>
    cases bs with
    | nil => simp [hsep] at h
    | cons b bs =>
      obtain ⟨ha, has⟩ := List.forall_mem_cons.mp hP
      obtain ⟨hb, hbs⟩ := List.forall_mem_cons.mp hP'
      simp only [List.map_cons, List.flatMap_cons, List.append_assoc] at h
      obtain ⟨rfl, hrest⟩ := append_inj_of_mark hmark hinj ha hb (List.append_cancel_left h)
      rw [ih has hbs hrest]

/-- Such texts, joined with a separator, tell what they are the texts of. -/
theorem intercalate_map_inj (hsep : sep ≠ []) {as bs : List α} (hP : ∀ a ∈ as, P a)
    (hP' : ∀ b ∈ bs, P b) (h : sep.intercalate (as.map f) = sep.intercalate (bs.map f)) :
    as = bs := by
  cases as with
  | nil =>
    cases bs with
    | nil => rfl
    | cons b bs =>
      simp [intercalate_cons_eq, ne_nil_of_mark hmark (hP' b List.mem_cons_self)] at h
  | cons a as =>
    cases bs with
    | nil => simp [intercalate_cons_eq, ne_nil_of_mark hmark (hP a List.mem_cons_self)] at h
    | cons b bs =>
      obtain ⟨ha, has⟩ := List.forall_mem_cons.mp hP
      obtain ⟨hb, hbs⟩ := List.forall_mem_cons.mp hP'
      simp only [List.map_cons, intercalate_cons_eq] at h
      obtain ⟨rfl, hrest⟩ := append_inj_of_mark hmark hinj ha hb h
      rw [flatMap_map_inj hmark hinj hsep has hbs hrest]

end Marked

/-! ### Pieces -/

/-- `pieces` cuts as `splitOnP` of the library does. -/
theorem pieces_eq_splitOnP (isSep : Char → Bool) (cs : List Char) :
    pieces isSep cs = cs.splitOnP isSep := by
  induction cs with
  | nil => simp [pieces]
  | cons c cs ih =>
    rw [List.splitOnP_cons_eq_if_modifyHead, pieces, ih]
    split
    · rfl
    · cases h : cs.splitOnP isSep with
      | nil => exact absurd h (List.splitOnP_ne_nil isSep cs)
      | cons p ps => rfl

/-- Pieces without the separator in them are those of exactly the text that they join to. -/
theorem pieces_eq_iff {x : Char} {cs : List Char} {ps : List (List Char)} (hne : ps ≠ [])
    (hx : ∀ p ∈ ps, x ∉ p) : pieces (· == x) cs = ps ↔ cs = [x].intercalate ps := by
  rw [pieces_eq_splitOnP, ← List.splitOn_eq_splitOnP]
  constructor
  · rintro rfl
    exact (List.intercalate_splitOn x).symm
  · rintro rfl
    exact List.splitOn_intercalate x hx hne

/-- The pieces of a text join to it. -/
theorem intercalate_pieces (x : Char) (cs : List Char) :
    [x].intercalate (pieces (· == x) cs) = cs := by
  rw [pieces_eq_splitOnP, ← List.splitOn_eq_splitOnP]
  exact List.intercalate_splitOn x

/-- The characters of a joined text are the joining one and those of the parts. -/
theorem mem_intercalate {x c : Char} {ps : List (List Char)} (h : c ∈ [x].intercalate ps) :
    c = x ∨ ∃ p ∈ ps, c ∈ p := by
  induction ps with
  | nil => cases h
  | cons p ps ih =>
    cases ps with
    | nil => exact Or.inr ⟨p, List.mem_cons_self, by simpa using h⟩
    | cons q ps =>
      rw [List.intercalate_cons_cons, List.append_assoc, List.singleton_append] at h
      rcases List.mem_append.mp h with h | h
      · exact Or.inr ⟨p, List.mem_cons_self, h⟩
      · rcases List.mem_cons.mp h with rfl | h
        · exact Or.inl rfl
        · exact (ih h).imp_right fun ⟨r, hr, hc⟩ => ⟨r, List.mem_cons_of_mem p hr, hc⟩

/-- Every piece is made of characters of the text. -/
theorem mem_of_mem_pieces {isSep : Char → Bool} {cs p : List Char} (h : p ∈ pieces isSep cs) :
    ∀ c ∈ p, c ∈ cs := by
  induction cs generalizing p with
  | nil =>
    obtain rfl : p = [] := by simpa [pieces] using h
    intro c hc
    cases hc
  | cons d cs ih =>
    intro c hc
    rw [pieces] at h
    -- at a separator an empty piece comes first, otherwise the first piece begins with `d`
    split at h
    · rcases List.mem_cons.mp h with rfl | h
      · cases hc
      · exact List.mem_cons_of_mem d (ih h c hc)
    · split at h
      · next heq => exact absurd heq (pieces_ne_nil isSep cs)
      · next q qs heq =>
        rcases List.mem_cons.mp h with rfl | h
        · rcases List.mem_cons.mp hc with rfl | hc
          · exact List.mem_cons_self
          · exact List.mem_cons_of_mem d (ih (heq ▸ List.mem_cons_self) c hc)
        · exact List.mem_cons_of_mem d (ih (heq ▸ List.mem_cons_of_mem q h) c hc)

/-- A joined text is cut where it is joined and where its parts are cut. -/
theorem pieces_intercalate {x : Char} {ps : List (List Char)} (hne : ps ≠ []) :
    pieces (· == x) ([x].intercalate ps) = ps.flatMap (pieces (· == x)) := by
  induction ps with
  | nil => exact absurd rfl hne
  | cons p ps ih =>
    cases ps with
    | nil => simp
    | cons q ps =>
      have hx : (x == x) = true := beq_self_eq_true x
      rw [List.intercalate_cons_cons, List.append_assoc, List.singleton_append,
        @pieces_append_cons (· == x) x hx, ih (List.cons_ne_nil q ps)]
      rfl

/-! ### Words -/

/-- Pieces without a separator are those of the text that a separator joins them to. -/
theorem pieces_intercalate_of_isSep {isSep : Char → Bool} {x : Char} (hx : isSep x = true)
    {ps : List (List Char)} (hne : ps ≠ []) (h : ∀ p ∈ ps, ∀ c ∈ p, isSep c = false) :
    pieces isSep ([x].intercalate ps) = ps := by
  induction ps with
  | nil => exact absurd rfl hne
  | cons p ps ih =>
    obtain ⟨hp, hps⟩ := List.forall_mem_cons.mp h
    cases ps with
    | nil => simpa using pieces_eq_singleton hp
    | cons q ps =>
      -- the first joint ends the first piece
      rw [List.intercalate_cons_cons, List.append_assoc, List.singleton_append,
        pieces_append_cons hx, pieces_eq_singleton hp, ih (List.cons_ne_nil q ps) hps]
      rfl

/-- Words with a space between them are the words of the joined text. -/
theorem words_intercalate {ws : List String}
    (h : ∀ w ∈ ws, w ≠ "" ∧ ∀ c ∈ w.toList, isBlank c = false) :
    words (String.intercalate " " ws) = ws := by
  cases ws with
  | nil => decide
  | cons w ws =>
    have hpieces : pieces isBlank (String.intercalate " " (w :: ws)).toList =
        (w :: ws).map String.toList := by
      rw [String.toList_intercalate]
      refine pieces_intercalate_of_isSep (by decide) (by simp) fun p hp => ?_
      obtain ⟨v, hv, rfl⟩ := List.mem_map.mp hp
      exact (h v hv).2
    -- no word is empty, so none is dropped
    have hfilter : ((w :: ws).map String.toList).filter (!·.isEmpty) =
        (w :: ws).map String.toList := by
      rw [List.filter_eq_self]
      intro cs hcs
      obtain ⟨v, hv, rfl⟩ := List.mem_map.mp hcs
      have hne : v.toList ≠ [] := fun hnil => (h v hv).1 (String.toList_eq_nil_iff.mp hnil)
      simpa using hne
    rw [words, hpieces, hfilter, List.map_map]
    simp [Function.comp_def]

end ClassSheet.Text
