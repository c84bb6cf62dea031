import ClassSheet.Proofs.Css.Tokens
import ClassSheet.Proofs.Name.Parts

/-! # What a generated class tells

The generated class is the name without its marker, in which replaced characters have become
underscores. The pieces between its underscores are the parts of the scope, an empty one, the words
of the properties, the pieces of the values and the mark of importance, and they can be told apart:
the parts of the scope are not empty, and of the others just the pieces of the values begin with no
upper-case letter. So the class determines all but the values, and those up to their replaced
characters (`IsValid.eq_of_className_eq`). -/

namespace ClassSheet.EncodedName

open ClassSheet.Text

/-! ### Replaced characters -/

/-- The replaced characters. -/
def replaced : List Char := ['.', '#', '(', ')', ',']

/-- The test, as membership in the list. -/
theorem isReplaced_iff {c : Char} : isReplaced c = true ↔ c ∈ replaced := List.contains_iff_mem

/-- A pattern that avoids replaced characters has texts without them. -/
theorem isReplaced_eq_false_of_avoids {p : Pattern} {s : List Char}
    (h : p.avoidsAll replaced = true) (hs : p.Matches s) : ∀ c ∈ s, isReplaced c = false := by
  intro c hc
  rw [Bool.eq_false_iff]
  exact mt isReplaced_iff.mp (Pattern.not_mem_of_avoidsAll h hs c hc)

/-- A character that is kept stays in front. -/
theorem sanitizeChars_cons_of_kept {c : Char} (hc : isReplaced c = false) (xs : List Char) :
    sanitizeChars (c :: xs) = c :: sanitizeChars xs := by
  rw [sanitizeChars, hc, if_neg Bool.false_ne_true]

/-- Characters that are kept stay in place. -/
theorem sanitizeChars_append_of_kept {xs : List Char} (h : ∀ c ∈ xs, isReplaced c = false)
    (ys : List Char) : sanitizeChars (xs ++ ys) = xs ++ sanitizeChars ys := by
  induction xs with
  | nil => rfl
  | cons c xs ih =>
    rw [List.cons_append, sanitizeChars_cons_of_kept (h c List.mem_cons_self),
      ih fun d hd => h d (List.mem_cons_of_mem _ hd), List.cons_append]

/-- A text without replaced characters does not change. -/
theorem sanitizeChars_of_kept {xs : List Char} (h : ∀ c ∈ xs, isReplaced c = false) :
    sanitizeChars xs = xs := by
  simpa [sanitizeChars] using sanitizeChars_append_of_kept h []

/-- One replaced character becomes an underscore. -/
theorem sanitizeChars_cons_of_replaced {c : Char} {xs : List Char} (hc : isReplaced c = true)
    (hxs : ∀ d ∈ xs.head?, isReplaced d = false) :
    sanitizeChars (c :: xs) = '_' :: sanitizeChars xs := by
  rw [sanitizeChars, if_pos hc, if_neg]
  cases xs with
  | nil => simp
  | cons d xs => simp [hxs d rfl]

/-- No stretch of replaced characters goes beyond a kept one. -/
theorem sanitizeChars_append_cons {c : Char} (hc : isReplaced c = false) (xs ys : List Char) :
    sanitizeChars (xs ++ c :: ys) = sanitizeChars xs ++ c :: sanitizeChars ys := by
  induction xs with
  | nil => exact sanitizeChars_cons_of_kept hc ys
  | cons d xs ih =>
    -- the next character is replaced or not as it is without the kept one
    have hhead : (xs ++ c :: ys).head?.map isReplaced =
        some ((xs.head?.map isReplaced).getD false) := by
      cases xs with
      | nil => simp [hc]
      | cons e xs => simp
    rw [List.cons_append, sanitizeChars, sanitizeChars, ih, hhead, Option.getD_some]
    split
    · split <;> rfl
    · rfl

/-- An underscore between texts is no part of a stretch, so each is changed on its own. -/
theorem sanitizeChars_intercalate (ps : List (List Char)) :
    sanitizeChars (['_'].intercalate ps) = ['_'].intercalate (ps.map sanitizeChars) := by
  induction ps with
  | nil => rfl
  | cons p ps ih =>
    cases ps with
    | nil => simp
    | cons q ps =>
      have hkept : isReplaced '_' = false := by decide
      rw [List.intercalate_cons_cons, List.append_assoc, List.singleton_append,
        sanitizeChars_append_cons hkept, ih]
      simp only [List.map_cons, List.intercalate_cons_cons, List.append_assoc,
        List.singleton_append]

/-! ### Pieces -/

/-- The pieces of a text after its replaced characters have become underscores. -/
def keptPieces (s : List Char) : List (List Char) := pieces (· == '_') (sanitizeChars s)

/-- There is always a piece. -/
theorem keptPieces_ne_nil (s : List Char) : keptPieces s ≠ [] := pieces_ne_nil _ _

/-- A text without underscores and replaced characters is a single piece. -/
theorem keptPieces_of_kept {s : List Char} (hs : ∀ c ∈ s, isReplaced c = false) (h_ : '_' ∉ s) :
    keptPieces s = [s] := by
  rw [keptPieces, sanitizeChars_of_kept hs]
  apply pieces_eq_singleton
  intro c hc
  rw [beq_eq_false_iff_ne]
  rintro rfl
  exact h_ hc

/-- The pieces of texts with underscores between them are those of each. -/
theorem keptPieces_intercalate {ps : List (List Char)} (hne : ps ≠ []) :
    keptPieces (['_'].intercalate ps) = ps.flatMap keptPieces := by
  rw [keptPieces, sanitizeChars_intercalate, pieces_intercalate (by simpa using hne),
    List.flatMap_map]
  rfl

/-- The pieces tell the text with its underscores. -/
theorem sanitizeChars_eq_of_keptPieces_eq {s s' : List Char} (h : keptPieces s = keptPieces s') :
    sanitizeChars s = sanitizeChars s' := by
  have hjoin := congrArg ['_'].intercalate h
  rwa [keptPieces, keptPieces, intercalate_pieces, intercalate_pieces] at hjoin

/-! ### The parts of a generated class -/

/-- The mark of importance, if a name has it. -/
def importantParts (important : Bool) : List (List Char) :=
  if important then ["IMPT".toList] else []

/-- The text behind the generated class is joined from the parts of the name and an empty one
    between its scope and its properties. -/
theorem toList_classSource (n : EncodedName) :
    n.classSource.toList = ['_'].intercalate (scopeParts n.media n.reach n.pseudo ++
      ([] :: n.properties.toList :: n.values.toList :: importantParts n.important)) := by
  have himportant : "_IMPT".toList = '_' :: "IMPT".toList := by decide
  unfold classSource scopeParts importantParts
  cases n.media <;> cases n.reach <;> cases n.pseudo <;> cases n.important <;>
    simp [String.join, himportant, List.intercalate_cons_cons]

/-- That text has the characters of the parts, and underscores. -/
theorem mem_classSource {n : EncodedName} {c : Char} (hc : c ∈ n.classSource.toList) :
    c = '_' ∨ ∃ part ∈ n.parts, c ∈ part := by
  rw [toList_classSource] at hc
  refine (mem_intercalate hc).imp_right fun hpart => ?_
  obtain ⟨part, hpart, hc⟩ := hpart
  refine ⟨part, ?_, hc⟩
  simp only [List.mem_append, List.mem_cons] at hpart
  simp only [parts, List.mem_append, List.mem_cons, List.not_mem_nil, or_false]
  -- the empty part in the middle holds no character
  rcases hpart with hscope | rfl | rfl | rfl | himportant
  · exact Or.inl (Or.inl hscope)
  · cases hc
  · exact Or.inl (Or.inr (Or.inl rfl))
  · exact Or.inl (Or.inr (Or.inr rfl))
  · exact Or.inr himportant

/-- The pieces of a generated class, by the parts of the name. -/
theorem pieces_className (n : EncodedName) :
    pieces (· == '_') n.className.toList =
      (scopeParts n.media n.reach n.pseudo).flatMap keptPieces ++
        ([] :: (keptPieces n.properties.toList ++
          (keptPieces n.values.toList ++ importantParts n.important))) := by
  have hempty : keptPieces [] = [[]] := rfl
  have himportant : (importantParts n.important).flatMap keptPieces =
      importantParts n.important := by
    cases n.important <;> decide
  have hne : scopeParts n.media n.reach n.pseudo ++
      ([] :: n.properties.toList :: n.values.toList :: importantParts n.important) ≠ [] := by simp
  have hkept := keptPieces_intercalate hne
  rw [className, sanitize, String.toList_ofList, toList_classSource]
  refine hkept.trans ?_
  simp only [List.flatMap_append, List.flatMap_cons, hempty, himportant, List.singleton_append]

/-! ### Scope -/

/-- Neither media tokens nor tokens of reaches have replaced characters. -/
theorem avoidsAll_scope : Media.tokenPattern.avoidsAll replaced = true ∧
    Reach.tokenPattern.avoidsAll replaced = true := by decide +kernel

/-- The parts of the scope stand in the class as they are. -/
theorem IsValid.keptPieces_scope {n : EncodedName} (h : n.IsValid) :
    (scopeParts n.media n.reach n.pseudo).flatMap keptPieces =
      scopeParts n.media n.reach n.pseudo := by
  have hone (part : List Char) (hpart : part ∈ scopeParts n.media n.reach n.pseudo) :
      keptPieces part = [part] := by
    refine keptPieces_of_kept ?_ (h.underscore_not_mem part ?_)
    · simp only [scopeParts, List.mem_append, Option.mem_toList, Option.map_eq_some_iff] at hpart
      rcases hpart with ⟨t, ht, rfl⟩ | ⟨t, ht, rfl⟩ | ⟨p, -, rfl⟩
      · exact isReplaced_eq_false_of_avoids avoidsAll_scope.1 (h.media t ht)
      · exact isReplaced_eq_false_of_avoids avoidsAll_scope.2 (h.reach t ht)
      · cases p <;> decide
    · simp [parts, hpart]
  generalize scopeParts n.media n.reach n.pseudo = ps at hone ⊢
  induction ps with
  | nil => rfl
  | cons part rest ih =>
    rw [List.flatMap_cons, hone part List.mem_cons_self,
      ih fun p hp => hone p (List.mem_cons_of_mem _ hp), List.singleton_append]

/-- No part of the scope is empty. -/
theorem IsValid.nil_not_mem_scope {n : EncodedName} (h : n.IsValid) :
    [] ∉ scopeParts n.media n.reach n.pseudo := by
  intro hmem
  simp only [scopeParts, List.mem_append, Option.mem_toList, Option.map_eq_some_iff] at hmem
  rcases hmem with ⟨t, ht, hnil⟩ | ⟨t, ht, hnil⟩ | ⟨p, -, hnil⟩
  · have hmatches := h.media t ht
    rw [hnil] at hmatches
    exact absurd hmatches (by decide +kernel)
  · have hmatches := h.reach t ht
    rw [hnil] at hmatches
    exact absurd hmatches (by decide +kernel)
  · exact absurd hnil (by cases p <;> decide)

/-- The parts of the scope tell the scope. -/
theorem scope_eq_of_parts_eq {n n' : EncodedName} (h : n.IsValid) (h' : n'.IsValid)
    (hparts : scopeParts n.media n.reach n.pseudo = scopeParts n'.media n'.reach n'.pseudo) :
    n.media = n'.media ∧ n.reach = n'.reach ∧ n.pseudo = n'.pseudo := by
  have hparse : parseScope? (scopeParts n.media n.reach n.pseudo) =
      some (n.media, n.reach, n.pseudo) := parseScope?_eq_some_iff.mpr ⟨rfl, h.media, h.reach⟩
  have hparse' : parseScope? (scopeParts n'.media n'.reach n'.pseudo) =
      some (n'.media, n'.reach, n'.pseudo) := parseScope?_eq_some_iff.mpr ⟨rfl, h'.media, h'.reach⟩
  rw [hparts] at hparse
  have heq := Option.some.inj (hparse.symm.trans hparse')
  simpa using heq

/-! ### Properties, values and importance -/

/-- Whether a piece begins with an upper-case letter. -/
def isCapital (piece : List Char) : Bool := piece.head?.any Char.isUpper

/-- A property token begins with a capital and stands in the class as it is. -/
theorem kept_of_property {s : List Char}
    (hs : (Pattern.one Char.isUpper ++ Pattern.many1 (Pattern.one Char.isAlpha)).Matches s) :
    isCapital s = true ∧ (∀ c ∈ s, isReplaced c = false) ∧ '_' ∉ s := by
  have havoids : (Pattern.one Char.isUpper ++ Pattern.many1 (Pattern.one Char.isAlpha)).avoidsAll
      ('_' :: replaced) = true := by decide +kernel
  have hkept := Pattern.not_mem_of_avoidsAll havoids hs
  refine ⟨?_, fun c hc => ?_, fun hmem => hkept '_' hmem List.mem_cons_self⟩
  · obtain ⟨_, rest, rfl, ⟨c, hc, rfl⟩, -⟩ := hs
    exact hc
  · rw [Bool.eq_false_iff, Ne, isReplaced_iff]
    exact mt (List.mem_cons_of_mem '_') (hkept c hc)

/-- Between words a dot becomes an underscore. -/
theorem sanitizeChars_intercalate_dot {ws : List (List Char)}
    (hws : ∀ w ∈ ws, w ≠ [] ∧ ∀ c ∈ w, isReplaced c = false) :
    sanitizeChars (['.'].intercalate ws) = ['_'].intercalate ws := by
  induction ws with
  | nil => rfl
  | cons w ws ih =>
    have hrest := ih fun v hv => hws v (List.mem_cons_of_mem _ hv)
    have hw := (hws w List.mem_cons_self).2
    cases ws with
    | nil => simpa using sanitizeChars_of_kept hw
    | cons v ws =>
      -- the dot is a run of its own, as the next word begins with a character that is kept
      have hhead : ∀ d ∈ (['.'].intercalate (v :: ws)).head?, isReplaced d = false := by
        obtain ⟨hne, hkept⟩ := hws v (by simp)
        obtain ⟨d, v', rfl⟩ := List.exists_cons_of_ne_nil hne
        cases ws with
        | nil => simpa using hkept d (by simp)
        | cons u ws => simpa [List.intercalate_cons_cons] using hkept d (by simp)
      rw [List.intercalate_cons_cons, List.append_assoc, List.singleton_append,
        sanitizeChars_append_of_kept hw, sanitizeChars_cons_of_replaced (by decide) hhead, hrest,
        List.intercalate_cons_cons, List.append_assoc, List.singleton_append]

/-- The pieces of the properties are their words, so they begin with upper-case letters and tell the
    properties. -/
theorem IsValid.keptPieces_properties {n : EncodedName} (h : n.IsValid) :
    (∀ piece ∈ keptPieces n.properties.toList, isCapital piece = true) ∧
      n.properties.toList = ['.'].intercalate (keptPieces n.properties.toList) := by
  obtain ⟨ws, hne, hjoin, hws⟩ :=
    Pattern.exists_intercalate_of_matches (x := '.') (by decide) h.properties
  have hwords (w : List Char) (hw : w ∈ ws) : w ≠ [] ∧ ∀ c ∈ w, isReplaced c = false := by
    obtain ⟨hcapital, hkept, -⟩ := kept_of_property (hws w hw)
    refine ⟨?_, hkept⟩
    rintro rfl
    exact absurd hcapital (by decide)
  have hpieces : keptPieces n.properties.toList = ws := by
    rw [keptPieces, hjoin, sanitizeChars_intercalate_dot hwords, pieces_eq_iff hne]
    exact fun w hw => (kept_of_property (hws w hw)).2.2
  rw [hpieces]
  exact ⟨fun w hw => (kept_of_property (hws w hw)).1, hjoin⟩

/-- The values are value tokens with dots between them. -/
theorem IsValid.exists_tokens {n : EncodedName} (h : n.IsValid) :
    ∃ ts, ts ≠ [] ∧ n.values.toList = ['.'].intercalate ts ∧ ∀ t ∈ ts, Css.Token t := by
  obtain ⟨ts, hne, hjoin, hts⟩ :=
    Pattern.exists_intercalate_of_matches (x := '.') (by decide) h.values
  refine ⟨ts, hne, hjoin, fun t ht => ?_⟩
  obtain ⟨p, hp, hmatches⟩ := Pattern.matches_oneOf.mp (hts t ht)
  obtain ⟨shape, -, rfl⟩ := List.mem_map.mp hp
  exact Css.Shape.token hmatches

/-- What is left of a text are its characters and underscores. -/
theorem mem_of_mem_sanitizeChars {s : List Char} {c : Char} (hc : c ∈ sanitizeChars s) :
    c ∈ s ∨ c = '_' := by
  induction s with
  | nil => cases hc
  | cons d s ih =>
    rw [sanitizeChars] at hc
    split at hc
    · split at hc
      · exact (ih hc).imp_left (List.mem_cons_of_mem d)
      · rcases List.mem_cons.mp hc with rfl | hc
        · exact Or.inr rfl
        · exact (ih hc).imp_left (List.mem_cons_of_mem d)
    · rcases List.mem_cons.mp hc with rfl | hc
      · exact Or.inl List.mem_cons_self
      · exact (ih hc).imp_left (List.mem_cons_of_mem d)

/-- No replaced character is left. -/
theorem isReplaced_eq_false_of_mem_sanitizeChars {s : List Char} {c : Char}
    (hc : c ∈ sanitizeChars s) : isReplaced c = false := by
  induction s with
  | nil => cases hc
  | cons d s ih =>
    rw [sanitizeChars] at hc
    split at hc
    · split at hc
      · exact ih hc
      · rcases List.mem_cons.mp hc with rfl | hc
        · decide
        · exact ih hc
    · next hd =>
      rcases List.mem_cons.mp hc with rfl | hc
      · exact Bool.not_eq_true _ ▸ hd
      · exact ih hc

/-- The values are made of dots and characters of value tokens. -/
theorem IsValid.isTokenChar_values {n : EncodedName} (h : n.IsValid) {c : Char}
    (hc : c ∈ n.values.toList) : c = '.' ∨ Css.isTokenChar c = true := by
  obtain ⟨ts, -, hjoin, hts⟩ := h.exists_tokens
  rw [hjoin] at hc
  rcases mem_intercalate hc with rfl | ⟨t, ht, hc⟩
  · exact Or.inl rfl
  · exact Or.inr ((hts t ht).isTokenChar c hc)

/-- No piece of the values begins with an upper-case letter. -/
theorem IsValid.keptPieces_values {n : EncodedName} (h : n.IsValid) :
    ∀ piece ∈ keptPieces n.values.toList, isCapital piece = false := by
  intro piece hpiece
  rw [isCapital, Option.any_eq_false]
  intro c hhead
  have hmem := mem_of_mem_pieces hpiece c (List.mem_of_mem_head? hhead)
  rcases mem_of_mem_sanitizeChars hmem with hc | rfl
  · rcases h.isTokenChar_values hc with rfl | hc
    · decide
    · exact Css.isUpper_eq_false_of_isTokenChar hc
  · decide

/-! ### Taking the class apart -/

/-- Names with the same generated class have the same scope, the same properties and the same mark
    of importance, and their values are the same but for replaced characters. -/
theorem IsValid.eq_of_className_eq {n n' : EncodedName} (h : n.IsValid) (h' : n'.IsValid)
    (hclass : n.className = n'.className) :
    (n.media = n'.media ∧ n.reach = n'.reach ∧ n.pseudo = n'.pseudo) ∧
      n.properties = n'.properties ∧ n.important = n'.important ∧
      sanitizeChars n.values.toList = sanitizeChars n'.values.toList := by
  have hpieces := pieces_className n
  rw [hclass, pieces_className n', h.keptPieces_scope, h'.keptPieces_scope] at hpieces
  -- the first empty piece ends the scope
  have hscope {m : EncodedName} (hm : m.IsValid) :
      ∀ part ∈ scopeParts m.media m.reach m.pseudo, (!part.isEmpty) = true := by
    intro part hpart
    cases part with
    | nil => exact absurd hpart hm.nil_not_mem_scope
    | cons c cs => rfl
  obtain ⟨hparts, hrest⟩ := append_inj_of_stop (hscope h') (by simp) (hscope h) (by simp) hpieces
  -- the first piece without a capital ends the properties
  have hvalues {m : EncodedName} (hm : m.IsValid) :
      ∀ piece ∈ (keptPieces m.values.toList ++ importantParts m.important).head?,
        isCapital piece = false := by
    intro piece hpiece
    rw [List.head?_append_of_ne_nil _ (keptPieces_ne_nil _)] at hpiece
    exact hm.keptPieces_values piece (List.mem_of_mem_head? hpiece)
  obtain ⟨hproperties, hrest⟩ := append_inj_of_stop h'.keptPieces_properties.1 (hvalues h')
    h.keptPieces_properties.1 (hvalues h) (List.cons.inj hrest).2
  -- and the next one with a capital is the mark of importance
  have hmark (important : Bool) :
      ∀ piece ∈ (importantParts important).head?, (!isCapital piece) = false := by
    cases important <;> decide
  have hlower {m : EncodedName} (hm : m.IsValid) :
      ∀ piece ∈ keptPieces m.values.toList, (!isCapital piece) = true := by
    intro piece hpiece
    rw [hm.keptPieces_values piece hpiece, Bool.not_false]
  obtain ⟨hkept, himportant⟩ := append_inj_of_stop (hlower h') (hmark _) (hlower h) (hmark _) hrest
  have hsame : n.properties = n'.properties := by
    rw [← String.toList_inj, h.keptPieces_properties.2, h'.keptPieces_properties.2, hproperties]
  have hsame' : n.important = n'.important := by
    cases hn : n.important <;> cases hn' : n'.important <;>
      simp [hn, hn', importantParts] at himportant ⊢
  exact ⟨scope_eq_of_parts_eq h h' hparts.symm, hsame, hsame',
    sanitizeChars_eq_of_keptPieces_eq hkept.symm⟩

end ClassSheet.EncodedName
