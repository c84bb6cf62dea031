import ClassSheet.Css.Property
import ClassSheet.Proofs.Text.Lacks

/-! # What stands in the tables

The words and the properties of the tables are made of harmless characters
(`Property.lacks_of_mem_names`, `Keyword.lacks_of_mem_words`), and looking a text up gives nothing
but an entry: a property token stands for properties of the table only (`Property.mem_names`). -/

namespace ClassSheet.Css

open ClassSheet.Text

/-- The characters that a tag or a block may begin or end with in a stylesheet. -/
def braces : List Char := ['\x7b', '\x7d', '<']

/-- The characters that end a part of a declaration or stand around declarations. -/
def marks : List Char := [';', ':', '!'] ++ braces

/-- What could not end a declaration could not end a block. -/
theorem lacks_braces_of_marks {s : String} (h : Lacks marks s) : Lacks braces s :=
  h.mono fun _ hy => List.mem_append_right _ hy

/-! ### Entries -/

/-- An entry, given by its characters, in front of other entries. -/
theorem forall_entry_cons {p : List Char → Bool} {cs : List Char} {entries : List String}
    (hcs : p cs = true) (h : ∀ e ∈ entries, p e.toList = true) :
    ∀ e ∈ String.ofList cs :: entries, p e.toList = true := by
  refine List.forall_mem_cons.mpr ⟨?_, h⟩
  rwa [String.toList_ofList]

/-- A further family of words. -/
theorem forall_family_cons {p : List Char → Bool} {family : String × List String}
    {families : List (String × List String)} (h : ∀ w ∈ family.2, p w.toList = true)
    (hs : ∀ f ∈ families, ∀ w ∈ f.2, p w.toList = true) :
    ∀ f ∈ family :: families, ∀ w ∈ f.2, p w.toList = true := List.forall_mem_cons.mpr ⟨h, hs⟩

/-- `Lacks` as a test of every character, which can be run. -/
theorem lacks_of_all {xs : List Char} {s : String}
    (h : (s.toList.all fun c => !xs.contains c) = true) : Lacks xs s := by
  intro c hc
  have := List.all_eq_true.mp h c hc
  simpa using this

/-- No property of the table could end a declaration. -/
theorem Property.lacks_of_mem_names : ∀ p ∈ Property.names, Lacks marks p := by
  refine fun p hp => lacks_of_all ?_
  revert p hp
  -- the characters of a literal are found by comparing it with a list of characters
  unfold Property.names
  repeat refine forall_entry_cons (p := fun cs => cs.all fun c => !marks.contains c) rfl ?_
  exact fun _ h => nomatch h

/-- No word of a family could end a declaration. -/
theorem Keyword.lacks_of_mem_families : ∀ f ∈ Keyword.families, ∀ w ∈ f.2, Lacks marks w := by
  refine fun f hf w hw => lacks_of_all ?_
  revert f hf w hw
  unfold Keyword.families
  repeat' refine forall_family_cons (p := fun cs => cs.all fun c => !marks.contains c) ?_ ?_
  all_goals
    repeat refine forall_entry_cons (p := fun cs => cs.all fun c => !marks.contains c) rfl ?_
  all_goals exact fun _ h => nomatch h

/-- No word of the tables could end a declaration. -/
theorem Keyword.lacks_of_mem_words : ∀ w ∈ Keyword.words, Lacks marks w := by
  intro w hw
  obtain ⟨f, hf, hw⟩ := List.mem_flatMap.mp hw
  exact lacks_of_mem_families f hf w hw

/-- The words of a family are words of the tables. -/
theorem Keyword.mem_words_of_mem_family {family : String × List String}
    (hf : family ∈ Keyword.families) : ∀ w ∈ family.2, w ∈ Keyword.words :=
  fun _ hw => List.mem_flatMap.mpr ⟨family, hf, hw⟩

/-! ### Looking up -/

/-- A text stands for an entry of the table. -/
theorem Keyword.mem_of_find? {entries : List String} {s e : String}
    (h : Keyword.find? (Keyword.indexed entries) s = some e) : e ∈ entries := by
  obtain ⟨front, back, hindex, -⟩ := List.lookup_eq_some_iff.mp h
  have hmem : (Keyword.key s, e) ∈ Keyword.indexed entries := by
    rw [hindex]
    simp
  obtain ⟨e', he', heq⟩ := List.mem_map.mp hmem
  obtain ⟨-, rfl⟩ := Prod.mk.inj heq
  exact he'

/-- A keyword could not end a declaration. -/
theorem Keyword.lacks_of_word? {s w : String} (h : Keyword.word? s = some w) : Lacks marks w :=
  lacks_of_mem_words w (mem_of_find? h)

/-- A colour of the table could not end a declaration. -/
theorem Keyword.lacks_of_color? {s w : String} (h : Keyword.color? s = some w) : Lacks marks w := by
  have hfamily : ("color", Keyword.colorWords) ∈ Keyword.families := List.mem_cons_self
  exact lacks_of_mem_words w (mem_words_of_mem_family hfamily w (mem_of_find? h))

/-- A border style could not end a declaration. -/
theorem Keyword.lacks_of_borderStyle? {s w : String} (h : Keyword.borderStyle? s = some w) :
    Lacks marks w := by
  have hfamily : ("border-style", Keyword.borderStyleWords) ∈ Keyword.families := by
    unfold Keyword.families
    repeat first | exact List.mem_cons_self | refine List.mem_cons_of_mem _ ?_
  exact lacks_of_mem_words w (mem_words_of_mem_family hfamily w (mem_of_find? h))

namespace Property

/-- The sides of the padding and of the margin are properties. -/
theorem mem_names_side (side : Side) :
    "padding" ++ "-" ++ side.name ∈ names ∧ "margin" ++ "-" ++ side.name ∈ names := by
  have hnames : ∀ s ∈ ["padding-top", "padding-right", "padding-bottom", "padding-left",
      "margin-top", "margin-right", "margin-bottom", "margin-left"], s ∈ names := by
    simp only [List.forall_mem_cons]
    unfold names
    refine ⟨?_, ?_, ?_, ?_, ?_, ?_, ?_, ?_, fun _ h => nomatch h⟩
    all_goals repeat first | exact List.mem_cons_self | refine List.mem_cons_of_mem _ ?_
  constructor
  · refine hnames _ ?_
    cases side <;> decide
  · refine hnames _ ?_
    cases side <;> decide

/-- A token for some sides stands for properties of the table, if the sides are in it. -/
theorem mem_names_of_sidesOf? {word property : String} {token : List Char} {ps : List String}
    (hside : ∀ side : Side, property ++ "-" ++ side.name ∈ names)
    (h : sidesOf? word property token = some ps) : ∀ p ∈ ps, p ∈ names := by
  simp only [sidesOf?, Option.bind_eq_bind, Option.bind_eq_some_iff, Option.pure_def,
    Option.some.injEq] at h
  obtain ⟨rest, -, sides, -, rfl⟩ := h
  intro p hp
  obtain ⟨side, -, rfl⟩ := List.mem_map.mp hp
  exact hside side

/-- A token stands for properties of the table. -/
theorem mem_names {token : String} : ∀ p ∈ resolve token, p ∈ names := by
  unfold resolve
  split
  · next ps hps =>
    -- sides of the padding are tried first, then those of the margin
    cases hpadding : sidesOf? "Padding" "padding" token.toList with
    | some qs =>
      rw [hpadding] at hps
      obtain rfl : qs = ps := Option.some.inj hps
      exact mem_names_of_sidesOf? (fun side => (mem_names_side side).1) hpadding
    | none =>
      rw [hpadding] at hps
      exact mem_names_of_sidesOf? (fun side => (mem_names_side side).2) hps
  · intro p hp
    exact Keyword.mem_of_find? (Option.mem_toList.mp hp)

end Property

end ClassSheet.Css
