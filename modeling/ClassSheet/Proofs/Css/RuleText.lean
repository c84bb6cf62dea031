import ClassSheet.Css.Rule
import ClassSheet.Proofs.Media.Condition
import ClassSheet.Proofs.Selector.Texts

/-! # The texts of rules

A rule is plain if its selector could not end the head of its block, and its declarations name
properties of the table and have values that could not end them (`Rule.IsPlain`). The text of such a
rule begins like one under a media condition exactly if it is one (`Rule.IsPlain.prefix_css_iff`),
and it tells the rule (`Rule.IsPlain.css_inj`): the head of a block stands in front of its first
brace, and each declaration ends with its only semicolon. -/

namespace ClassSheet.Css

open ClassSheet.Text

/-! ### Declarations -/

/-- A declaration of a property of the table with a value that could not end it. -/
structure Declaration.IsPlain (d : Declaration) : Prop where
  property : d.property ∈ Property.names
  value : Lacks marks d.value

namespace Declaration

/-- The text of a declaration in its two forms. -/
theorem css_eq (d : Declaration) : d.css =
    if d.important then d.property ++ ": " ++ d.value ++ " !important;"
    else d.property ++ ": " ++ d.value ++ ";" := by
  rw [← String.toList_inj]
  unfold css
  cases d.important <;> simp

/-- The space behind the value of an important declaration. -/
def pause (important : Bool) : List Char := if important then [' '] else []

/-- The mark of an important declaration. -/
def mark (important : Bool) : List Char := if important then "!important".toList else []

/-- The text of a declaration, cut where its property and its value end. -/
theorem toList_css (d : Declaration) :
    d.css.toList = d.property.toList ++
      ':' :: ' ' :: ((d.value.toList ++ pause d.important) ++ (mark d.important ++ [';'])) := by
  have hcolon : ": ".toList = [':', ' '] := by decide
  have hend : ";".toList = [';'] := by decide
  have himportant : " !important".toList = ' ' :: "!important".toList := by decide
  unfold css pause mark
  cases d.important <;> simp [hcolon, hend, himportant]

namespace IsPlain

variable {d d' : Declaration}

/-- The property of a plain declaration is one of the table and so could not end the declaration. -/
theorem lacks_property (h : d.IsPlain) : Lacks marks d.property :=
  Property.lacks_of_mem_names _ h.property

/-- The text of a plain declaration could not end the block around it. -/
theorem lacks_css (h : d.IsPlain) : Lacks braces d.css := by
  have hproperty := lacks_braces_of_marks h.lacks_property
  have hvalue := lacks_braces_of_marks h.value
  have himportant : Lacks braces (if d.important then " !important" else "") := by
    cases d.important <;> decide
  exact (((hproperty.append (by decide)).append hvalue).append himportant).append (by decide)

/-- A declaration ends with its only semicolon. -/
theorem exists_css_eq (h : d.IsPlain) : ∃ body, ';' ∉ body ∧ d.css.toList = body ++ [';'] := by
  refine ⟨d.property.toList ++
    ':' :: ' ' :: ((d.value.toList ++ pause d.important) ++ mark d.important), ?_, ?_⟩
  · have hproperty : ';' ∉ d.property.toList := h.lacks_property.not_mem (by decide)
    have hvalue : ';' ∉ d.value.toList := h.value.not_mem (by decide)
    have hend : ';' ∉ pause d.important ∧ ';' ∉ mark d.important := by
      cases d.important <;> decide
    simp [hproperty, hvalue, hend]
  · simp [toList_css]

/-- The property ends at the colon. -/
theorem property_ends (h : d.IsPlain) : ∀ c ∈ d.property.toList, (c != ':') = true :=
  h.lacks_property.bne (by decide)

/-- The value ends in front of an exclamation mark or a semicolon. -/
theorem value_ends (h : d.IsPlain) :
    (∀ c ∈ d.value.toList ++ pause d.important, (c != '!' && c != ';') = true) ∧
      ∀ c ∈ (mark d.important ++ [';']).head?, (c != '!' && c != ';') = false := by
  constructor
  · refine List.forall_mem_append.mpr ⟨fun c hc => ?_, by cases d.important <;> decide⟩
    exact Bool.and_eq_true_iff.mpr ⟨h.value.bne (by decide) c hc, h.value.bne (by decide) c hc⟩
  · cases d.important <;> decide

/-- The text of a declaration tells the declaration. -/
theorem css_inj (h : d.IsPlain) (h' : d'.IsPlain) (hcss : d.css = d'.css) : d = d' := by
  have hchars := congrArg String.toList hcss
  rw [toList_css, toList_css] at hchars
  obtain ⟨hproperty, hrest⟩ :=
    append_inj_of_stop h.property_ends (by simp) h'.property_ends (by simp) hchars
  -- behind the colon and the space, the value goes on up to the mark or the semicolon
  have hvalues := (List.cons.inj (List.cons.inj hrest).2).2
  obtain ⟨hvalue, hmark⟩ := append_inj_of_stop h.value_ends.1 h.value_ends.2 h'.value_ends.1
    h'.value_ends.2 hvalues
  have himportant : d.important = d'.important := by
    cases hd : d.important <;> cases hd' : d'.important <;> simp [hd, hd', mark] at hmark ⊢
  rw [himportant] at hvalue
  obtain ⟨property, value, important⟩ := d
  obtain ⟨property', value', important'⟩ := d'
  obtain rfl : property = property' := String.toList_inj.mp hproperty
  obtain rfl : value = value' := String.toList_inj.mp (List.append_cancel_right hvalue)
  obtain rfl : important = important' := himportant
  rfl

end IsPlain

end Declaration

/-! ### Rules -/

namespace Rule

/-- A block is its head and its body, each in front of a brace. -/
theorem toList_block (head body : String) :
    (block head body).toList = head.toList ++ '\x7b' :: (body.toList ++ ['\x7d']) := by
  have hopen : "\x7b".toList = ['\x7b'] := by decide
  have hclose : "\x7d".toList = ['\x7d'] := by decide
  simp [block, hopen, hclose]

/-- The head of a block stands in front of the first brace. -/
theorem block_inj {head head' body body' : String} (hhead : Lacks braces head)
    (hhead' : Lacks braces head') (h : block head body = block head' body') :
    head = head' ∧ body = body' := by
  have hfront {s : String} (hs : Lacks braces s) : ∀ c ∈ s.toList, (c != '\x7b') = true :=
    hs.bne (by decide)
  have hchars := congrArg String.toList h
  rw [toList_block, toList_block] at hchars
  obtain ⟨hheads, hrest⟩ :=
    append_inj_of_stop (hfront hhead) (by simp) (hfront hhead') (by simp) hchars
  refine ⟨String.toList_inj.mp hheads, String.toList_inj.mp ?_⟩
  exact List.append_cancel_right (List.cons.inj hrest).2

/-- The declarations of a rule as they stand in its block. -/
def body (r : Rule) : String := String.intercalate " " (r.declarations.map Declaration.css)

/-- A rule without a condition is a single block. -/
theorem css_of_none {r : Rule} (h : r.media = none) : r.css = block r.selector r.body := by
  unfold css
  rw [h]
  rfl

/-- A rule under a condition is a block inside the block of the condition. -/
theorem css_of_some {r : Rule} {c : Media.Condition} (h : r.media = some c) :
    r.css = block c.atRule (block r.selector r.body) := by
  unfold css
  rw [h]
  rfl

/-- A rule whose selector could not end the head of its block and whose declarations are plain. -/
structure IsPlain (r : Rule) : Prop where
  selector : Lacks Selector.foreign r.selector
  nonempty : r.declarations ≠ []
  declarations : ∀ d ∈ r.declarations, d.IsPlain

namespace IsPlain

variable {r r' : Rule}

/-- The selector of a plain rule could not end the head of its block. -/
theorem lacks_selector (h : r.IsPlain) : Lacks braces r.selector :=
  h.selector.mono fun _ hc => List.mem_cons_of_mem _ hc

/-- The declarations of a plain rule could not end their block. -/
theorem lacks_body (h : r.IsPlain) : Lacks braces r.body := by
  refine .intercalate (by decide) fun s hs => ?_
  obtain ⟨d, hd, rfl⟩ := List.mem_map.mp hs
  exact (h.declarations d hd).lacks_css

/-- The head of the block of a condition could not end it. -/
theorem lacks_atRule (c : Media.Condition) : Lacks braces c.atRule := by
  have hmedia : Lacks braces "@media " := by decide
  exact hmedia.append c.lacks_css

/-- The text of a rule begins like one under a media condition exactly if it is one. -/
theorem prefix_css_iff (h : r.IsPlain) : "@media".toList <+: r.css.toList ↔ r.isMedia = true := by
  have hlead : "@media".toList = '@' :: "media".toList := by decide
  unfold isMedia
  cases hr : r.media with
  | some c =>
    have hmedia : "@media ".toList = "@media".toList ++ [' '] := by decide
    simp only [Option.isSome_some, iff_true]
    rw [css_of_some hr, toList_block, Media.Condition.atRule, String.toList_append, hmedia,
      List.append_assoc, List.append_assoc]
    exact List.prefix_append _ _
  | none =>
    simp only [Option.isSome_none, Bool.false_eq_true, iff_false]
    intro hprefix
    obtain ⟨rest, hrest⟩ := hprefix
    rw [css_of_none hr, toList_block, hlead, List.cons_append] at hrest
    -- the first character is one of the selector, or the brace behind it
    cases hs : r.selector.toList with
    | nil => simp [hs] at hrest
    | cons c cs =>
      rw [hs, List.cons_append] at hrest
      obtain ⟨rfl, -⟩ := List.cons.inj hrest
      exact h.selector '@' (by simp [hs]) (by decide)

/-- The block of a rule tells its selector and its declarations. -/
theorem block_inj (h : r.IsPlain) (h' : r'.IsPlain)
    (hblock : block r.selector r.body = block r'.selector r'.body) :
    r.selector = r'.selector ∧ r.declarations = r'.declarations := by
  obtain ⟨hselector, hbody⟩ := Rule.block_inj h.lacks_selector h'.lacks_selector hblock
  have hchars := congrArg String.toList hbody
  simp only [body, String.toList_intercalate, List.map_map] at hchars
  exact ⟨hselector, intercalate_map_inj (fun d hd => hd.exists_css_eq)
    (fun d d' hd hd' hcss => hd.css_inj hd' (String.toList_inj.mp hcss)) (by decide)
    h.declarations h'.declarations hchars⟩

/-- The text of a rule tells the rule. -/
theorem css_inj (h : r.IsPlain) (h' : r'.IsPlain) (hcss : r.css = r'.css) : r = r' := by
  -- the texts begin alike, so both rules stand under a condition or neither does
  have hmedia : r.isMedia = r'.isMedia := by
    rw [Bool.eq_iff_iff, ← h.prefix_css_iff, ← h'.prefix_css_iff, hcss]
  obtain ⟨hconditions, hparts⟩ : r.media = r'.media ∧
      r.selector = r'.selector ∧ r.declarations = r'.declarations := by
    cases hr : r.media with
    | none =>
      cases hr' : r'.media with
      | none =>
        rw [css_of_none hr, css_of_none hr'] at hcss
        exact ⟨rfl, h.block_inj h' hcss⟩
      | some c' => simp [isMedia, hr, hr'] at hmedia
    | some c =>
      cases hr' : r'.media with
      | none => simp [isMedia, hr, hr'] at hmedia
      | some c' =>
        rw [css_of_some hr, css_of_some hr'] at hcss
        obtain ⟨hatRule, hblock⟩ := Rule.block_inj (lacks_atRule c) (lacks_atRule c') hcss
        have hcondition : c.css = c'.css := (String.append_right_inj _).mp hatRule
        rw [Media.Condition.css_injective hcondition]
        exact ⟨rfl, h.block_inj h' hblock⟩
  obtain ⟨selector, declarations, media⟩ := r
  obtain ⟨selector', declarations', media'⟩ := r'
  obtain ⟨rfl, rfl⟩ := hparts
  obtain rfl : media = media' := hconditions
  rfl

end IsPlain

/-! ### The form of a text -/

/-- The text of declarations, with spaces between them. -/
def declarationsText (ds : List Declaration) : String :=
  String.intercalate " " (ds.map fun d =>
    if d.important then d.property ++ ": " ++ d.value ++ " !important;"
    else d.property ++ ": " ++ d.value ++ ";")

/-- The form that the text of a rule has: none of its parts could end a block or begin a tag, and
    the declarations are of properties of the table. -/
structure HasForm (r : Rule) : Prop where
  selector : Lacks braces r.selector
  condition : ∀ c ∈ r.media, Lacks braces c.css
  body : Lacks braces (declarationsText r.declarations)
  nonempty : r.declarations ≠ []
  property : ∀ d ∈ r.declarations, d.property ∈ Property.names
  value : ∀ d ∈ r.declarations, Lacks [';', ':', '!'] d.value
  css_of_none : r.media = none →
    r.css = r.selector ++ "\x7b" ++ declarationsText r.declarations ++ "\x7d"
  css_of_some : ∀ c ∈ r.media, r.css =
    "@media " ++ c.css ++ "\x7b" ++
      (r.selector ++ "\x7b" ++ declarationsText r.declarations ++ "\x7d") ++ "\x7d"
  prefix_iff : "@media".toList <+: r.css.toList ↔ r.isMedia = true

/-- The body of a rule is the text of its declarations. -/
theorem body_eq (r : Rule) : r.body = declarationsText r.declarations := by
  rw [body, declarationsText, List.map_congr_left fun d _ => d.css_eq]

/-- The text of a plain rule has the form. -/
theorem IsPlain.hasForm {r : Rule} (h : r.IsPlain) : r.HasForm where
  selector := h.lacks_selector
  condition := fun c _ => c.lacks_css
  body := r.body_eq ▸ h.lacks_body
  nonempty := h.nonempty
  property := fun d hd => (h.declarations d hd).property
  value := fun d hd => (h.declarations d hd).value.mono fun _ hc => List.mem_append_left _ hc
  css_of_none := fun hr => by rw [Rule.css_of_none hr, body_eq, block]
  css_of_some := fun c hr => by
    rw [Rule.css_of_some hr, body_eq, block, block, Media.Condition.atRule]
  prefix_iff := h.prefix_css_iff

end Rule

end ClassSheet.Css
