import ClassSheet.Proofs.Name.Effect

/-! # Generated classes are identifiers

The parts of a name are made of letters, digits and hyphens, and of characters that a generated
class does not keep. So a generated class is plain (`EncodedName.IsPlainClass`): it has ASCII
letters, digits, underscores and hyphens only, and it begins as an identifier does. A class list
takes it as one token, and in a selector it stands behind the dot as it is: a reader of CSS
(`Css.readClass?`) finds the class and nothing more (`EncodedName.className_plain`). -/

namespace ClassSheet

open ClassSheet.Text

namespace Css

/-! ### Reading a class selector -/

/-- The characters that an identifier may begin with: letters, the underscore, and all that lie
    beyond ASCII. -/
def isIdentStart (c : Char) : Bool := c.isAlpha || c == '_' || 0x80 ≤ c.toNat

/-- The characters that an identifier may go on with. -/
def isIdentChar (c : Char) : Bool := isIdentStart c || c.isDigit || c == '-'

/-- Whether a text begins as an identifier does. Behind a first hyphen there has to be another one
    or a character that an identifier may begin with. -/
def startsIdent : List Char → Bool
  | '-' :: c :: _ => c == '-' || isIdentStart c
  | c :: _ => isIdentStart c
  | [] => false

/-- The class selector at the beginning of a text: the identifier behind the dot, as far as its
    characters go, and what is left. An identifier with an escape in it is not read. -/
def readClass? : List Char → Option (List Char × List Char)
  | '.' :: text =>
    let name := text.takeWhile isIdentChar
    let behind := text.dropWhile isIdentChar
    if startsIdent name && behind.head? != some '\\' then some (name, behind) else none
  | _ => none

/-- The characters that end an identifier without an escape. -/
def endsIdent (c : Char) : Bool := !isIdentChar c && c != '\\'

end Css

namespace EncodedName

open Dom

/-! ### Plain classes -/

/-- The characters of generated classes: ASCII letters and digits, the underscore and the
    hyphen. -/
def isClassChar (c : Char) : Bool := c.isAlphanum || c == '_' || c == '-'

/-- A text of such characters that begins with an underscore or an upper-case letter. -/
structure IsPlainClass (s : String) : Prop where
  nonempty : s ≠ ""
  begins : begins s.toList = true
  isClassChar : ∀ c ∈ s.toList, isClassChar c = true

/-- A capital is a letter. -/
theorem isAlpha_of_isUpper {c : Char} (h : c.isUpper = true) : c.isAlpha = true :=
  Bool.or_eq_true_iff.mpr (.inl h)

/-- A small letter is a letter. -/
theorem isAlpha_of_isLower {c : Char} (h : c.isLower = true) : c.isAlpha = true :=
  Bool.or_eq_true_iff.mpr (.inr h)

/-- The characters of generated classes may stand in identifiers. -/
theorem isIdentChar_of_isClassChar {c : Char} (h : isClassChar c = true) :
    Css.isIdentChar c = true := by
  simp only [isClassChar, Char.isAlphanum, Bool.or_eq_true] at h
  simp only [Css.isIdentChar, Css.isIdentStart, Bool.or_eq_true]
  tauto

/-- A text that begins so begins as an identifier does. -/
theorem startsIdent_of_begins {s : List Char} (h : EncodedName.begins s = true) :
    Css.startsIdent s = true := by
  cases s with
  | nil => cases h
  | cons c cs =>
    have hc : c = '_' ∨ c.isUpper = true := by simpa [EncodedName.begins] using h
    have hhyphen : c ≠ '-' := by
      rintro rfl
      revert hc
      decide
    have hstart : Css.isIdentStart c = true := by
      rcases hc with rfl | hupper
      · decide
      · simp [Css.isIdentStart, isAlpha_of_isUpper hupper]
    -- so the rules for a leading hyphen do not come into play
    unfold Css.startsIdent
    split
    · next heq => exact absurd (List.cons.inj heq).1 hhyphen
    · next heq =>
      obtain ⟨rfl, -⟩ := List.cons.inj heq
      exact hstart
    · next heq => cases heq

namespace IsPlainClass

variable {s : String} (h : IsPlainClass s)
include h

/-- A plain class is read back from a selector, where what stands behind it ends an identifier. -/
theorem readClass?_append {behind : List Char}
    (hbehind : ∀ c ∈ behind.head?, Css.endsIdent c = true) :
    Css.readClass? (("." ++ s).toList ++ behind) = some (s.toList, behind) := by
  have hname : ∀ c ∈ s.toList, Css.isIdentChar c = true := fun c hc =>
    isIdentChar_of_isClassChar (h.isClassChar c hc)
  have hends : ∀ c ∈ behind.head?, Css.isIdentChar c = false ∧ c ≠ '\\' := by
    intro c hc
    simpa [Css.endsIdent] using hbehind c hc
  have hstop : ∀ c ∈ behind.head?, Css.isIdentChar c = false := fun c hc => (hends c hc).1
  have hescape : behind.head? ≠ some '\\' := fun hhead => (hends '\\' hhead).2 rfl
  have hdot : ("." ++ s).toList ++ behind = '.' :: (s.toList ++ behind) := by
    simp
  rw [hdot, Css.readClass?, takeWhile_append_of_stop hname hstop,
    dropWhile_append_of_stop hname hstop, startsIdent_of_begins h.begins, bne_iff_ne.mpr hescape]
  rfl

end IsPlainClass

/-! ### The characters of a generated class -/

/-- Numbers are over letters and digits. -/
theorem over_digits : Pattern.digits.Over Char.isAlphanum :=
  .many1 fun c hc => by rw [Char.isAlphanum, hc, Bool.or_true]

/-- Media tokens are made of letters and digits. -/
theorem over_mediaToken : Media.tokenPattern.Over Char.isAlphanum := by
  refine .seq (.text (by decide)) (.many1 (.seq (.alt ?orientation ?range) (.alt ?named ?amount)))
  case orientation => exact .text (by decide)
  case range => exact .seq (.anyText (by decide)) (.optional (.anyText (by decide)))
  case named => exact .anyText (by decide)
  case amount => exact .seq over_digits (.anyText (by decide))

/-- Tokens of a reach are made of letters and digits. -/
theorem over_reachToken : Reach.tokenPattern.Over Char.isAlphanum := by
  have hposition : Reach.positionPattern.Over Char.isAlphanum :=
    .alt (.anyText (by decide)) over_digits
  have hofType : (Pattern.text "OfType").Over Char.isAlphanum := .text (by decide)
  have hnot : (Pattern.text "Not" ++ Reach.positionPattern).Over Char.isAlphanum :=
    .seq (.text (by decide)) hposition
  refine .alt (.alt (.alt ?everything ?children) ?child) ?siblings
  case everything =>
    exact .seq (.text (by decide))
      (.alt (.text (by decide)) (.seq (.optional hofType) (.optional (.text (by decide)))))
  case children => exact .seq (.seq (.text (by decide)) (.optional hofType)) (.optional hnot)
  case child => exact .seq (.seq (.text (by decide)) (.optional hofType)) (.optional hposition)
  case siblings =>
    exact .seq (.seq (.text (by decide)) (.optional (.text (by decide))))
      (.optional (.alt (.alt hnot (.seq hofType (.optional over_digits))) over_digits))

/-- The characters of parts of names: those of classes, and those that a class does not keep. -/
def isPartChar (c : Char) : Bool := isClassChar c || isReplaced c

/-- Letters and digits may stand in parts of names. -/
theorem isPartChar_of_isAlphanum {c : Char} (h : c.isAlphanum = true) : isPartChar c = true := by
  simp [isPartChar, isClassChar, h]

/-- The characters of value tokens may stand in parts of names. -/
theorem isPartChar_of_isTokenChar {c : Char} (h : Css.isTokenChar c = true) :
    isPartChar c = true := by
  simp only [Css.isTokenChar, Css.isWordChar, Bool.or_eq_true, beq_iff_eq, List.contains_iff_mem,
    List.mem_cons, List.not_mem_nil, or_false] at h
  rcases h with ((hlower | hdigit) | rfl) | rfl | rfl | rfl
  · exact isPartChar_of_isAlphanum (by simp [Char.isAlphanum, isAlpha_of_isLower hlower])
  · exact isPartChar_of_isAlphanum (by simp [Char.isAlphanum, hdigit])
  all_goals decide

/-- Property tokens are made of letters, with dots between them. -/
theorem over_properties : propertiesPattern.Over isPartChar := by
  have hletter {c : Char} (hc : c.isAlpha = true) : isPartChar c = true :=
    isPartChar_of_isAlphanum (by rw [Char.isAlphanum, hc, Bool.true_or])
  refine .separated (.text (by decide)) (.seq (fun c hc => ?_) (.many1 fun c hc => hletter hc))
  exact hletter (isAlpha_of_isUpper hc)

/-- The parts of a name are made of such characters. -/
theorem IsValid.isPartChar_of_mem {n : EncodedName} (h : n.IsValid) :
    ∀ part ∈ n.parts, ∀ c ∈ part, isPartChar c = true := by
  intro part hpart c hc
  simp only [parts, scopeParts, List.mem_append, Option.mem_toList, Option.map_eq_some_iff,
    List.mem_cons, List.not_mem_nil, or_false] at hpart
  -- media token, token of a reach, pseudo code, properties, values, mark of importance
  rcases hpart with ((⟨t, ht, rfl⟩ | ⟨t, ht, rfl⟩ | ⟨p, -, rfl⟩) | rfl | rfl) | hpart
  · exact isPartChar_of_isAlphanum (Pattern.forall_of_over over_mediaToken (h.media t ht) c hc)
  · exact isPartChar_of_isAlphanum (Pattern.forall_of_over over_reachToken (h.reach t ht) c hc)
  · revert c
    cases p <;> decide
  · exact Pattern.forall_of_over over_properties h.properties c hc
  · rcases h.isTokenChar_values hc with rfl | hc
    · decide
    · exact isPartChar_of_isTokenChar hc
  · split at hpart
    · obtain rfl := List.mem_singleton.mp hpart
      revert c
      decide
    · cases hpart

/-- Of the characters of its parts, a class keeps those that it may have. -/
theorem IsValid.isPlainClass {n : EncodedName} (h : n.IsValid) : IsPlainClass n.className where
  nonempty := (ClassList.isToken_iff.mp h.isToken_className).1
  begins := begins_className h
  isClassChar := by
    intro c hc
    rw [className, sanitize, String.toList_ofList] at hc
    have hkept := isReplaced_eq_false_of_mem_sanitizeChars hc
    rcases mem_of_mem_sanitizeChars hc with hsource | rfl
    · rcases mem_classSource hsource with rfl | ⟨part, hpart, hmem⟩
      · decide
      · have hchar := h.isPartChar_of_mem part hpart c hmem
        rwa [isPartChar, hkept, Bool.or_false] at hchar
    · decide

/-! ### The class in selectors -/

/-- Nothing, or the text of a pseudo class or element, stands behind a part of a selector, and both
    end an identifier. -/
theorem endsIdent_head_pseudo (pseudo : Option Pseudo) :
    ∀ c ∈ ((pseudo.map Pseudo.css).getD "").toList.head?, Css.endsIdent c = true := by
  cases pseudo with
  | none => exact nofun
  | some p => cases p <;> decide

/-- The class is read back from every part of a selector that relies on it. -/
theorem IsValid.readClass?_part {n : EncodedName} (h : n.IsValid) {tag : String}
    {parentTag : Option String} (huses : (n.selector tag parentTag).usesClass = true) :
    ∀ part ∈ (n.selector tag parentTag).parts, ∃ behind,
      Css.readClass? (part ++ (n.pseudo.map Pseudo.css).getD "").toList =
        some (n.className.toList, behind) := by
  intro part hpart
  obtain ⟨behind, hbehind, hhead⟩ := Reach.exists_behind_selectorOfToken huses part hpart
  refine ⟨behind ++ ((n.pseudo.map Pseudo.css).getD "").toList, ?_⟩
  rw [String.toList_append, hbehind, List.append_assoc]
  apply h.isPlainClass.readClass?_append
  cases behind with
  | nil => exact endsIdent_head_pseudo n.pseudo
  | cons d behind =>
    intro c hc
    obtain rfl : d = c := Option.some.inj hc
    rcases hhead d rfl with rfl | rfl <;> decide

/-- A generated class is plain: it is not empty, begins with an underscore or an upper-case letter,
    and has ASCII letters, digits, underscores and hyphens only. It is one token, and every list
    without it takes it. In CSS it stands behind the dot without an escape: it is read back, where
    what follows ends an identifier, and so in every selector that relies on it. -/
theorem className_plain {marker name : String} {n : EncodedName}
    (h : parse? marker name = some n) :
    IsPlainClass n.className ∧
      ClassList.ofValue n.className = ⟨[n.className]⟩ ∧
      (∀ l : ClassList, l.contains n.className = false →
        l.add n.className = (true, ⟨l.tokens ++ [n.className]⟩)) ∧
      (∀ behind : List Char, (∀ c ∈ behind.head?, Css.endsIdent c = true) →
        Css.readClass? (("." ++ n.className).toList ++ behind) =
          some (n.className.toList, behind)) ∧
      ∀ tag parentTag, (n.selector tag parentTag).usesClass = true →
        ∀ part ∈ (n.selector tag parentTag).parts, ∃ behind,
          Css.readClass? (part ++ (n.pseudo.map Pseudo.css).getD "").toList =
            some (n.className.toList, behind) := by
  have hvalid := (parse?_eq_some_iff.mp h).1
  have htoken := hvalid.isToken_className
  exact ⟨hvalid.isPlainClass, ClassList.ofValue_of_isToken htoken,
    fun l => ClassList.add_of_isToken htoken,
    fun behind => hvalid.isPlainClass.readClass?_append,
    fun tag parentTag => hvalid.readClass?_part⟩

/-- A name with all characters that a class does not keep but the comma, for the children of an
    element that is pointed at. -/
def sampleShade : EncodedName where
  raw := "lcsChildrenNotFirst_HPE_Color.All.All_rgba(0-0-0-05).#fff.mn4px"
  media := none
  reach := some "ChildrenNotFirst"
  pseudo := some .hover
  properties := "Color.All.All"
  values := "rgba(0-0-0-05).#fff.mn4px"
  important := false

/-- Three replaced characters in a row have become one underscore, and the class is read back from
    its selector. -/
theorem className_plain_sampleShade :
    sampleShade.className = "ChildrenNotFirst_HPE__Color_All_All_rgba_0-0-0-05_fff_mn4px" ∧
      IsPlainClass sampleShade.className ∧
      (ClassList.empty.add sampleShade.className).1 = true ∧
      (sampleShade.selector "p" none).usesClass = true ∧
      ∀ part ∈ (sampleShade.selector "p" none).parts, ∃ behind,
        Css.readClass? (part ++ ":hover").toList = some (sampleShade.className.toList, behind) := by
  have hparse : parse? "lcs" sampleShade.raw = some sampleShade := by decide +kernel
  have huses : (sampleShade.selector "p" none).usesClass = true := by decide +kernel
  obtain ⟨hplain, -, hadd, -, hread⟩ := className_plain hparse
  refine ⟨by decide +kernel, hplain, ?_, huses, hread "p" none huses⟩
  rw [hadd .empty rfl]

end EncodedName

end ClassSheet
