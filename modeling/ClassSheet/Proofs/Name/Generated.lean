import ClassSheet.Proofs.Name.Parts

/-! # Generated classes

The class that the rule of a name is keyed on begins with an underscore or an upper-case letter
(`begins_className`). A marker that begins otherwise keeps the generated classes and the encoded
names apart (`parse?_className_eq_none`). -/

namespace ClassSheet.EncodedName

/-- Whether a text begins with an underscore or an upper-case letter. -/
def begins (s : List Char) : Bool := s.head?.any fun c => c == '_' || c.isUpper

/-- What follows does not change how a text begins. -/
theorem begins_append {s : List Char} (h : begins s = true) (rest : List Char) :
    begins (s ++ rest) = true := by
  cases s with
  | nil => exact nomatch h
  | cons c cs => exact h

/-- A text begins as its first word does. -/
theorem begins_of_prefix {lead s : List Char} (h : begins lead = true) (hs : lead <+: s) :
    begins s = true := by
  obtain ⟨rest, rfl⟩ := hs
  exact begins_append h rest

/-! ### The text behind the class -/

/-- A part that begins so, if it is there, may stand in front of a text that begins so. -/
theorem begins_partText {part : Option String} (hpart : ∀ t ∈ part, begins t.toList = true)
    {rest : List Char} (hrest : begins rest = true) :
    begins ((partText part).toList ++ rest) = true := by
  cases part with
  | none => exact hrest
  | some t =>
    rw [partText, String.toList_append]
    exact begins_append (begins_append (hpart t rfl) _) _

/-- The token of a reach begins with a capital. -/
theorem begins_reach {s : List Char} (h : Reach.tokenPattern.Matches s) : begins s = true := by
  obtain ⟨lead, hlead, hs⟩ := Reach.exists_lead h
  refine begins_of_prefix ?_ hs
  simp only [List.mem_cons, List.not_mem_nil, or_false] at hlead
  rcases hlead with rfl | rfl | rfl | rfl <;> decide

/-- The code of a pseudo class begins with a capital. -/
theorem begins_code (p : Pseudo) : begins p.code.toList = true := by cases p <;> decide

/-- The text behind the class begins with a part of the scope, or with the underscore in front of
    the properties. -/
theorem begins_classSource {n : EncodedName} (h : n.IsValid) :
    begins n.classSource.toList = true := by
  have hsource : n.classSource.toList = (partText n.media).toList ++ ((partText n.reach).toList ++
      ((partText (n.pseudo.map Pseudo.code)).toList ++ '_' :: (n.properties ++ "_" ++ n.values ++
        (if n.important then "_IMPT" else "")).toList)) := by
    unfold classSource
    cases n.media <;> cases n.reach <;> cases n.pseudo <;> simp [partText, String.join]
  rw [hsource]
  refine begins_partText (fun t ht => ?_) (begins_partText (fun t ht => ?_)
    (begins_partText (fun t ht => ?_) rfl))
  · exact begins_of_prefix (by decide) (Media.tokenPattern_leads _ (h.media t ht))
  · exact begins_reach (h.reach t ht)
  · obtain ⟨p, -, rfl⟩ := Option.map_eq_some_iff.mp ht
    exact begins_code p

/-! ### The class -/

/-- No underscore and no upper-case letter is replaced. -/
theorem begins_sanitizeChars {s : List Char} (h : begins s = true) :
    begins (sanitizeChars s) = true := by
  cases s with
  | nil => exact nomatch h
  | cons c cs =>
    have hc : isReplaced c = false := by
      rw [Bool.eq_false_iff]
      intro hc
      simp only [isReplaced, List.contains_iff_mem, List.mem_cons, List.not_mem_nil,
        or_false] at hc
      rcases hc with rfl | rfl | rfl | rfl | rfl <;> exact absurd h (by simp [begins])
    rw [sanitizeChars, hc, if_neg Bool.false_ne_true]
    exact h

/-- The generated class begins with an underscore or an upper-case letter. -/
theorem begins_className {n : EncodedName} (h : n.IsValid) : begins n.className.toList = true := by
  rw [className, sanitize, String.toList_ofList]
  exact begins_sanitizeChars (begins_classSource h)

/-- With a marker that begins otherwise, no generated class is an encoded name. -/
theorem parse?_className_eq_none {marker : String} (hne : marker ≠ "")
    (hmarker : begins marker.toList = false) {n : EncodedName} (h : n.IsValid) :
    parse? marker n.className = none := by
  cases hp : parse? marker n.className with
  | none => rfl
  | some m =>
    obtain ⟨-, -, hname⟩ := parse?_eq_some_iff.mp hp
    have hbegins := begins_className h
    rw [← hname, toList_assembled] at hbegins
    cases hm : marker.toList with
    | nil => exact absurd (String.toList_eq_nil_iff.mp hm) hne
    | cons c cs =>
      rw [hm] at hbegins hmarker
      exact absurd (hmarker.symm.trans hbegins) Bool.false_ne_true

end ClassSheet.EncodedName
