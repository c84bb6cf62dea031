import ClassSheet.Proofs.Css.Accepted
import ClassSheet.Proofs.Name.Parts
import ClassSheet.Proofs.Name.Rejected

/-! # Names written from tokens

`Wording` holds the tokens that a class name is written with. If each of them is accepted and there
are as many values as properties, the name is compiled on every connected element, whatever its
marker is, and the rule is the one that the tokens spell (`Wording.IsAccepted.compile_eq_ok`): no
token is lost or reordered on the way through the parts of the name and back. -/

namespace ClassSheet

open ClassSheet.Text ClassSheet.Css

/-- The tokens of a class name. -/
structure Wording where
  media : Option String
  reach : Option String
  pseudo : Option Pseudo
  properties : List String
  values : List String
  important : Bool

namespace Wording

/-! ### Writing -/

/-- Describes a property token. -/
def propertyPattern : Pattern :=
  Pattern.one Char.isUpper ++ Pattern.many1 (Pattern.one Char.isAlpha)

/-- The class name with the given marker that the tokens are written in. -/
def text (w : Wording) (marker : String) : String :=
  marker ++ EncodedName.partText w.media ++ EncodedName.partText w.reach ++
    EncodedName.partText (w.pseudo.map Pseudo.code) ++ String.intercalate "." w.properties ++ "_" ++
    String.intercalate "." w.values ++ (if w.important then "_IMPT" else "")

/-- The parts of that name. -/
def name (w : Wording) (marker : String) : EncodedName where
  raw := w.text marker
  media := w.media
  reach := w.reach
  pseudo := w.pseudo
  properties := String.intercalate "." w.properties
  values := String.intercalate "." w.values
  important := w.important

/-- The properties that the tokens stand for, token after token. -/
def resolved (w : Wording) : List String := w.properties.flatMap Property.resolve

/-- Whether every token is accepted, and there is a value for each property. A media token or a
    token of a reach needs to have the right form only. -/
structure IsAccepted (w : Wording) : Prop where
  media : ∀ token ∈ w.media, Media.tokenPattern.Matches token.toList
  reach : ∀ token ∈ w.reach, Reach.tokenPattern.Matches token.toList
  nonempty : w.properties ≠ []
  property : ∀ token ∈ w.properties,
    propertyPattern.Matches token.toList ∧ Property.resolve token ≠ []
  value : ∀ token ∈ w.values, (Value.ofToken? token).isSome = true
  count : w.resolved.length = w.values.length

/-- The rule that the tokens spell for a class, on an element with a tag, below a parent with a
    tag. -/
structure Spells (w : Wording) (className tag : String) (parentTag : Option String)
    (rule : Css.Rule) : Prop where
  count : rule.declarations.length = w.resolved.length
  /-- Each declaration has the property and the value that stand in its place. -/
  declaration : ∀ (k : Nat) (property token : String) (value : Value),
    w.resolved[k]? = some property → w.values[k]? = some token →
    Value.ofToken? token = some value →
    rule.declarations[k]? = some ⟨property, value.css, w.important⟩
  /-- There is a condition exactly if the media token stands for it. -/
  media : ∀ condition, rule.media = some condition ↔
    ∃ token ∈ w.media, Media.Condition.ofToken token = .ok condition
  /-- The selector is that of the reach, and each of its parts has the pseudo suffix. -/
  selector : rule.selector = String.intercalate ", "
    ((Reach.selectorOfToken w.reach ⟨className, tag, parentTag⟩).parts.map fun part =>
      part ++ (w.pseudo.map Pseudo.css).getD "")

/-- A condition is what a media token stands for, if it stands for one. -/
theorem condition?_eq_some_iff {token : String} {condition : Media.Condition} :
    condition? token = some condition ↔ Media.Condition.ofToken token = .ok condition := by
  unfold condition?
  cases Media.Condition.ofToken token with
  | error e => simp [Except.toOption]
  | ok found => simp [Except.toOption]

/-! ### Tokens and their dots -/

/-- Tokens without a dot in them are found again between the dots of the joined text. -/
theorem tokens_intercalate {ts : List String} (hne : ts ≠ []) (hdot : ∀ t ∈ ts, '.' ∉ t.toList) :
    tokens (String.intercalate "." ts) = ts := by
  have hpoint : ".".toList = ['.'] := by decide
  have hdots : ∀ p ∈ ts.map String.toList, '.' ∉ p := by simpa using hdot
  have hpieces : pieces (· == '.') (String.intercalate "." ts).toList = ts.map String.toList := by
    rw [String.toList_intercalate, hpoint]
    exact (pieces_eq_iff (by simpa using hne) hdots).mpr rfl
  rw [tokens, hpieces, List.map_map]
  simp

/-- No property token and no value token has a dot. -/
theorem avoids_dot : propertyPattern.avoids '.' = true ∧
    (Pattern.oneOf (Shape.all.map Shape.pattern)).avoids '.' = true := by decide +kernel

/-- Joined with dots, tokens of a pattern make a text of the pattern for several. -/
theorem matches_intercalate {p : Pattern} {ts : List String} (hne : ts ≠ [])
    (hts : ∀ t ∈ ts, p.Matches t.toList) :
    (Pattern.separated (Pattern.text ".") p).Matches (String.intercalate "." ts).toList := by
  have hpoint : ".".toList = ['.'] := by decide
  rw [String.toList_intercalate, hpoint]
  exact Pattern.matches_separated_intercalate hpoint (by simpa using hne) (by simpa using hts)

namespace IsAccepted

variable {w : Wording} (h : w.IsAccepted)
include h

/-- A property token stands for something, so there is a first property. -/
theorem resolved_ne_nil : w.resolved ≠ [] := by
  -- the first property token is there, and it was not refused
  obtain ⟨token, rest, hcons⟩ := List.exists_cons_of_ne_nil h.nonempty
  have htoken : token ∈ w.properties := by
    rw [hcons]
    exact List.mem_cons_self
  intro hnil
  exact (h.property token htoken).2 (List.flatMap_eq_nil_iff.mp hnil token htoken)

/-- There are as many values as properties, so there is one. -/
theorem values_ne_nil : w.values ≠ [] := by
  intro hnil
  have hlength := h.count
  rw [hnil, List.length_nil, List.length_eq_zero_iff] at hlength
  exact h.resolved_ne_nil hlength

/-- A value token that is accepted has a shape. -/
theorem matches_value : ∀ token ∈ w.values,
    (Pattern.oneOf (Shape.all.map Shape.pattern)).Matches token.toList := by
  intro token htoken
  obtain ⟨value, hvalue⟩ := Option.isSome_iff_exists.mp (h.value token htoken)
  obtain ⟨shape, hshape⟩ := Value.exists_shape_of_ofToken? hvalue
  have hmem : shape ∈ Shape.all := by cases shape <;> decide
  exact Pattern.matches_oneOf.mpr ⟨_, List.mem_map_of_mem hmem, hshape⟩

/-! ### The name -/

/-- The name of what was written is valid. -/
theorem isValid (marker : String) : (w.name marker).IsValid where
  media := h.media
  reach := h.reach
  properties := matches_intercalate h.nonempty fun token htoken => (h.property token htoken).1
  values := matches_intercalate h.values_ne_nil h.matches_value

/-- What was written is an encoded name. -/
theorem isEncoded (marker : String) : EncodedName.isEncoded marker (w.text marker) = true :=
  EncodedName.isEncoded_iff.mpr ⟨w.name marker, h.isValid marker, rfl⟩

/-- The name is found in its text. -/
theorem parse? (marker : String) :
    EncodedName.parse? marker (w.text marker) = some (w.name marker) :=
  EncodedName.parse?_eq_some_iff.mpr ⟨h.isValid marker, rfl, rfl⟩

/-- The properties of the name are those that the tokens stand for. -/
theorem accepted_properties (marker : String) :
    (siftProperties (w.name marker).properties).accepted = w.resolved := by
  have htokens : tokens (w.name marker).properties = w.properties :=
    tokens_intercalate h.nonempty fun token htoken =>
      Pattern.not_mem_of_avoids avoids_dot.1 (h.property token htoken).1
  rw [siftProperties, Sifted.accepted_ofTokens, htokens, resolved]

/-- The values of the name are those of the value tokens, with none left out. -/
theorem accepted_values (marker : String) :
    (siftValues (w.name marker).values).accepted.map some = w.values.map Value.ofToken? := by
  have htokens : tokens (w.name marker).values = w.values :=
    tokens_intercalate h.values_ne_nil fun token htoken =>
      Pattern.not_mem_of_avoids avoids_dot.2 (h.matches_value token htoken)
  rw [siftValues, Sifted.accepted_ofTokens, htokens, ← List.filterMap_eq_flatMap_toList,
    List.map_filterMap_some_eq_filter_map_isSome, List.filter_eq_self]
  -- no token is sifted out
  intro value hvalue
  obtain ⟨token, htoken, rfl⟩ := List.mem_map.mp hvalue
  exact h.value token htoken

/-! ### The rule -/

/-- As many properties as values are accepted. -/
theorem length_accepted (marker : String) :
    (siftProperties (w.name marker).properties).accepted.length =
      (siftValues (w.name marker).values).accepted.length := by
  have hlength := congrArg List.length (h.accepted_values marker)
  rw [List.length_map, List.length_map] at hlength
  rw [h.accepted_properties marker, h.count, hlength]

/-- What the name comes to is what the tokens spell. -/
theorem spells_planned (marker tag : String) (parentTag : Option String) :
    w.Spells (w.name marker).className tag parentTag
      ((w.name marker).planned tag parentTag).rule where
  count := by
    show ((w.name marker).declarations _ _).length = _
    rw [EncodedName.declarations, List.length_zipWith, ← h.length_accepted marker, Nat.min_self,
      h.accepted_properties marker]
  declaration := by
    intro k property token value hproperty htoken hvalue
    -- the value in the place is that of the token in the place, since none was left out
    have haccepted : (siftValues (w.name marker).values).accepted[k]? = some value := by
      have hplace := congrArg (·[k]?) (h.accepted_values marker)
      simpa [htoken, hvalue] using hplace
    show ((w.name marker).declarations _ _)[k]? = _
    rw [EncodedName.declarations, h.accepted_properties marker]
    exact List.getElem?_zipWith_eq_some.mpr ⟨property, value, hproperty, haccepted, rfl⟩
  media := by
    intro condition
    show w.media.bind condition? = some condition ↔ _
    simp only [Option.bind_eq_some_iff, condition?_eq_some_iff, Option.mem_def]
  selector := rfl

/-- Every wording that is accepted is compiled. The name is found in its text, and on a connected
    element it comes to a rule, which is the one that the tokens spell. -/
theorem compile_eq_ok (marker : String) {t : Dom.Tree} {i : Nat} {e : Dom.Element}
    (he : t.element? (some i) = some e) (hconnected : t.isConnected (some i) = true) :
    EncodedName.isEncoded marker (w.text marker) = true ∧
      EncodedName.parse? marker (w.text marker) = some (w.name marker) ∧
      ∃ compiled t', (w.name marker).compile t (some i) = .ok (compiled, t') ∧
        w.Spells (w.name marker).className e.tag (t.tag? (t.parentElement (some i)))
          compiled.rule := by
  have hne : (siftProperties (w.name marker).properties).accepted ≠ [] := by
    rw [h.accepted_properties marker]
    exact h.resolved_ne_nil
  have hplan : (w.name marker).plan t (some i) = .ok _ :=
    EncodedName.plan_eq_ok_iff.mpr ⟨e, he, h.length_accepted marker, hne, hconnected, rfl⟩
  have hcompile := (w.name marker).compile_eq t i
  rw [hplan] at hcompile
  exact ⟨h.isEncoded marker, h.parse? marker, _, _, hcompile, h.spells_planned marker _ _⟩

end IsAccepted

/-- Three declarations for the first child of an element that is pointed at, on narrow pages. -/
def sample : Wording where
  media := some "MQMaxWidth600PX"
  reach := some "Child"
  pseudo := some .hover
  properties := ["PaddingY", "All"]
  values := ["10px", "calc(1px-pl-2px)", "10px"]
  important := true

/-- On the paragraph of the sample page, the sample is compiled to its three declarations. -/
theorem compile_eq_ok_sample :
    ∃ compiled t', (sample.name "lcs").compile Pass.samplePage.tree (some 5) = .ok (compiled, t') ∧
      sample.text "lcs" =
        "lcsMQMaxWidth600PX_Child_HPE_PaddingY.All_10px.calc(1px-pl-2px).10px_IMPT" ∧
      compiled.rule.declarations.length = 3 ∧
      compiled.rule.declarations[1]? = some ⟨"padding-bottom", "calc(1px + 2px)", true⟩ ∧
      compiled.rule.media.isSome = true := by
  have haccepted : sample.IsAccepted :=
    { media := by decide +kernel
      reach := by decide +kernel
      nonempty := by decide
      property := by decide +kernel
      value := by decide +kernel
      count := by decide +kernel }
  obtain ⟨e, he⟩ : ∃ e, Pass.samplePage.tree.element? (some 5) = some e :=
    Option.isSome_iff_exists.mp (by decide +kernel)
  have hconnected : Pass.samplePage.tree.isConnected (some 5) = true := by decide +kernel
  obtain ⟨-, -, compiled, t', hcompile, hspells⟩ :=
    haccepted.compile_eq_ok "lcs" he hconnected
  have hlength : sample.resolved.length = 3 := by decide +kernel
  obtain ⟨value, hvalue, hcss⟩ : ∃ value, Value.ofToken? "calc(1px-pl-2px)" = some value ∧
      value.css = "calc(1px + 2px)" := ⟨_, rfl, by decide +kernel⟩
  have hdeclaration := hspells.declaration 1 "padding-bottom" "calc(1px-pl-2px)" value
    (by decide +kernel) rfl hvalue
  obtain ⟨condition, hcondition⟩ : ∃ condition, condition? "MQMaxWidth600PX" = some condition :=
    Option.isSome_iff_exists.mp (by decide +kernel)
  have hmedia := (hspells.media condition).mpr ⟨_, rfl, condition?_eq_some_iff.mp hcondition⟩
  refine ⟨compiled, t', hcompile, by decide +kernel, hspells.count.trans hlength, ?_, ?_⟩
  · rw [hdeclaration, hcss]
    rfl
  · rw [hmedia]
    rfl

end Wording

end ClassSheet
