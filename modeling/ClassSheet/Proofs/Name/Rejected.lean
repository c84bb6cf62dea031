import ClassSheet.Proofs.Name.Plan
import ClassSheet.Proofs.Sheet.Pass

/-! # Rejected tokens

A property or value token that stands for nothing is left out, and what is left is paired in order.
So a rejected token is noticed by the count of what is left: with different counts the plan is an
error that names the rejected tokens, and with equal counts the plan goes on without them
(`EncodedName.plan_of_rejected`). Where a name has a value for every property that it asks for,
equal counts mean that as many tokens of one kind are rejected as of the other. -/

namespace ClassSheet

open ClassSheet.Text ClassSheet.Css

/-- The tokens of a text that has dots between them. -/
def tokens (s : String) : List String := (pieces (· == '.') s.toList).map String.ofList

namespace Sifted

variable {α : Type} (read : String → List α)

/-- What is accepted is what the tokens are read as, in order. -/
theorem accepted_ofTokens (s : String) : (ofTokens read s).accepted = (tokens s).flatMap read := rfl

/-- What is rejected are the tokens that are read as nothing. -/
theorem rejected_ofTokens (s : String) :
    (ofTokens read s).rejected = (tokens s).filter fun token => (read token).isEmpty := rfl

/-- A token takes the places of all that it stands for, and a rejected one takes one place. -/
def places (s : String) : Nat :=
  (tokens s).foldr
    (fun token n => (if (read token).isEmpty then 1 else (read token).length) + n) 0

/-- What is accepted and what is rejected fill all places. -/
theorem length_add_length (s : String) :
    (ofTokens read s).accepted.length + (ofTokens read s).rejected.length = places read s := by
  rw [accepted_ofTokens, rejected_ofTokens, places]
  induction tokens s with
  | nil => rfl
  | cons token rest ih =>
    rw [List.flatMap_cons, List.length_append, List.filter_cons, List.foldr_cons]
    cases hread : read token with
    | nil =>
      simp only [List.isEmpty_nil, if_true, List.length_nil, List.length_cons]
      omega
    | cons x xs =>
      simp only [List.isEmpty_cons, Bool.false_eq_true, if_false, List.length_cons]
      omega

/-- Tokens that stand for one thing at most take one place each. -/
theorem places_eq_length {read : String → List α} (hread : ∀ token, (read token).length ≤ 1)
    (s : String) : places read s = (tokens s).length := by
  rw [places]
  induction tokens s with
  | nil => rfl
  | cons token rest ih =>
    have hone : (if (read token).isEmpty then 1 else (read token).length) = 1 := by
      cases heq : read token with
      | nil => rfl
      | cons x xs =>
        have hle := hread token
        rw [heq] at hle
        exact Nat.le_antisymm hle (Nat.succ_le_succ (Nat.zero_le xs.length))
    rw [List.foldr_cons, List.length_cons, ih, hone, Nat.add_comm]

end Sifted

namespace EncodedName

/-- The places that the property tokens of a name take: one for each property, and one for each
    rejected token. -/
def propertyPlaces (n : EncodedName) : Nat := Sifted.places Property.resolve n.properties

/-- The accepted properties and the rejected ones together fill the places. -/
theorem length_siftProperties (n : EncodedName) :
    (siftProperties n.properties).accepted.length + (siftProperties n.properties).rejected.length =
      n.propertyPlaces :=
  Sifted.length_add_length Property.resolve n.properties

/-- A value token stands for one value or is rejected. -/
theorem length_siftValues (n : EncodedName) :
    (siftValues n.values).accepted.length + (siftValues n.values).rejected.length =
      (tokens n.values).length := by
  have hread (token : String) : (Value.ofToken? token).toList.length ≤ 1 := by
    cases Value.ofToken? token with
    | none => exact Nat.zero_le 1
    | some value => exact Nat.le_refl 1
  rw [← Sifted.places_eq_length hread n.values]
  exact Sifted.length_add_length _ n.values

/-- A declaration has a property and the value in the same place. -/
theorem declarations_eq_zip (n : EncodedName) (properties : List String) (values : List Value) :
    (n.declarations properties values).map (fun d => (d.property, d.value)) =
      properties.zip (values.map Value.css) := by
  rw [declarations, List.map_zipWith, List.zip_map_right, List.zip, List.map_zipWith]
  rfl

/-- With different counts, the plan for an element is an error that tells which tokens were
    rejected. -/
theorem plan_of_length_ne {n : EncodedName} {t : Dom.Tree} {r : Dom.NodeRef} {e : Dom.Element}
    (he : t.element? r = some e)
    (hlen : (siftProperties n.properties).accepted.length ≠ (siftValues n.values).accepted.length) :
    ∃ m, n.plan t r = .error (.mismatch m) ∧
      m.rejectedProperties = (tokens n.properties).filter (fun s => (Property.resolve s).isEmpty) ∧
      m.rejectedValues = (tokens n.values).filter (fun s => (Value.ofToken? s).isNone) := by
  have hvalues : (siftValues n.values).rejected =
      (tokens n.values).filter fun s => (Value.ofToken? s).isNone := by
    rw [siftValues, Sifted.rejected_ofTokens]
    refine List.filter_congr fun token _ => ?_
    cases Value.ofToken? token <;> rfl
  unfold plan
  rw [Dom.Tree.requireElement_eq_ok_iff.mpr he]
  simp only [bne_iff_ne.mpr hlen, if_true]
  exact ⟨_, rfl, rfl, hvalues⟩

/-- What a rejected token leads to. If the counts of what is accepted differ, the plan is an error
    that names all rejected tokens. If there is a plan nevertheless, the counts are equal and not
    zero, and the rule declares what is accepted, pair by pair; and if the name has a value token
    for every place that its property tokens take, then as many value tokens are rejected as
    property tokens, so that none is rejected on one side only. -/
theorem plan_of_rejected {n : EncodedName}
    (hrejected : (siftProperties n.properties).rejected ≠ [] ∨ (siftValues n.values).rejected ≠ [])
    (t : Dom.Tree) (r : Dom.NodeRef) :
    let properties := siftProperties n.properties
    let values := siftValues n.values
    (∀ e, t.element? r = some e → properties.accepted.length ≠ values.accepted.length →
      ∃ m, n.plan t r = .error (.mismatch m) ∧
        m.rejectedProperties =
          (tokens n.properties).filter (fun s => (Property.resolve s).isEmpty) ∧
        m.rejectedValues = (tokens n.values).filter (fun s => (Value.ofToken? s).isNone)) ∧
    ∀ compiled, n.plan t r = .ok compiled →
      properties.accepted.length = values.accepted.length ∧ properties.accepted ≠ [] ∧
      compiled.rule.declarations.map (fun d => (d.property, d.value)) =
        properties.accepted.zip (values.accepted.map Value.css) ∧
      (n.propertyPlaces = (tokens n.values).length →
        properties.rejected.length = values.rejected.length ∧ properties.rejected ≠ [] ∧
          values.rejected ≠ []) := by
  intro properties values
  refine ⟨fun e he hlen => plan_of_length_ne he hlen, fun compiled hplan => ?_⟩
  obtain ⟨e, -, hlen, hne, -, rfl⟩ := plan_eq_ok_iff.mp hplan
  refine ⟨hlen, hne, n.declarations_eq_zip _ _, fun hplaces => ?_⟩
  -- the places of both sides are as many, and so is what was accepted
  have hproperties : properties.accepted.length + properties.rejected.length = n.propertyPlaces :=
    n.length_siftProperties
  have hvalues : values.accepted.length + values.rejected.length = (tokens n.values).length :=
    n.length_siftValues
  have hsame : properties.accepted.length = values.accepted.length := hlen
  have hcount : properties.rejected.length = values.rejected.length := by omega
  have hnil : properties.rejected = [] ↔ values.rejected = [] := by
    rw [← List.length_eq_zero_iff, hcount, List.length_eq_zero_iff]
  rcases hrejected with h | h
  · exact ⟨hcount, h, mt hnil.mpr h⟩
  · exact ⟨hcount, mt hnil.mp h, h⟩

/-- A property and no value but a rejected one. -/
def sampleNoValue : EncodedName where
  raw := "lcsAll_calc"
  media := none
  reach := none
  pseudo := none
  properties := "All"
  values := "calc"
  important := false

/-- On the paragraph of the sample page, the rejected value is named in the error. -/
theorem plan_of_rejected_sampleNoValue :
    ∃ m, sampleNoValue.plan Pass.samplePage.tree (some 5) = .error (.mismatch m) ∧
      m.rejectedProperties = [] ∧ m.rejectedValues = ["calc"] := by
  have hrejected : (siftValues sampleNoValue.values).rejected ≠ [] := by decide +kernel
  have hlen : (siftProperties sampleNoValue.properties).accepted.length ≠
      (siftValues sampleNoValue.values).accepted.length := by decide +kernel
  obtain ⟨e, he⟩ : ∃ e, Pass.samplePage.tree.element? (some 5) = some e :=
    Option.isSome_iff_exists.mp (by decide +kernel)
  obtain ⟨hmismatch, -⟩ :=
    plan_of_rejected (Or.inr hrejected) Pass.samplePage.tree (some 5)
  obtain ⟨m, hplan, hproperties, hvalues⟩ := hmismatch e he hlen
  exact ⟨m, hplan, hproperties.trans (by decide +kernel), hvalues.trans (by decide +kernel)⟩

/-- Two properties and three values, the first of which is rejected. -/
def sampleShifted : EncodedName where
  raw := "lcsAll.PaddingT_calc.10px.20px"
  media := none
  reach := none
  pseudo := none
  properties := "All.PaddingT"
  values := "calc.10px.20px"
  important := false

/-- The counts are equal without the rejected value, so the plan goes on, and each property has the
    value that stands one place behind it. -/
theorem plan_sampleShifted :
    parse? "lcs" sampleShifted.raw = some sampleShifted ∧
      (siftValues sampleShifted.values).rejected = ["calc"] ∧
      ∃ compiled, sampleShifted.plan Pass.samplePage.tree (some 5) = .ok compiled ∧
        compiled.rule.declarations.map (fun d => (d.property, d.value)) =
          [("all", "10px"), ("padding-top", "20px")] := by
  refine ⟨by decide +kernel, by decide +kernel, ?_⟩
  have hdeclarations : (sampleShifted.plan Pass.samplePage.tree (some 5)).toOption.map
      (fun compiled => compiled.rule.declarations.map fun d => (d.property, d.value)) =
        some [("all", "10px"), ("padding-top", "20px")] := by decide +kernel
  cases hplan : sampleShifted.plan Pass.samplePage.tree (some 5) with
  | error e => exact nomatch hplan ▸ hdeclarations
  | ok compiled =>
    rw [hplan] at hdeclarations
    exact ⟨compiled, rfl, Option.some.inj hdeclarations⟩

end EncodedName

end ClassSheet
