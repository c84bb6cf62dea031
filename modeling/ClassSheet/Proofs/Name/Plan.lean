import ClassSheet.Name.Compile
import ClassSheet.Proofs.Dom.Classes

/-! # Plans and classes

What a name comes to on an element depends on the tags of the element and its parent and on where
the element hangs, but not on any class. So a plan stays the same while classes are added
(`plan_addClasses`), and compiling is planning and then adding the class of the plan
(`compile_eq`). -/

namespace ClassSheet

/-- The error but for the start tag of the element, which shows the classes that the element had
    when the name was compiled. -/
def CompileError.withoutElement : CompileError → CompileError
  | mismatch m => mismatch { m with element := "" }
  | e => e

/-- What a name comes to: a rule, or the reason why there is none. -/
abbrev Outcome := Except CompileError Compiled

namespace Outcome

/-- The rule of an outcome. -/
def rule? : Outcome → Option Css.Rule
  | .ok compiled => some compiled.rule
  | .error _ => none

/-- The class that an outcome puts on the element. -/
def className? : Outcome → Option String
  | .ok compiled => compiled.className
  | .error _ => none

/-- The failure of an outcome. -/
def error? : Outcome → Option CompileError
  | .ok _ => none
  | .error e => some e

/-- Renaming an error changes no rule. -/
@[simp] theorem rule?_mapError (x : Outcome) (f : CompileError → CompileError) :
    rule? (x.mapError f) = x.rule? := by
  cases x <;> rfl

/-- `mapError` renames the error, if there is one. -/
@[simp] theorem error?_mapError (x : Outcome) (f : CompileError → CompileError) :
    error? (x.mapError f) = x.error?.map f := by
  cases x <;> rfl

/-- Outcomes that differ in start tags only are the same rule or two failures. -/
theorem of_mapError_eq {x y : Outcome}
    (h : x.mapError CompileError.withoutElement = y.mapError CompileError.withoutElement) :
    (∃ compiled, x = .ok compiled ∧ y = .ok compiled) ∨
      ∃ e e', x = .error e ∧ y = .error e' ∧ e.withoutElement = e'.withoutElement := by
  cases x with
  | ok compiled =>
    cases y with
    | ok compiled' => exact Or.inl ⟨compiled, rfl, h.symm⟩
    | error e' => exact nomatch h
  | error e =>
    cases y with
    | ok compiled' => exact nomatch h
    | error e' => exact Or.inr ⟨e, e', rfl, rfl, Except.error.inj h⟩

end Outcome

namespace EncodedName

open Dom

/-- Added classes change no plan; only the start tag in an error shows them. -/
theorem plan_addClasses (n : EncodedName) (t : Tree) (added : Nat → List String) (i : Nat) :
    (n.plan (t.addClasses added) (some i)).mapError CompileError.withoutElement =
      (n.plan t (some i)).mapError CompileError.withoutElement := by
  unfold plan
  rw [Tree.requireElement_addClasses]
  cases t.requireElement (some i) with
  | error e => rfl
  | ok e =>
    simp only [Except.map, Tree.isConnected_addClasses, Tree.tag?_addClasses,
      Tree.parentElement_addClasses, Element.tag_addClasses]
    -- the conditions are the same now; the start tag stands in the first error only
    split
    · rfl
    · split
      · rfl
      · split <;> rfl

/-- What a name comes to on an element with a tag, below a parent with a tag, if it comes to a rule
    at all. -/
def planned (n : EncodedName) (tag : String) (parentTag : Option String) : Compiled where
  rule :=
    { selector := (n.selector tag parentTag).css n.pseudo
      declarations := n.declarations (siftProperties n.properties).accepted
        (siftValues n.values).accepted
      media := n.media.bind condition? }
  className := if (n.selector tag parentTag).usesClass then some n.className else none

/-- A plan succeeds on a connected element if properties and values pair up and there are some. -/
theorem plan_eq_ok_iff {n : EncodedName} {t : Tree} {r : NodeRef} {compiled : Compiled} :
    n.plan t r = .ok compiled ↔
      ∃ e, t.element? r = some e ∧
        (siftProperties n.properties).accepted.length = (siftValues n.values).accepted.length ∧
        (siftProperties n.properties).accepted ≠ [] ∧ t.isConnected r = true ∧
        n.planned e.tag (t.tag? (t.parentElement r)) = compiled := by
  unfold plan planned
  cases he : t.requireElement r with
  | error err =>
    -- there is no element to plan for
    simp only [reduceCtorEq, false_iff, not_exists, not_and]
    intro e hok
    rw [Tree.requireElement_eq_ok_iff.mpr hok] at he
    exact nomatch he
  | ok e =>
    have hok := Tree.requireElement_eq_ok_iff.mp he
    simp only [hok, Option.some.injEq, exists_eq_left', bne_iff_ne, ne_eq, ite_not,
      List.isEmpty_iff, Bool.not_eq_eq_eq_not, Bool.not_true]
    -- then the pairing, what is left of it, and the link to the root are checked in turn
    split
    · next hlen =>
      split
      · next hnil => simp [hnil]
      · next hne =>
        split
        · next hconn => simp [hconn]
        · next hconn => simp [hlen, hne, hconn]
    · next hlen => simp [hlen]

/-- A plan is made for an element that is there. -/
theorem element?_of_plan {n : EncodedName} {t : Tree} {r : NodeRef} {compiled : Compiled}
    (h : n.plan t r = .ok compiled) : ∃ e, t.element? r = some e := by
  obtain ⟨e, he, -⟩ := plan_eq_ok_iff.mp h
  exact ⟨e, he⟩

/-- The class of a plan is the generated class of its name. -/
theorem className_of_plan {n : EncodedName} {t : Tree} {r : NodeRef} {compiled : Compiled}
    (h : n.plan t r = .ok compiled) : ∀ c ∈ compiled.className, c = n.className := by
  obtain ⟨e, -, -, -, -, rfl⟩ := plan_eq_ok_iff.mp h
  intro c hc
  rw [planned, Option.mem_def, Option.ite_none_right_eq_some, Option.some.injEq] at hc
  exact hc.2.symm

/-- A rule that is compiled was planned. -/
theorem plan_of_compile {n : EncodedName} {t t' : Tree} {r : NodeRef} {compiled : Compiled}
    (h : n.compile t r = .ok (compiled, t')) : n.plan t r = .ok compiled := by
  unfold compile at h
  split at h
  · cases h
  · next planned hplan =>
    have hsame : planned = compiled := by
      split at h
      · exact (Prod.mk.inj (Except.ok.inj h)).1
      · split at h
        · cases h
        · exact (Prod.mk.inj (Except.ok.inj h)).1
    rw [hplan, hsame]

/-- A rule that is found in the result of compiling was compiled. -/
theorem exists_of_toOption_compile {n : EncodedName} {t : Tree} {r : NodeRef} {compiled : Compiled}
    (h : (n.compile t r).toOption.map Prod.fst = some compiled) :
    ∃ t', n.compile t r = .ok (compiled, t') := by
  cases hc : n.compile t r with
  | error e =>
    rw [hc] at h
    cases h
  | ok result =>
    rw [hc] at h
    obtain rfl : result.1 = compiled := Option.some.inj h
    exact ⟨result.2, rfl⟩

/-- Compiling a name is planning it and then adding the class of the plan. -/
theorem compile_eq (n : EncodedName) (t : Tree) (i : Nat) :
    n.compile t (some i) = (n.plan t (some i)).map fun compiled =>
      (compiled, t.addClasses fun j => if j = i then compiled.className.toList else []) := by
  unfold compile
  cases hp : n.plan t (some i) with
  | error e => rfl
  | ok compiled =>
    simp only [Except.map]
    cases hc : compiled.className with
    | none => simp [t.addClasses_nil]
    | some c =>
      -- there is an element, so the class can be added
      obtain ⟨e, he⟩ := element?_of_plan hp
      obtain ⟨isNew, ha⟩ := Tree.addClass_eq he c
      simp [ha]

end EncodedName

end ClassSheet
