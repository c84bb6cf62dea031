import ClassSheet.Proofs.Dom.Reachable
import ClassSheet.Proofs.Name.Plan
import ClassSheet.Sheet.Pass

/-! # The names of a document

`Pass.names` lists the encoded names that a pass compiles. Compiling them one after the other
(`compileNames`), each in the tree that those before it have left, comes to the same as planning
them all in the tree as it was: the rules are `plannedRules`, and the classes that have been added
are `plannedClasses`. -/

namespace ClassSheet.Pass

open Dom

/-! ### Names and plans -/

/-- The encoded names below the body, in document order, each with the number of its element.
    Elements without a `class` attribute have none, and neither have those that opt out. -/
def names (c : Config) (d : Document) : List (Nat × EncodedName) :=
  (d.tree.descendants d.body).flatMap fun i =>
    if d.tree.hasAttribute (some i) "class" && !c.isOptedOut d.tree (some i) then
      (((d.tree.classes? (some i)).map (·.tokens)).getD []).filterMap fun token =>
        (EncodedName.parse? c.marker token).map (i, ·)
    else []

/-- What names come to in one and the same tree. -/
def plans (t : Tree) (names : List (Nat × EncodedName)) : List Outcome :=
  names.map fun entry => entry.2.plan t (some entry.1)

/-- The rules of plans, in order. -/
def plannedRules (t : Tree) (names : List (Nat × EncodedName)) : List Css.Rule :=
  (plans t names).filterMap Outcome.rule?

/-- The classes that plans put on the node `i`, in order. -/
def plannedClasses (t : Tree) (names : List (Nat × EncodedName)) (i : Nat) : List String :=
  (names.filter fun entry => entry.1 == i).filterMap fun entry =>
    Outcome.className? (entry.2.plan t (some entry.1))

/-- The names are those that the classes of an element spell, of an element that lies below the
    body, has a `class` attribute and does not opt out. -/
theorem mem_names_iff {c : Config} {d : Document} {i : Nat} {n : EncodedName} :
    (i, n) ∈ names c d ↔ i ∈ d.tree.descendants d.body ∧ ∃ e, d.tree.element? (some i) = some e ∧
      e.hasAttribute "class" = true ∧ c.isOptedOut d.tree (some i) = false ∧
      ∃ token ∈ e.classes.tokens, EncodedName.parse? c.marker token = some n := by
  unfold names Tree.hasAttribute Tree.classes?
  rw [List.mem_flatMap]
  constructor
  · intro h
    obtain ⟨j, hj, h⟩ := h
    cases he : d.tree.element? (some j) with
    | none => simp [he] at h
    | some e =>
      rw [he] at h
      split at h
      · next hlisted =>
        obtain ⟨token, htoken, hn⟩ := List.mem_filterMap.mp h
        obtain ⟨m, hm, hmn⟩ := Option.map_eq_some_iff.mp hn
        obtain ⟨rfl, rfl⟩ := Prod.mk.inj hmn
        simp only [Option.map_some, Option.getD_some, Bool.and_eq_true,
          Bool.not_eq_eq_eq_not, Bool.not_true] at hlisted htoken
        -- an element is read only if it has a `class` and does not opt out
        exact ⟨hj, e, he, hlisted.1, hlisted.2, token, htoken, hm⟩
      · exact nomatch h
  · intro h
    obtain ⟨hi, e, he, hclass, hopt, token, htoken, hn⟩ := h
    refine ⟨i, hi, ?_⟩
    simp only [he, Option.map_some, Option.getD_some, hclass, hopt, Bool.not_false, Bool.and_self,
      if_true]
    exact List.mem_filterMap.mpr ⟨token, htoken, by rw [hn]; rfl⟩

/-- The planned rules are those of the names whose plan succeeds. -/
theorem mem_plannedRules {t : Tree} {names : List (Nat × EncodedName)} {rule : Css.Rule} :
    rule ∈ plannedRules t names ↔
      ∃ i n compiled, (i, n) ∈ names ∧ n.plan t (some i) = .ok compiled ∧
        compiled.rule = rule := by
  simp only [plannedRules, plans, List.filterMap_map, List.mem_filterMap, Function.comp,
    Prod.exists]
  refine exists_congr fun i => exists_congr fun n => ?_
  cases n.plan t (some i) with
  | error e => simp [Outcome.rule?]
  | ok compiled => simp [Outcome.rule?]

/-- The planned classes of an element are those of its names whose plan succeeds. -/
theorem mem_plannedClasses {t : Tree} {names : List (Nat × EncodedName)} {i : Nat}
    {className : String} :
    className ∈ plannedClasses t names i ↔
      ∃ n compiled, (i, n) ∈ names ∧ n.plan t (some i) = .ok compiled ∧
        compiled.className = some className := by
  simp only [plannedClasses, List.mem_filterMap, List.mem_filter, Prod.exists, beq_iff_eq]
  constructor
  · intro h
    obtain ⟨j, n, ⟨hmem, rfl⟩, h⟩ := h
    cases hp : n.plan t (some j) with
    | error e =>
      rw [hp] at h
      exact nomatch h
    | ok compiled =>
      rw [hp] at h
      exact ⟨n, compiled, hmem, hp, h⟩
  · intro h
    obtain ⟨n, compiled, hmem, hp, h⟩ := h
    exact ⟨i, n, ⟨hmem, rfl⟩, by rw [hp]; exact h⟩

/-! ### Names one after the other -/

/-- What names come to that are compiled one after the other, each in the tree that those before it
    have left, and the tree in the end. -/
def compileNames (t : Tree) : List (Nat × EncodedName) → List Outcome × Tree
  | [] => ([], t)
  | (i, n) :: names =>
    match n.compile t (some i) with
    | .error e => (.error e :: (compileNames t names).1, (compileNames t names).2)
    | .ok (compiled, t) => (.ok compiled :: (compileNames t names).1, (compileNames t names).2)

/-- Compiling is a sequence of edits, so it leads to a reachable tree. -/
theorem reachable_compileNames {t : Tree} (h : t.Reachable) (names : List (Nat × EncodedName)) :
    (compileNames t names).2.Reachable := by
  induction names generalizing t with
  | nil => exact h
  | cons entry names ih =>
    obtain ⟨i, n⟩ := entry
    rw [compileNames]
    cases hc : n.compile t (some i) with
    | error e => exact ih h
    | ok result =>
      -- either nothing was added or one class was
      refine ih ?_
      unfold EncodedName.compile at hc
      split at hc
      · exact nomatch hc
      · split at hc
        · obtain rfl := Except.ok.inj hc
          exact h
        · next className _ =>
          split at hc
          · exact nomatch hc
          · next hadd =>
            obtain rfl := Except.ok.inj hc
            have := h.apply (.addClass (some i) className)
            rw [Edit.apply, hadd] at this
            exact this

/-- Names may be compiled in two goes. -/
theorem compileNames_append (t : Tree) (xs ys : List (Nat × EncodedName)) :
    compileNames t (xs ++ ys) =
      ((compileNames t xs).1 ++ (compileNames (compileNames t xs).2 ys).1,
        (compileNames (compileNames t xs).2 ys).2) := by
  induction xs generalizing t with
  | nil => rfl
  | cons x xs ih =>
    obtain ⟨i, n⟩ := x
    simp only [List.cons_append, compileNames]
    cases n.compile t (some i) with
    | error e => simp only [ih, List.cons_append]
    | ok result => simp only [ih, List.cons_append]

/-- The class of the first name comes first, on its own element. -/
theorem plannedClasses_cons (t : Tree) (i : Nat) (n : EncodedName)
    (names : List (Nat × EncodedName)) (j : Nat) :
    plannedClasses t ((i, n) :: names) j =
      (if j = i then (Outcome.className? (n.plan t (some i))).toList else []) ++
        plannedClasses t names j := by
  unfold plannedClasses
  by_cases hj : j = i
  · subst hj
    cases h : Outcome.className? (n.plan t (some j)) <;> simp [h]
  · simp [hj, Ne.symm hj]

/-- Classes that have been added before make no difference to the outcomes, and in the end the tree
    has the classes of all plans. -/
theorem compileNames_addClasses (t : Tree) (names : List (Nat × EncodedName))
    (added : Nat → List String) :
    (compileNames (t.addClasses added) names).1.map (·.mapError CompileError.withoutElement) =
        (plans t names).map (·.mapError CompileError.withoutElement) ∧
      (compileNames (t.addClasses added) names).2 =
        t.addClasses fun j => added j ++ plannedClasses t names j := by
  induction names generalizing added with
  | nil => simp [compileNames, plans, plannedClasses]
  | cons entry names ih =>
    obtain ⟨i, n⟩ := entry
    simp only [compileNames, n.compile_eq, plans, List.map_cons, plannedClasses_cons]
    rcases Outcome.of_mapError_eq (n.plan_addClasses t added i) with
      ⟨compiled, hx, hy⟩ | ⟨e, e', hx, hy, he⟩
    · -- the class of this plan counts as added before the other names
      obtain ⟨hout, htree⟩ := ih fun j =>
        added j ++ if j = i then compiled.className.toList else []
      simp only [hx, hy, Except.map, Tree.addClasses_addClasses, List.map_cons]
      refine ⟨congrArg _ hout, htree.trans (congrArg _ (funext fun j => ?_))⟩
      rw [List.append_assoc]
      rfl
    · obtain ⟨hout, htree⟩ := ih added
      simp only [hx, hy, Except.map, List.map_cons, Except.mapError, he]
      refine ⟨congrArg _ hout, htree.trans (congrArg _ (funext fun j => ?_))⟩
      simp [Outcome.className?]

/-- The rules on the way are those of the plans. -/
theorem filterMap_rule?_compileNames (t : Tree) (names : List (Nat × EncodedName)) :
    (compileNames t names).1.filterMap Outcome.rule? = plannedRules t names := by
  obtain ⟨hout, -⟩ := compileNames_addClasses t names fun _ => []
  rw [Tree.addClasses_nil] at hout
  -- the rule of an outcome does not show the start tag
  have := congrArg (List.filterMap Outcome.rule?) hout
  simpa only [plannedRules, List.filterMap_map, Function.comp_def,
    Outcome.rule?_mapError] using this

/-- The failures on the way are those of the plans, but for the start tags in them. -/
theorem filterMap_error?_compileNames (t : Tree) (names : List (Nat × EncodedName)) :
    ((compileNames t names).1.filterMap Outcome.error?).map CompileError.withoutElement =
      ((plans t names).filterMap Outcome.error?).map CompileError.withoutElement := by
  obtain ⟨hout, -⟩ := compileNames_addClasses t names fun _ => []
  rw [Tree.addClasses_nil] at hout
  have := congrArg (List.filterMap Outcome.error?) hout
  simpa only [List.filterMap_map, Function.comp_def, Outcome.error?_mapError,
    List.map_filterMap] using this

/-- The tree in the end has the classes of the plans. -/
theorem tree_compileNames (t : Tree) (names : List (Nat × EncodedName)) :
    (compileNames t names).2 = t.addClasses (plannedClasses t names) := by
  obtain ⟨-, htree⟩ := compileNames_addClasses t names fun _ => []
  rwa [Tree.addClasses_nil] at htree

end ClassSheet.Pass
