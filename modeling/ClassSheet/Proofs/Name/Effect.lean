import ClassSheet.Proofs.Dom.ClassAttribute
import ClassSheet.Proofs.Name.Compiled
import ClassSheet.Proofs.Name.Generated
import ClassSheet.Proofs.Selector.Tags

/-! # What compiling does to the tree

Compiling a name comes to what its plan comes to, and the tree changes at one node at most: the
class that the rule relies on is put into the class list of the element (`EncodedName.Effect`). It
always gets in there, because every generated class is a token (`IsValid.isToken_className`). A rule
that relies on no class goes by tags alone. -/

namespace ClassSheet

/-! ### White space -/

namespace Text

/-- The characters that are white space. -/
def blanks : List Char :=
  [9, 10, 11, 12, 13, 0x20, 0x85, 0xA0, 0x1680, 0x2000, 0x2001, 0x2002, 0x2003, 0x2004, 0x2005,
    0x2006, 0x2007, 0x2008, 0x2009, 0x200A, 0x2028, 0x2029, 0x202F, 0x205F, 0x3000].map Char.ofNat

/-- The list has every blank. -/
theorem mem_blanks {c : Char} (h : isBlank c = true) : c ∈ blanks := by
  refine List.mem_map.mpr ⟨c.toNat, ?_, c.ofNat_toNat⟩
  simp only [isBlank, Bool.or_eq_true, Bool.and_eq_true, decide_eq_true_eq, beq_iff_eq] at h
  simp only [List.mem_cons, List.not_mem_nil, or_false]
  omega

end Text

namespace Dom.Element

/-- The element with a class at the end of its class list, unless it is there already. The `class`
    attribute follows the list. -/
def including (e : Element) (className : String) : Element :=
  if e.classes.contains className then e
  else e.withClasses ⟨e.classes.tokens ++ [className]⟩

/-- Adding a token includes it. -/
theorem snd_addClass {className : String} (h : ClassList.isToken className = true) (e : Element) :
    (e.addClass className).2 = e.including className := by
  unfold including addClass ClassList.add
  cases hcontains : e.classes.contains className with
  | true => simp
  | false => simp [h]

/-- A class that may be missing is included where it is there. -/
theorem addClasses_toList {className : Option String}
    (h : ∀ c ∈ className, ClassList.isToken c = true) (e : Element) :
    e.addClasses className.toList = className.elim e e.including := by
  cases className with
  | none => rfl
  | some c => exact e.snd_addClass (h c rfl)

/-- A class that was included is one of the element. -/
theorem mem_tokens_including (e : Element) (className : String) :
    className ∈ (e.including className).classes.tokens := by
  unfold including
  split
  · next hcontains => exact List.contains_iff_mem.mp hcontains
  · exact List.mem_append_right _ (List.mem_singleton_self className)

end Dom.Element

namespace EncodedName

open Text Dom

/-! ### The class -/

/-- No part of a name has a blank. -/
theorem avoidedByParts_blanks : ∀ x ∈ blanks, x ≠ '_' ∧ avoidedByParts x = true := by
  decide +kernel

/-- The class of a name can be put into a class list: it is not empty, and no part of a name holds
    white space. -/
theorem IsValid.isToken_className {n : EncodedName} (h : n.IsValid) :
    ClassList.isToken n.className = true := by
  refine ClassList.isToken_iff.mpr ⟨?_, fun c hc => ?_⟩
  · intro hempty
    have hbegins := begins_className h
    rw [hempty] at hbegins
    cases hbegins
  · rw [Bool.eq_false_iff]
    exact fun hblank => h.lacks_className avoidedByParts_blanks c hc (mem_blanks hblank)

/-! ### The tree -/

/-- Compiling a name comes to what planning it comes to. -/
theorem map_fst_compile (n : EncodedName) (t : Tree) (r : NodeRef) :
    (n.compile t r).map Prod.fst = n.plan t r := by
  cases r with
  | none => rfl
  | some i =>
    rw [compile_eq]
    cases n.plan t (some i) <;> rfl

/-- A pass goes on with the tree that compiling a name in place leaves, whether the name compiles or
    not. -/
theorem tree_addName (s : Pass.State) (i : Nat) (n : EncodedName) :
    (s.addName i n).tree = ((n.compileInPlace (some i)).run s.tree).2 := by
  rw [run_compileInPlace, Pass.State.addName]
  cases hcompile : n.compile s.tree (some i) with
  | error e => rfl
  | ok result =>
    dsimp only
    rw [Pass.State.tree_addRule]
    rfl

/-- What it means that a tree `t` with the element `e` at the node `i` has become `t'` when a name
    was compiled to a rule. Only the data of that node may differ, and only by the class of the
    rule, which is in the class list then and which every part of the selector begins with. Without
    a class, the selector is the tag of the element, perhaps below that of its parent. -/
structure Effect (n : EncodedName) (t t' : Tree) (i : Nat) (e : Element) (compiled : Compiled) :
    Prop where
  size_eq : t'.size = t.size
  get?_other : ∀ j, j ≠ i → t'.get? (some j) = t.get? (some j)
  get?_self : t'.get? (some i) = (t.get? (some i)).map fun node =>
    { node with data := .element (compiled.className.elim e e.including) }
  selector_eq : compiled.rule.selector =
    (n.selector e.tag (t.tag? (t.parentElement (some i)))).css n.pseudo
  of_className : ∀ c, compiled.className = some c →
    (∃ e', t'.element? (some i) = some e' ∧ c ∈ e'.classes.tokens) ∧
      ∀ part ∈ (n.selector e.tag (t.tag? (t.parentElement (some i)))).parts,
        ("." ++ c).toList <+: part.toList
  of_no_className : compiled.className = none →
    t' = t ∧ ∃ base, compiled.rule.selector = base ++ (n.pseudo.map Pseudo.css).getD "" ∧
      (base = e.tag ∨ ∃ parent, t.tag? (t.parentElement (some i)) = some parent ∧
        base = parent ++ " > " ++ e.tag)

/-- A rule with a class relies on the generated class of its name. -/
theorem usesClass_of_className_eq_some {n : EncodedName} {tag c : String}
    {parentTag : Option String} (h : (n.planned tag parentTag).className = some c) :
    (n.selector tag parentTag).usesClass = true ∧ n.className = c := by
  simpa [planned] using h

/-- A rule that relies on no class goes by tags. -/
theorem exists_base_of_className_eq_none {n : EncodedName} {tag : String}
    {parentTag : Option String} (h : (n.planned tag parentTag).className = none) :
    ∃ base, (n.planned tag parentTag).rule.selector = base ++ (n.pseudo.map Pseudo.css).getD "" ∧
      (base = tag ∨ ∃ parent, parentTag = some parent ∧ base = parent ++ " > " ++ tag) := by
  have huses : (n.selector tag parentTag).usesClass = false := by
    simpa [planned] using h
  have hone (base : String) (hbase : n.selector tag parentTag = ⟨[base], false⟩) :
      (n.planned tag parentTag).rule.selector = base ++ (n.pseudo.map Pseudo.css).getD "" := by
    simp [planned, hbase, Selector.css]
  rcases Reach.selectorOfToken_eq_of_not_usesClass huses with hbase | ⟨parent, hparent, hbase⟩
  · exact ⟨tag, hone tag hbase, Or.inl rfl⟩
  · exact ⟨_, hone _ hbase, Or.inr ⟨parent, hparent, rfl⟩⟩

/-- Compiling to a rule has its effect on an element. -/
theorem IsValid.effect {n : EncodedName} (h : n.IsValid) {t t' : Tree} {r : NodeRef}
    {compiled : Compiled} (hcompile : n.compile t r = .ok (compiled, t')) :
    ∃ i e, r = some i ∧ t.element? (some i) = some e ∧ n.Effect t t' i e compiled := by
  have hplan := plan_of_compile hcompile
  obtain ⟨e, he, -, -, -, rfl⟩ := plan_eq_ok_iff.mp hplan
  cases r with
  | none => cases he
  | some i =>
    refine ⟨i, e, rfl, he, ?_⟩
    generalize hparent : t.tag? (t.parentElement (some i)) = parentTag at hplan hcompile ⊢
    -- the tree has the class of the rule added to the one element
    have htree : t' = t.addClasses fun j =>
        if j = i then (n.planned e.tag parentTag).className.toList else [] := by
      rw [compile_eq, hplan] at hcompile
      exact (congrArg Prod.snd (Except.ok.inj hcompile)).symm
    have htoken : ∀ c ∈ (n.planned e.tag parentTag).className, ClassList.isToken c = true := by
      intro c hc
      rw [← (usesClass_of_className_eq_some hc).2]
      exact h.isToken_className
    have hself : t'.get? (some i) = (t.get? (some i)).map fun node =>
        { node with
          data := .element ((n.planned e.tag parentTag).className.elim e e.including) } := by
      rw [htree, Tree.get?_addClasses_self he, if_pos rfl, e.addClasses_toList htoken]
    -- the other nodes stay; what the element gets depends on whether the rule has a class
    constructor
    case size_eq => rw [htree, Tree.size_addClasses]
    case get?_other =>
      intro j hj
      rw [htree, Tree.get?_addClasses_of_eq_nil t (if_neg hj)]
    case get?_self => exact hself
    case selector_eq =>
      rw [hparent]
      rfl
    case of_className =>
      intro c hc
      rw [hparent]
      obtain ⟨huses, rfl⟩ := usesClass_of_className_eq_some hc
      refine ⟨⟨e.including n.className, ?_, e.mem_tokens_including _⟩,
        Reach.prefix_selectorOfToken huses⟩
      obtain ⟨node, hnode, -⟩ := Option.bind_eq_some_iff.mp he
      rw [Tree.element?, hself, hnode, hc]
      rfl
    case of_no_className =>
      intro hnone
      rw [hparent]
      refine ⟨?_, exists_base_of_className_eq_none hnone⟩
      rw [htree, hnone, Option.toList_none]
      simp only [ite_self, Tree.addClasses_nil]

/-- Compiling a name on a node comes to what planning it comes to. Done in place, it leaves the tree
    as it was after an error, and a rule has its effect on an element and no other. -/
theorem compile_atomic {marker name : String} {n : EncodedName} (h : parse? marker name = some n)
    (t : Tree) (r : NodeRef) :
    (n.compile t r).map Prod.fst = n.plan t r ∧
      ((n.compileInPlace r).run t).1 = n.plan t r ∧
      (∀ err, n.compile t r = .error err → (n.compileInPlace r).run t = (.error err, t)) ∧
      ∀ compiled t', n.compile t r = .ok (compiled, t') →
        (n.compileInPlace r).run t = (.ok compiled, t') ∧
          ∃ i e, r = some i ∧ t.element? (some i) = some e ∧ n.Effect t t' i e compiled := by
  have hplan := n.map_fst_compile t r
  rw [run_compileInPlace]
  refine ⟨hplan, ?_, fun err herr => ?_, fun compiled t' hcompile => ⟨?_, ?_⟩⟩
  · rw [← hplan]
    cases n.compile t r <;> rfl
  · rw [herr]
    rfl
  · rw [hcompile]
    rfl
  · exact (parse?_eq_some_iff.mp h).1.effect hcompile

/-- The sample name is compiled on the paragraph of the sample page and puts its class there. On a
    node that is not there it leaves the page as it was. -/
theorem compile_atomic_sampleNarrow :
    (∃ t' e, (sampleNarrow.compileInPlace (some 5)).run Pass.samplePage.tree =
        (.ok ⟨sampleRule, some "MQMaxWidth600PX__All_10px_IMPT"⟩, t') ∧
      sampleNarrow.Effect Pass.samplePage.tree t' 5 e
        ⟨sampleRule, some "MQMaxWidth600PX__All_10px_IMPT"⟩) ∧
      (sampleNarrow.compileInPlace (some 9)).run Pass.samplePage.tree =
        (.error (.dom (.notFound (some 9))), Pass.samplePage.tree) := by
  have hparse : parse? "lcs" sampleNarrow.raw = some sampleNarrow := by decide +kernel
  have hrule : (sampleNarrow.compile Pass.samplePage.tree (some 5)).toOption.map Prod.fst =
      some ⟨sampleRule, some "MQMaxWidth600PX__All_10px_IMPT"⟩ := by decide +kernel
  constructor
  · obtain ⟨t', hcompile⟩ := exists_of_toOption_compile hrule
    obtain ⟨-, -, -, heffect⟩ := compile_atomic hparse Pass.samplePage.tree (some 5)
    obtain ⟨hplace, i, e, hi, -, heffect⟩ := heffect _ t' hcompile
    obtain rfl := Option.some.inj hi
    exact ⟨t', e, hplace, heffect⟩
  · obtain ⟨-, -, hrefused, -⟩ := compile_atomic hparse Pass.samplePage.tree (some 9)
    exact hrefused _ rfl

end EncodedName

end ClassSheet
