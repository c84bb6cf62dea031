import ClassSheet.Proofs.Dom.Arranged
import Mathlib.Data.List.Nodup
import Mathlib.Order.WellFoundedSet
import Mathlib.Data.Set.Finite.Basic

/-! # Walks in an arranged tree

In an arranged tree the bounded walks of `ClassSheet.Dom.Tree` see all there is to see:
`Tree.children` is the list of children (`Arranged.children_eq`), and the walk along the links to
the parent decides which nodes a node lies within (`Arranged.isInclusiveAncestor_iff`). -/

namespace ClassSheet.Dom.Tree

/-- Following a link from `r` visits the nodes of a list, one after the other, and ends there. -/
def Walk (t : Tree) (f : Node → NodeRef) : NodeRef → List Nat → Prop
  | r, [] => r = none
  | r, i :: is => r = some i ∧ i < t.size ∧ t.Walk f (t.link f i) is

namespace Arranged

variable {t : Tree} {kids : Nat → List Nat}

/-- Nodes without repetition are no more than the nodes of the tree. -/
theorem length_le_size {l : List Nat} (hl : l.Nodup) (hs : ∀ i ∈ l, i < t.size) :
    l.length ≤ t.size := by
  have hsub : l ⊆ List.range t.size := fun i hi => List.mem_range.mpr (hs i hi)
  simpa using (hl.subperm hsub).length_le

/-! ### Children -/

/-- The walk along the siblings visits a list of children from any of its members to its end. -/
private theorem siblingsFrom_eq (h : t.Arranged kids) {p : Nat} :
    ∀ (xs ys : List Nat) {fuel : Nat}, kids p = xs ++ ys → ys.length ≤ fuel →
      t.siblingsFrom fuel ys.head? = ys
  | xs, [], fuel, _, _ => by cases fuel <;> rfl
  | xs, c :: ys, 0, _, hf => by simp at hf
  | xs, c :: ys, fuel + 1, hk, hf => by
    -- `c` moves over to the part in front, and the walk goes on from its next sibling
    have hc : c < t.nodes.size := h.lt_size_of_mem (p := p) (by simp [hk])
    have hnext : t.nodes[c].nextSibling = ys.head? := by
      have := (h.siblings hk).2
      rwa [link, get?, Option.bind_some, Array.getElem?_eq_getElem hc, Option.bind_some] at this
    simp only [siblingsFrom, List.head?_cons, Array.getElem?_eq_getElem hc, hnext]
    rw [siblingsFrom_eq h (p := p) (xs ++ [c]) ys (by simp [hk]) (by simpa using hf)]

/-- The children of a node are its list. -/
theorem children_eq (h : t.Arranged kids) (p : Nat) : t.children (some p) = kids p := by
  have hlen : (kids p).length ≤ t.size :=
    length_le_size (h.nodup p) fun c hc => h.lt_size_of_mem hc
  have := h.firstChild p
  rw [link] at this
  rw [children, this]
  exact h.siblingsFrom_eq [] (kids p) rfl hlen

/-! ### Induction along the links -/

/-- A relation between numbers below a bound in which nothing is related to itself over any number
    of steps is well-founded. -/
private theorem wellFounded_of_acyclic {r : Nat → Nat → Prop} (n : Nat)
    (hr : ∀ a b, r a b → a < n ∧ b < n) (hirr : ∀ a, ¬ Relation.TransGen r a a) :
    WellFounded r := by
  have : IsStrictOrder Nat (Relation.TransGen r) :=
    { irrefl := hirr, trans := fun _ _ _ => Relation.TransGen.trans }
  have hwf := (Set.finite_lt_nat n).wellFoundedOn (r := Relation.TransGen r)
  exact (Set.wellFoundedOn_iff.mp hwf).mono fun a b hab => ⟨.single hab, hr a b hab⟩

/-- What holds of a node if it holds of its parent holds of every node. -/
theorem induction_up (h : t.Arranged kids) {P : Nat → Prop}
    (step : ∀ c, (∀ p, t.IsChild c p → P p) → P c) (i : Nat) : P i := by
  have hwf : WellFounded fun p c => t.IsChild c p := wellFounded_of_acyclic t.size
    (fun p c hc => ⟨h.lt_size_of_isChild hc, lt_size_of_link hc⟩)
    (fun i hi => h.acyclic i (Relation.transGen_swap.mp hi))
  exact hwf.induction i step

/-- What holds of a node if it holds of its children holds of every node. -/
theorem induction_down (h : t.Arranged kids) {P : Nat → Prop}
    (step : ∀ p, (∀ c ∈ kids p, P c) → P p) (i : Nat) : P i := by
  have hwf : WellFounded t.IsChild := wellFounded_of_acyclic t.size
    (fun c p hc => ⟨lt_size_of_link hc, h.lt_size_of_isChild hc⟩) h.acyclic
  exact hwf.induction i fun p ih => step p fun c hc => ih c ((h.isChild_iff c p).mpr hc)

/-! ### Ancestors -/

/-- Where no node has got another parent, nodes lie within what they lay within before. -/
theorem within_iff_of_link_parent_eq (h : t.Arranged kids) {t' : Tree}
    (hparent : ∀ i < t.size, t'.link (·.parent) i = t.link (·.parent) i) {b a : Nat}
    (hb : b < t.size) : t'.Within b a ↔ t.Within b a := by
  have hchild (i q : Nat) (hi : i < t.size) : t'.IsChild i q ↔ t.IsChild i q := by
    rw [IsChild, hparent i hi, IsChild]
  constructor
  · intro hw
    -- from the node upwards, which never leaves the old nodes
    induction hw using Relation.ReflTransGen.head_induction_on with
    | refl => exact .refl
    | head hc _ ih =>
      rw [hchild _ _ hb] at hc
      exact .head hc (ih (h.lt_size_of_isChild hc))
  · intro hw
    refine Relation.ReflTransGen.mono (fun i q hi => ?_) b a hw
    exact (hchild i q (lt_size_of_link hi)).mpr hi

/-- The nodes that a node lies within can be listed, and the walk upwards visits them. -/
theorem exists_lineage (h : t.Arranged kids) (i : Nat) (hi : i < t.size) :
    ∃ l : List Nat, l.Nodup ∧ (∀ a, a ∈ l ↔ t.Within i a) ∧ t.Walk (·.parent) (some i) l ∧
      ∀ a fuel, l.length ≤ fuel → (t.meets a fuel (some i) = true ↔ a ∈ l) := by
  revert hi
  -- from the parent to the child: the list gets one node longer
  induction i using h.induction_up with
  | step i ih =>
    intro hi
    cases hp : t.link (·.parent) i with
    | none =>
      have hpar : t.parent (some i) = none := hp
      have htop : ∀ p, ¬ t.IsChild i p := fun p hc => nomatch hp.symm.trans hc
      refine ⟨[i], List.nodup_singleton i, fun a => ?_, ⟨rfl, hi, hp⟩, fun a fuel hf => ?_⟩
      · rw [List.mem_singleton, Within, Relation.ReflTransGen.cases_head_iff]
        simp only [htop, false_and, exists_false, or_false]
        exact eq_comm
      · obtain ⟨fuel, rfl⟩ := Nat.exists_eq_add_of_le' hf
        rw [List.length_singleton, meets, hpar, List.mem_singleton]
        have hstop : t.meets a fuel none = false := by cases fuel <;> rfl
        rw [hstop, Bool.or_false, beq_iff_eq, eq_comm]
    | some p =>
      have hpar : t.parent (some i) = some p := hp
      have hup : ∀ q, t.IsChild i q ↔ p = q := fun q => by rw [IsChild, hp, Option.some.injEq]
      obtain ⟨l, hnd, hmem, hwalk, hmeets⟩ := ih p hp (h.lt_size_of_isChild hp)
      refine ⟨i :: l, List.nodup_cons.mpr ⟨fun hil => ?_, hnd⟩, fun a => ?_,
        ⟨rfl, hi, hp ▸ hwalk⟩, fun a fuel hf => ?_⟩
      · -- `i` within its own parent would lie below itself
        exact h.acyclic i (Relation.TransGen.head' hp ((hmem i).mp hil))
      · rw [List.mem_cons, hmem, Within, Relation.ReflTransGen.cases_head_iff (a := i)]
        simp only [hup, exists_eq_left', eq_comm (a := a)]
      · obtain ⟨fuel, rfl⟩ := Nat.exists_eq_add_of_le' (Nat.le_of_add_left_le hf)
        rw [meets, hpar, Bool.or_eq_true, hmeets a fuel (by simpa using hf), List.mem_cons,
          beq_iff_eq, eq_comm]

/-- The walk upwards from a node decides what the node lies within. -/
theorem isInclusiveAncestor_iff (h : t.Arranged kids) {i : Nat} (hi : i < t.size) (a : Nat) :
    t.isInclusiveAncestor a (some i) = true ↔ t.Within i a := by
  obtain ⟨l, hnd, hmem, -, hmeets⟩ := h.exists_lineage i hi
  -- the ancestors are nodes and none comes twice, so the fuel is enough
  have hlt : ∀ a ∈ l, a < t.size := by
    intro a ha
    rcases Relation.ReflTransGen.cases_tail ((hmem a).mp ha) with rfl | ⟨b, -, hb⟩
    · exact hi
    · exact h.lt_size_of_isChild hb
  have hlen := length_le_size hnd hlt
  rw [isInclusiveAncestor, hmeets a (t.size + 1) (by omega), hmem]

end Arranged

end ClassSheet.Dom.Tree
