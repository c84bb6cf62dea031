import ClassSheet.Proofs.Dom.Arranged
import Mathlib.Data.List.Nodup

/-! # Cutting off and hanging up

What the two halves of a move do to the lists of children that arrange a tree:
`Arranged.detach` takes a node out of the list of its parent, and `Arranged.linkLast` puts a node
without a parent at the end of the list of a node that does not lie within it. -/

namespace ClassSheet.Dom.Tree

/-- Two ways to cut a list: a member behind a cut of `xs ++ ys` stands in `xs` or in `ys`. -/
private theorem append_eq_append_cons {α : Type} {xs ys us vs : List α} {d : α}
    (h : xs ++ ys = us ++ d :: vs) :
    (∃ zs, xs = us ++ d :: zs ∧ vs = zs ++ ys) ∨ ∃ zs, us = xs ++ zs ∧ ys = zs ++ d :: vs := by
  rcases List.append_eq_append_iff.mp h with ⟨zs, hus, hys⟩ | ⟨zs, hxs, hvs⟩
  · exact Or.inr ⟨zs, hus, hys⟩
  · cases zs with
    | nil => exact Or.inr ⟨[], by simpa using hxs.symm, by simpa using hvs.symm⟩
    | cons e zs =>
      obtain ⟨rfl, rfl⟩ := List.cons.inj (hvs.trans (List.cons_append ..))
      exact Or.inl ⟨zs, hxs, rfl⟩

/-- Hanging up a node that hung nowhere adds one child. -/
theorem isChild_linkLast_iff {t : Tree} {p c : Nat} (hc : c < t.size)
    (hcp : t.link (·.parent) c = none) (d q : Nat) :
    (t.linkLast (some p) (some c)).IsChild d q ↔ t.IsChild d q ∨ d = c ∧ q = p := by
  unfold IsChild
  rw [link_parent_linkLast hc]
  by_cases hd : d = c
  · simp [hd, hcp, eq_comm]
  · simp [hd]

/-- After `c` was hung up below `p`, a walk upwards either was there before or leads through `c` and
    on from `p`. -/
private theorem below_linkLast {t : Tree} {p c : Nat} (hc : c < t.size)
    (hcp : t.link (·.parent) c = none) (hpc : ¬ t.Within p c) {i j : Nat}
    (hij : (t.linkLast (some p) (some c)).Below i j) :
    t.Below i j ∨ t.Within i c ∧ t.Within p j := by
  -- the walk is built up from below, so its last step is the one that may be new
  induction hij with
  | single hij =>
    rcases (isChild_linkLast_iff hc hcp _ _).mp hij with hij | ⟨rfl, rfl⟩
    · exact Or.inl (.single hij)
    · exact Or.inr ⟨.refl, .refl⟩
  | tail _ hjk ih =>
    rcases (isChild_linkLast_iff hc hcp _ _).mp hjk with hjk | ⟨rfl, rfl⟩
    · -- an old step goes on either way, and a new one ends at `p`
      rcases ih with ih | ⟨hic, hpj⟩
      · exact Or.inl (ih.tail hjk)
      · exact Or.inr ⟨hic, hpj.tail hjk⟩
    · rcases ih with ih | ⟨-, hpj⟩
      · exact Or.inr ⟨ih.to_reflTransGen, .refl⟩
      · exact absurd hpj hpc

namespace Arranged

variable {t : Tree} {kids : Nat → List Nat}

/-! ### Cutting off -/

/-- A child stands in its list once. -/
theorem not_mem_of_split (h : t.Arranged kids) {p c : Nat} {xs ys : List Nat}
    (hk : kids p = xs ++ c :: ys) : c ∉ xs ∧ c ∉ ys := by
  have := (List.nodup_cons.mp (List.nodup_middle.mp (hk ▸ h.nodup p))).1
  rwa [List.mem_append, not_or] at this

/-- What stands at the cut is in the list. -/
private theorem mem_of_split {p c : Nat} {xs ys : List Nat} (hk : kids p = xs ++ c :: ys) :
    c ∈ kids p := by
  rw [hk]
  exact List.mem_append_right _ List.mem_cons_self

section Detach

variable {p c : Nat} {xs ys : List Nat} (h : t.Arranged kids) (hk : kids p = xs ++ c :: ys)

include h hk

/-- The neighbours that the links of `c` name are nodes. -/
private theorem neighbours_lt_size :
    (∀ a, t.link (·.prevSibling) c = some a → a < t.size) ∧
      ∀ b, t.link (·.nextSibling) c = some b → b < t.size :=
  ⟨fun _ ha => h.lt_size_of_mem (h.mem_of_prevSibling (mem_of_split hk) ha),
    fun _ hb => h.lt_size_of_mem (h.mem_of_nextSibling (mem_of_split hk) hb)⟩

/-- Cutting off a node takes away its parent and no other. -/
theorem isChild_detach_iff (d q : Nat) :
    (t.detach (some c)).IsChild d q ↔ d ≠ c ∧ t.IsChild d q := by
  have hc : t.link (·.parent) c = some p := (h.isChild_iff c p).mpr (mem_of_split hk)
  obtain ⟨ha, hb⟩ := h.neighbours_lt_size hk
  unfold IsChild
  rw [link_parent_detach hc ha hb]
  by_cases hd : d = c <;> simp [hd]

/-- After the gap is closed, the neighbours of every child are again those in the list. -/
private theorem siblings_detach {q : Nat} {us : List Nat} {d : Nat} {vs : List Nat}
    (hq : Function.update kids p (xs ++ ys) q = us ++ d :: vs) :
    (t.detach (some c)).link (·.prevSibling) d = us.getLast? ∧
      (t.detach (some c)).link (·.nextSibling) d = vs.head? := by
  have hc : t.link (·.parent) c = some p := (h.isChild_iff c p).mpr (mem_of_split hk)
  obtain ⟨ha, hb⟩ := h.neighbours_lt_size hk
  obtain ⟨hprev, hnext⟩ := h.siblings hk
  -- the links on both sides of the gap, in terms of the list
  rw [link_prevSibling_detach hc ha hb, link_nextSibling_detach hc ha hb, hprev, hnext]
  by_cases hqp : q = p
  · subst hqp
    rw [Function.update_self] at hq
    rcases append_eq_append_cons hq with ⟨zs, rfl, rfl⟩ | ⟨zs, rfl, rfl⟩
    · -- `d` stands in front of the gap
      have hsplit : kids q = us ++ d :: (zs ++ c :: ys) := by simp [hk]
      have hd := h.siblings hsplit
      obtain ⟨-, hmem⟩ := h.not_mem_of_split hsplit
      simp only [List.mem_append, List.mem_cons, not_or] at hmem
      have hys : ys.head? ≠ some d := fun he => hmem.2.2 (List.mem_of_head? he)
      simp only [hmem.2.1, hys, if_false]
      refine ⟨hd.1, ?_⟩
      -- the neighbour behind `d` is new only where nothing stood between `d` and the gap
      cases zs with
      | nil => simp
      | cons z zs =>
        have hlast : (us ++ d :: z :: zs).getLast? ≠ some d := by
          intro he
          rw [List.getLast?_append, List.getLast?_cons_cons, Option.or_of_isSome (by simp)] at he
          exact hmem.1 (List.mem_of_getLast? he)
        rw [if_neg hlast]
        exact hd.2
    · -- `d` stands behind the gap
      have hsplit : kids q = (xs ++ c :: zs) ++ d :: vs := by simp [hk]
      have hd := h.siblings hsplit
      obtain ⟨hmem, -⟩ := h.not_mem_of_split hsplit
      simp only [List.mem_append, List.mem_cons, not_or] at hmem
      have hxs : xs.getLast? ≠ some d := fun he => hmem.1 (List.mem_of_getLast? he)
      simp only [hmem.2.1, hxs, if_false]
      refine ⟨?_, hd.2⟩
      -- and the one in front likewise
      cases zs with
      | nil => simp
      | cons z zs =>
        have hhead : z ≠ d := fun he => hmem.2.2 (he ▸ List.mem_cons_self)
        simp only [List.cons_append, List.head?_cons, Option.some.injEq, hhead, if_false]
        rw [hd.1]
        simp
  · -- the list of another parent holds neither `c` nor a neighbour of it
    rw [Function.update_of_ne hqp] at hq
    have hdp : d ∉ kids p := fun hm => hqp (h.eq_of_mem (mem_of_split hq) hm)
    have hxs : xs.getLast? ≠ some d := fun he =>
      hdp (hk ▸ List.mem_append_left _ (List.mem_of_getLast? he))
    have hys : ys.head? ≠ some d := fun he =>
      hdp (hk ▸ List.mem_append_right _ (List.mem_cons_of_mem _ (List.mem_of_head? he)))
    have hdc : d ≠ c := fun he => hdp (he ▸ mem_of_split hk)
    simp only [hdc, hxs, hys, if_false]
    exact h.siblings hq

/-- Cutting off a child takes it out of the list of its parent. -/
theorem detach : (t.detach (some c)).Arranged (Function.update kids p (xs ++ ys)) := by
  have hmem := mem_of_split hk
  have hchild : t.IsChild c p := (h.isChild_iff c p).mpr hmem
  have hp := h.lt_size_of_isChild hchild
  obtain ⟨ha, hb⟩ := h.neighbours_lt_size hk
  obtain ⟨hcx, hcy⟩ := h.not_mem_of_split hk
  obtain ⟨hprev, hnext⟩ := h.siblings hk
  -- one goal for each field of the invariant, in its order
  refine
    { firstChild := fun q => ?_, lastChild := fun q => ?_, isChild_iff := fun d q => ?_
      siblings := h.siblings_detach hk, alone := fun {d} hd => ?_, nodup := fun q => ?_
      mayHaveChildren := fun {q} hq => ?_, acyclic := fun i hi => ?_
      root_data := (data?_detach ..).trans h.root_data, root_parent := ?_ }
  · -- the first child of `p` changes if nothing stood in front of `c`
    rw [link_firstChild_detach hchild ha hb hp, hprev, hnext, h.firstChild q]
    by_cases hq : q = p
    · subst hq
      cases xs <;> simp_all
    · simp [hq]
  · -- the last child of `p` changes if nothing stood behind `c`
    rw [link_lastChild_detach hchild ha hb hp, hprev, hnext, h.lastChild q]
    by_cases hq : q = p
    · subst hq
      cases ys <;> simp_all
    · simp [hq]
  · -- the children of `p` are those in the list but `c`, which stands there once
    rw [h.isChild_detach_iff hk, h.isChild_iff]
    by_cases hq : q = p
    · subst hq
      rw [Function.update_self, hk]
      grind
    · rw [Function.update_of_ne hq]
      exact ⟨And.right, fun hd => ⟨fun he => hq (h.eq_of_mem hd (he ▸ hmem)), hd⟩⟩
  · -- a node without a parent is `c` itself, or it had no neighbours
    rw [link_prevSibling_detach hchild ha hb, link_nextSibling_detach hchild ha hb]
    rw [link_parent_detach hchild ha hb] at hd
    by_cases hdc : d = c
    · simp [hdc]
    · -- a neighbour of `c` has a parent, so `d` is none of them
      rw [if_neg hdc] at hd
      have hdp := h.not_mem_of_parent_eq_none hd p
      have hx : t.link (·.prevSibling) c ≠ some d := fun he => hdp (h.mem_of_prevSibling hmem he)
      have hy : t.link (·.nextSibling) c ≠ some d := fun he => hdp (h.mem_of_nextSibling hmem he)
      simp only [hdc, hx, hy, if_false]
      exact h.alone hd
  · -- no list gains a child
    by_cases hq : q = p
    · subst hq
      rw [Function.update_self]
      exact (hk ▸ h.nodup q).sublist ((List.sublist_cons_self c ys).append_left xs)
    · rw [Function.update_of_ne hq]
      exact h.nodup q
  · -- a node with children had children before
    rw [mayHaveChildren_eq_of_data? (data?_detach ..)]
    by_cases hqp : q = p
    · exact h.mayHaveChildren (hqp ▸ List.ne_nil_of_mem hmem)
    · rw [Function.update_of_ne hqp] at hq
      exact h.mayHaveChildren hq
  · -- a circle would have been there before
    exact h.acyclic i
      (Relation.TransGen.mono (fun d q hd => ((h.isChild_detach_iff hk d q).mp hd).2) i i hi)
  · -- the document had no parent to lose
    rw [link_parent_detach hchild ha hb, h.root_parent, ite_self]

end Detach

/-! ### Hanging up -/

section LinkLast

variable {p c : Nat} (h : t.Arranged kids) (hc : c < t.size) (hcp : t.link (·.parent) c = none)

include h hc hcp

/-- After a node was hung up, the neighbours of every child are again those in the list. -/
private theorem siblings_linkLast {q : Nat} {us : List Nat} {d : Nat} {vs : List Nat}
    (hq : Function.update kids p (kids p ++ [c]) q = us ++ d :: vs) :
    (t.linkLast (some p) (some c)).link (·.prevSibling) d = us.getLast? ∧
      (t.linkLast (some p) (some c)).link (·.nextSibling) d = vs.head? := by
  have hmem := h.not_mem_of_parent_eq_none hcp
  -- only `c` and the old last child of `p` get new neighbours
  rw [link_prevSibling_linkLast hc, link_nextSibling_linkLast fun _ => h.lt_size_of_lastChild,
    h.lastChild p]
  by_cases hqp : q = p
  · subst hqp
    rw [Function.update_self] at hq
    rcases append_eq_append_cons hq with ⟨zs, hk, rfl⟩ | ⟨zs, rfl, hvs⟩
    · -- `d` was a child before
      have hd := h.siblings hk
      have hdc : d ≠ c := fun he => hmem q (he ▸ mem_of_split hk)
      rw [if_neg hdc, if_neg hdc]
      refine ⟨hd.1, ?_⟩
      -- `c` is the new neighbour of the last child only
      cases zs with
      | nil => simp [hk]
      | cons z zs =>
        have hlast : (kids q).getLast? ≠ some d := by
          intro he
          rw [hk, List.getLast?_append, List.getLast?_cons_cons,
            Option.or_of_isSome (by simp)] at he
          exact (h.not_mem_of_split hk).2 (List.mem_of_getLast? he)
        rw [if_neg hlast]
        exact hd.2
    · -- `d` is the new child
      obtain ⟨rfl, rfl, rfl⟩ : zs = [] ∧ d = c ∧ vs = [] := by
        cases zs <;> simp_all
      have hlast : (kids q).getLast? ≠ some d := fun he => hmem q (List.mem_of_getLast? he)
      simp [hlast]
  · -- the list of another parent holds neither `c` nor the last child of `p`
    rw [Function.update_of_ne hqp] at hq
    have hdq := mem_of_split hq
    have hdc : d ≠ c := fun he => hmem q (he ▸ hdq)
    have hlast : (kids p).getLast? ≠ some d := fun he =>
      hqp (h.eq_of_mem hdq (List.mem_of_getLast? he))
    rw [if_neg hdc, if_neg hlast, if_neg hdc]
    exact h.siblings hq

/-- Hanging up a node puts it at the end of the list of its new parent. -/
theorem linkLast (hp : t.mayHaveChildren p = true) (hc₀ : c ≠ 0) (hpc : ¬ t.Within p c) :
    (t.linkLast (some p) (some c)).Arranged (Function.update kids p (kids p ++ [c])) := by
  have hps : p < t.size := lt_size_of_mayHaveChildren hp
  have hmem := h.not_mem_of_parent_eq_none hcp
  -- one goal for each field of the invariant, in its order
  refine
    { firstChild := fun q => ?_, lastChild := fun q => ?_, isChild_iff := fun d q => ?_
      siblings := h.siblings_linkLast hc hcp, alone := fun {d} hd => ?_, nodup := fun q => ?_
      mayHaveChildren := fun {q} hq => ?_, acyclic := fun i hi => ?_
      root_data := (data?_linkLast ..).trans h.root_data, root_parent := ?_ }
  · -- `c` is the first child of `p` if there was none
    rw [link_firstChild_linkLast hps, h.firstChild, h.lastChild]
    by_cases hq : q = p
    · subst hq
      cases kids q <;> simp
    · simp [hq]
  · -- and the last one in any case
    rw [link_lastChild_linkLast hps, h.lastChild]
    by_cases hq : q = p <;> simp [hq]
  · -- one child more, and it stands at the end of the list
    rw [isChild_linkLast_iff hc hcp, h.isChild_iff]
    by_cases hq : q = p <;> simp [hq]
  · -- a node without a parent is neither `c` nor the last child of `p`
    rw [link_parent_linkLast hc] at hd
    rw [link_prevSibling_linkLast hc, link_nextSibling_linkLast fun _ => h.lt_size_of_lastChild]
    have hdc : d ≠ c := fun he => by simp [he] at hd
    rw [if_neg hdc] at hd
    have hlast : t.link (·.lastChild) p ≠ some d := by
      rw [h.lastChild]
      exact fun he => h.not_mem_of_parent_eq_none hd p (List.mem_of_getLast? he)
    rw [if_neg hdc, if_neg hlast, if_neg hdc]
    exact h.alone hd
  · -- `c` was in no list, so it is not there twice
    by_cases hq : q = p
    · subst hq
      rw [Function.update_self]
      rw [← List.concat_eq_append]
      exact (h.nodup q).concat (hmem q)
    · rw [Function.update_of_ne hq]
      exact h.nodup q
  · -- `p` may have children, and the others had some before
    rw [mayHaveChildren_eq_of_data? (data?_linkLast ..)]
    by_cases hqp : q = p
    · exact hqp ▸ hp
    · rw [Function.update_of_ne hqp] at hq
      exact h.mayHaveChildren hq
  · -- a new circle would lead through `c` and `p`, and `p` would lie within `c`
    rcases below_linkLast hc hcp hpc hi with hi | ⟨hic, hpi⟩
    · exact h.acyclic i hi
    · exact hpc (hpi.trans hic)
  · -- `c` is not the document
    rw [link_parent_linkLast hc, if_neg hc₀.symm]
    exact h.root_parent

end LinkLast

end Arranged

end ClassSheet.Dom.Tree
