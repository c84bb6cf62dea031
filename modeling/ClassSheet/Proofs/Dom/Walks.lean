import ClassSheet.Proofs.Dom.Preorder
import ClassSheet.Proofs.Dom.Reachable

/-! # Walks downwards and upwards

The walks of `ClassSheet.Dom.Tree` are cut short when they have made as many steps as there are
nodes. In a reachable tree none of them gets that far (`Reachable.walksAgree`): the walk downwards
ends when nothing is pending and has visited the nodes of the subtree in document order
(`Tree.Visits`), the walks along the links end where there is no link (`Tree.Walk`), and all of them
tell the same ancestors and descendants. -/

namespace ClassSheet.Dom.Tree

/-! ### The walk downwards -/

/-- The walk over pending subtrees, without a bound: the first one gives its root, and the children
    of the root wait in its place. The walk ends when nothing is pending. -/
inductive Visits (t : Tree) : List Nat → List Nat → Prop
  | done : t.Visits [] []
  | next {i : Nat} {pending nodes : List Nat} : t.Visits (t.children (some i) ++ pending) nodes →
      t.Visits (i :: pending) (i :: nodes)

variable {t : Tree}

/-- The walk leaves no choice. -/
theorem Visits.unique {pending nodes nodes' : List Nat} (h : t.Visits pending nodes)
    (h' : t.Visits pending nodes') : nodes = nodes' := by
  induction h generalizing nodes' with
  | done =>
    cases h'
    rfl
  | next _ ih =>
    cases h' with
    | next h' => rw [ih h']

/-- The walk visits subtrees in document order before it goes on to what is pending. -/
theorem Lists.visits_append {roots nodes : List Nat} (h : t.Lists roots nodes)
    {pending rest : List Nat} (hpending : t.Visits pending rest) :
    t.Visits (roots ++ pending) (nodes ++ rest) := by
  induction h generalizing pending rest with
  | nil => exact hpending
  | cons _ _ ihbelow ihrest =>
    rw [List.cons_append, List.cons_append, List.append_assoc]
    exact .next (ihbelow (ihrest hpending))

/-! ### All walks together -/

/-- The walks through a tree end by themselves and agree with each other. -/
structure WalksAgree (t : Tree) : Prop where
  /-- The children of a node are all nodes to which the links from sibling to sibling lead. -/
  children : ∀ a, t.Walk (·.nextSibling) (t.link (·.firstChild) a) (t.children (some a))
  /-- The walk below a node ends when it has visited the descendants. -/
  visits_iff : ∀ a nodes, t.Visits (t.children (some a)) nodes ↔ nodes = t.descendants (some a)
  /-- The descendants are, for one child after the other, the child and what is below it. -/
  lists_iff : ∀ a nodes, t.Lists (t.children (some a)) nodes ↔ nodes = t.descendants (some a)
  nodup : ∀ a, (t.descendants (some a)).Nodup
  not_mem_self : ∀ a, a ∉ t.descendants (some a)
  mem_descendants_iff : ∀ a b, b ∈ t.descendants (some a) ↔ t.Below b a
  /-- The walk upwards from a node ends, too, and visits the nodes that have the node among their
      descendants. -/
  ancestors : ∀ b < t.size, ∃ as, t.Walk (·.parent) (t.parent (some b)) as ∧
    ∀ a, a ∈ as ↔ b ∈ t.descendants (some a)
  isConnected_iff : ∀ r, t.isConnected r = true ↔
    ∃ b, r = some b ∧ (b = 0 ∨ b ∈ t.descendants root)

namespace Arranged

variable {kids : Nat → List Nat} (h : t.Arranged kids)
include h

/-- The walk with a stack visits the descendants and nothing else. -/
theorem visits_iff (a : Nat) (nodes : List Nat) :
    t.Visits (t.children (some a)) nodes ↔ nodes = t.descendants (some a) := by
  have hvisits := (h.lists_descendants a).visits_append .done
  rw [List.append_nil, List.append_nil] at hvisits
  constructor
  · intro hnodes
    exact hnodes.unique hvisits
  · rintro rfl
    exact hvisits

/-- The recursive walk visits the descendants and nothing else. -/
theorem lists_iff (a : Nat) (nodes : List Nat) :
    t.Lists (t.children (some a)) nodes ↔ nodes = t.descendants (some a) := by
  constructor
  · intro hnodes
    exact hnodes.unique (h.lists_descendants a)
  · rintro rfl
    exact h.lists_descendants a

/-- The walk upwards from a node visits its proper ancestors. -/
theorem exists_ancestors {b : Nat} (hb : b < t.size) :
    ∃ as, t.Walk (·.parent) (t.parent (some b)) as ∧
      ∀ a, a ∈ as ↔ b ∈ t.descendants (some a) := by
  obtain ⟨l, hnodup, hmem, hwalk, -⟩ := h.exists_lineage b hb
  -- the walk from the node itself begins with it
  cases l with
  | nil => cases hwalk
  | cons i as =>
    obtain ⟨hi, -, hwalk⟩ := hwalk
    obtain rfl := Option.some.inj hi
    refine ⟨as, hwalk, fun a => ?_⟩
    have hself := (List.nodup_cons.mp hnodup).1
    have hwithin := hmem a
    rw [List.mem_cons, h.within_iff_mem_descendants] at hwithin
    constructor
    · intro ha
      refine (hwithin.mp (Or.inr ha)).resolve_left ?_
      rintro rfl
      exact hself ha
    · intro ha
      refine (hwithin.mpr (Or.inr ha)).resolve_left ?_
      rintro rfl
      exact h.acyclic a (h.mem_descendants_iff.mp ha)

end Arranged

/-- In a reachable tree all walks end by themselves and agree with each other. -/
theorem Reachable.walksAgree (h : t.Reachable) : t.WalksAgree where
  children a := by
    rw [h.arranged.firstChild a]
    exact h.arranged.walk_nextSibling [] _ rfl
  visits_iff := h.arranged.visits_iff
  lists_iff := h.arranged.lists_iff
  nodup := h.arranged.nodup_descendants
  not_mem_self a ha := h.arranged.acyclic a (h.arranged.mem_descendants_iff.mp ha)
  mem_descendants_iff _ _ := h.arranged.mem_descendants_iff
  ancestors _ hb := h.arranged.exists_ancestors hb
  isConnected_iff r := by
    cases r with
    | none => exact ⟨nofun, fun ⟨_, hb, _⟩ => nomatch hb⟩
    | some b =>
      rw [h.arranged.isConnected_iff, h.arranged.within_iff_mem_descendants]
      simp [root]

/-- A list with one entry, and another entry that was taken out of it. -/
def sampleTakenOut : Tree :=
  ofEdits
    [.createElement "ul", .createElement "li", .createElement "li", .createText "one",
      .createText "two", .appendChild (some 0) (some 1), .appendChild (some 1) (some 2),
      .appendChild (some 1) (some 3), .appendChild (some 2) (some 4),
      .appendChild (some 3) (some 5), .removeChild (some 1) (some 2)]

/-- The entry that was taken out has its text below it still, and neither is connected. -/
theorem walksAgree_sampleTakenOut :
    sampleTakenOut.WalksAgree ∧ sampleTakenOut.descendants root = [1, 3, 5] ∧
      sampleTakenOut.descendants (some 2) = [4] ∧ sampleTakenOut.isConnected (some 4) = false :=
  ⟨Reachable.walksAgree ⟨_, rfl⟩, by decide +kernel, by decide +kernel, by decide +kernel⟩

end ClassSheet.Dom.Tree
