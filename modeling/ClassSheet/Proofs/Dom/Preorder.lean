import ClassSheet.Proofs.Dom.Ancestry

/-! # Document order

`Tree.Lists roots nodes` says what document order is: each of the `roots` is followed by the nodes
below it, which are those of its children in turn. In an arranged tree every list of roots has such
an order. For the children of a node it is `Tree.descendants` (`Arranged.lists_descendants`), which
holds the nodes below that node (`Arranged.mem_descendants_iff`), each once
(`Arranged.nodup_descendants`). -/

namespace ClassSheet.Dom.Tree

/-- The nodes of the subtrees with the given roots, in document order. -/
inductive Lists (t : Tree) : List Nat → List Nat → Prop
  | nil : t.Lists [] []
  | cons {i : Nat} {roots below rest : List Nat} : t.Lists (t.children (some i)) below →
      t.Lists roots rest → t.Lists (i :: roots) (i :: (below ++ rest))

namespace Lists

variable {t t' : Tree} {roots nodes : List Nat}

/-- Roots have one document order only. -/
theorem unique (h : t.Lists roots nodes) {nodes' : List Nat} (h' : t.Lists roots nodes') :
    nodes = nodes' := by
  induction h generalizing nodes' with
  | nil =>
    cases h'
    rfl
  | cons _ _ ihbelow ihrest =>
    cases h' with
    | cons hbelow' hrest' => rw [ihbelow hbelow', ihrest hrest']

/-- The order of roots that follow each other is that of the first ones, then that of the others. -/
theorem append (h : t.Lists roots nodes) {roots' nodes' : List Nat}
    (h' : t.Lists roots' nodes') : t.Lists (roots ++ roots') (nodes ++ nodes') := by
  induction h with
  | nil => exact h'
  | cons hbelow _ _ ihrest =>
    rw [List.cons_append, List.cons_append, List.append_assoc]
    exact .cons hbelow ihrest

/-- A node without children is all that there is of it. -/
theorem leaf {i : Nat} (hi : t.children (some i) = []) : t.Lists [i] [i] := by
  have hbelow : t.Lists (t.children (some i)) [] := hi.symm ▸ Lists.nil
  exact .cons hbelow .nil

/-- The order depends on the children of the listed nodes only. -/
theorem congr (h : t.Lists roots nodes)
    (hc : ∀ i ∈ nodes, t'.children (some i) = t.children (some i)) : t'.Lists roots nodes := by
  induction h with
  | nil => exact .nil
  | @cons i roots below rest _ _ ihbelow ihrest =>
    have hi := hc i List.mem_cons_self
    have hbelow := ihbelow fun j hj =>
      hc j (List.mem_cons_of_mem _ (List.mem_append_left _ hj))
    have hrest := ihrest fun j hj => hc j (List.mem_cons_of_mem _ (List.mem_append_right _ hj))
    exact .cons (hi ▸ hbelow) hrest

end Lists

/-- The walk with enough fuel visits subtrees in document order before whatever is pending. -/
theorem Lists.preorder_append {t : Tree} {roots nodes : List Nat} (h : t.Lists roots nodes)
    {fuel : Nat} (hf : nodes.length ≤ fuel) (pending : List Nat) :
    t.preorder fuel (roots ++ pending) = nodes ++ t.preorder (fuel - nodes.length) pending := by
  induction h generalizing fuel pending with
  | nil => rfl
  | @cons i roots below rest _ _ ihbelow ihrest =>
    obtain ⟨fuel, rfl⟩ := Nat.exists_eq_add_of_le' (Nat.le_trans (Nat.le_add_left 1 _) hf)
    rw [List.length_cons, List.length_append] at hf
    -- the fuel that the children leave is enough for the other roots
    have hbelow : below.length ≤ fuel := by omega
    have hrest : rest.length ≤ fuel - below.length := by omega
    have hleft : fuel - below.length - rest.length =
        fuel + 1 - (i :: (below ++ rest)).length := by
      rw [List.length_cons, List.length_append]
      omega
    rw [List.cons_append, preorder, ihbelow hbelow, ihrest hrest, hleft, List.cons_append,
      List.append_assoc]

/-- Of two nodes that a node lies within, one lies within the other. -/
theorem within_total {t : Tree} {b i j : Nat} (hi : t.Within b i) (hj : t.Within b j) :
    t.Within i j ∨ t.Within j i := by
  refine Relation.ReflTransGen.total_of_right_unique (fun c p q hp hq => ?_) hi hj
  exact Option.some.inj (hp.symm.trans hq)

/-- What lies within a node of the tree is one. -/
theorem lt_size_of_within {t : Tree} {b i : Nat} (hi : i < t.size) (hb : t.Within b i) :
    b < t.size := by
  rcases Relation.ReflTransGen.cases_head hb with rfl | ⟨c, hc, -⟩
  · exact hi
  · exact lt_size_of_link hc

namespace Arranged

variable {t : Tree} {kids : Nat → List Nat}

/-! ### What lies within the children -/

/-- A node lies below another if it lies within one of its children. -/
theorem below_iff (h : t.Arranged kids) {b i : Nat} :
    t.Below b i ↔ ∃ c ∈ t.children (some i), t.Within b c := by
  rw [h.children_eq, Below, Relation.TransGen.tail'_iff]
  refine exists_congr fun c => ?_
  rw [and_comm, h.isChild_iff]
  exact Iff.rfl

/-- A node lies within another if it is that node or lies within one of its children. -/
theorem within_iff (h : t.Arranged kids) {b i : Nat} :
    t.Within b i ↔ b = i ∨ ∃ c ∈ t.children (some i), t.Within b c := by
  rw [← h.below_iff, Within, Relation.reflTransGen_iff_eq_or_transGen]
  exact or_congr_left eq_comm

/-- Nothing lies within two children of a node. -/
theorem pairwise_children (h : t.Arranged kids) (p : Nat) :
    (t.children (some p)).Pairwise fun c d => ∀ b, t.Within b c → ¬ t.Within b d := by
  -- a child that lies below another one has the parent below itself
  have key {x y : Nat} (hx : t.IsChild x p) (hy : t.IsChild y p) (hxy : t.Within x y) : x = y := by
    rcases Relation.ReflTransGen.cases_head hxy with rfl | ⟨q, hq, hqy⟩
    · rfl
    · obtain rfl : p = q := Option.some.inj (hx.symm.trans hq)
      exact absurd (Relation.TransGen.tail' hqy hy) (h.acyclic p)
  rw [h.children_eq]
  refine (h.nodup p).imp_of_mem fun {c d} hc hd hne b hbc hbd => hne ?_
  rw [← h.isChild_iff] at hc hd
  rcases within_total hbc hbd with hcd | hdc
  · exact key hc hd hcd
  · exact (key hd hc hdc).symm

/-! ### Document order -/

/-- Document order lists what lies within the roots. -/
theorem mem_lists (h : t.Arranged kids) {roots nodes : List Nat} (hl : t.Lists roots nodes)
    {b : Nat} : b ∈ nodes ↔ ∃ i ∈ roots, t.Within b i := by
  induction hl with
  | nil => simp
  | cons _ _ ihbelow ihrest =>
    rw [List.mem_cons, List.mem_append, ihbelow, ihrest, ← or_assoc, ← h.within_iff,
      List.exists_mem_cons_iff]

/-- Roots that share nothing have an order without repetition. -/
theorem nodup_lists (h : t.Arranged kids) {roots nodes : List Nat} (hl : t.Lists roots nodes)
    (hroots : roots.Pairwise fun i j => ∀ b, t.Within b i → ¬ t.Within b j) : nodes.Nodup := by
  induction hl with
  | nil => exact List.nodup_nil
  | @cons i roots below rest hbelow hrest ihbelow ihrest =>
    -- three parts that share nothing: `i`, what is below it, and what is within the other roots
    rw [List.pairwise_cons] at hroots
    have hmem (b : Nat) : b ∈ below ↔ t.Below b i := by
      rw [h.mem_lists hbelow, h.below_iff]
    have hdisjoint (b : Nat) (hb : t.Within b i) : b ∉ rest := by
      rw [h.mem_lists hrest]
      intro hroot
      obtain ⟨j, hj, hbj⟩ := hroot
      exact hroots.1 j hj b hb hbj
    rw [List.nodup_cons, List.mem_append, not_or, List.nodup_append']
    refine ⟨⟨?_, hdisjoint i .refl⟩, ihbelow (h.pairwise_children i), ihrest hroots.2, ?_⟩
    · rw [hmem]
      exact h.acyclic i
    · intro b hb
      exact hdisjoint b ((hmem b).mp hb).to_reflTransGen

/-- Every list of roots has a document order. -/
theorem exists_lists (h : t.Arranged kids) (roots : List Nat) : ∃ nodes, t.Lists roots nodes := by
  have forest (roots : List Nat)
      (hroots : ∀ i ∈ roots, ∃ below, t.Lists (t.children (some i)) below) :
      ∃ nodes, t.Lists roots nodes := by
    induction roots with
    | nil => exact ⟨[], .nil⟩
    | cons i roots ih =>
      obtain ⟨below, hbelow⟩ := hroots i List.mem_cons_self
      obtain ⟨rest, hrest⟩ := ih fun j hj => hroots j (List.mem_cons_of_mem _ hj)
      exact ⟨_, .cons hbelow hrest⟩
  -- a node has an order if its children have
  have subtree (i : Nat) : ∃ below, t.Lists (t.children (some i)) below := by
    induction i using h.induction_down with
    | step i ih =>
      rw [h.children_eq]
      exact forest _ ih
  exact forest roots fun i _ => subtree i

/-- The walk below a node visits its children and what is below them in document order, up to the
    end. -/
theorem lists_descendants (h : t.Arranged kids) (i : Nat) :
    t.Lists (t.children (some i)) (t.descendants (some i)) := by
  obtain ⟨nodes, hl⟩ := h.exists_lists (t.children (some i))
  have hlt : ∀ b ∈ nodes, b < t.size := by
    intro b hb
    obtain ⟨c, hc, hbc⟩ := (h.mem_lists hl).mp hb
    rw [h.children_eq] at hc
    exact lt_size_of_within (h.lt_size_of_mem hc) hbc
  -- no node comes twice, so the walk does not run out of fuel
  have hlen := length_le_size (h.nodup_lists hl (h.pairwise_children i)) hlt
  have hwalk := hl.preorder_append hlen []
  have hstop (fuel : Nat) : t.preorder fuel [] = [] := by cases fuel <;> rfl
  rw [List.append_nil, hstop, List.append_nil] at hwalk
  rw [descendants, hwalk]
  exact hl

/-- The walk below a node visits the nodes below it. -/
theorem mem_descendants_iff (h : t.Arranged kids) {b i : Nat} :
    b ∈ t.descendants (some i) ↔ t.Below b i := by
  rw [h.mem_lists (h.lists_descendants i), h.below_iff]

/-- What lies within a node is the node itself and what the walk below it visits. -/
theorem within_iff_mem_descendants (h : t.Arranged kids) {b i : Nat} :
    t.Within b i ↔ b = i ∨ b ∈ t.descendants (some i) := by
  rw [h.within_iff, h.mem_descendants_iff, h.below_iff]

/-- No node is listed twice among the descendants. -/
theorem nodup_descendants (h : t.Arranged kids) (i : Nat) : (t.descendants (some i)).Nodup :=
  h.nodup_lists (h.lists_descendants i) (h.pairwise_children i)

/-- A node is connected if it lies within the document. -/
theorem isConnected_iff (h : t.Arranged kids) {i : Nat} :
    t.isConnected (some i) = true ↔ t.Within i 0 := by
  rw [isConnected, Bool.and_eq_true, get?_isSome_iff]
  constructor
  · rintro ⟨hi, hwalk⟩
    exact (h.isInclusiveAncestor_iff hi 0).mp hwalk
  · intro hw
    have hi := lt_size_of_within h.size_pos hw
    exact ⟨hi, (h.isInclusiveAncestor_iff hi 0).mpr hw⟩

end Arranged

end ClassSheet.Dom.Tree
