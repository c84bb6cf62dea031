import ClassSheet.Proofs.Dom.Edits
import ClassSheet.Sheet.Basic

/-! # The rules of a sheet

A sheet takes any number of rules (`Sheet.insertAll`), and a rule that it holds changes nothing
(`insert_of_holds`). Writing it out leaves nothing pending (`Sheet.written`) and adds the text of
the pending rules to the end of the `style` element (`Tree.RulesWritten`). -/

namespace ClassSheet

namespace Bucket

/-- A rule that is known changes nothing. -/
theorem insert_of_mem {b : Bucket} {rule : String} (h : rule ∈ b.rules) :
    b.insert rule = (false, b) := by
  rw [insert, contains, if_pos (List.contains_iff_mem.mpr h)]

/-- A rule that changes a bucket makes it longer by one. -/
theorem length_insert (b : Bucket) (rule : String) :
    (b.insert rule).2.length = b.length + (b.insert rule).1.toNat := by
  unfold insert
  split <;> simp [length]

/-- After the rules are marked as written, none waits. -/
@[simp] theorem pending_markFlushed (b : Bucket) : b.markFlushed.pending = [] :=
  List.drop_eq_nil_of_le (Nat.le_refl _)

end Bucket

namespace Sheet

/-! ### Taking rules -/

/-- The sheet with rules put into their buckets, one after the other. -/
def insertAll (s : Sheet) (rules : List Css.Rule) : Sheet :=
  rules.foldl (fun s rule => (s.insert rule).2) s

/-- The first rule is inserted first. -/
theorem insertAll_cons (s : Sheet) (rule : Css.Rule) (rules : List Css.Rule) :
    s.insertAll (rule :: rules) = (s.insert rule).2.insertAll rules := rfl

/-- Rules may be inserted in two goes. -/
theorem insertAll_append (s : Sheet) (xs ys : List Css.Rule) :
    s.insertAll (xs ++ ys) = (s.insertAll xs).insertAll ys := List.foldl_append ..

/-- Whether the text of a rule is in its bucket. -/
def Holds (s : Sheet) (rule : String) : Prop :=
  rule ∈ (if isMediaText rule then s.media else s.plain).rules

/-- The text of a rule that is held changes nothing. -/
theorem insertText_of_holds {s : Sheet} {rule : String} (h : s.Holds rule) :
    s.insertText rule = (false, s) := by
  unfold Holds at h
  unfold insertText
  split at h
  · next hm => rw [if_pos hm, Bucket.insert_of_mem h]
  · next hm => rw [if_neg hm, Bucket.insert_of_mem h]

/-- A rule that the sheet holds changes nothing. -/
theorem insert_of_holds {s : Sheet} {rule : Css.Rule} (h : s.Holds rule.css) :
    s.insert rule = (false, s) := insertText_of_holds h

/-- A sheet then holds the text of the rule, and otherwise what it held. -/
theorem holds_insert {s : Sheet} {rule : Css.Rule} {x : String} :
    (s.insert rule).2.Holds x ↔ s.Holds x ∨ x = rule.css := by
  unfold Holds insert insertText
  -- a rule of the other kind goes to the other bucket, and its text is another one
  by_cases hr : isMediaText rule.css = true <;> by_cases hx : isMediaText x = true
  · simp only [hr, hx, if_true]
    exact Bucket.mem_rules_insert
  · have hne : x ≠ rule.css := fun h => hx (h ▸ hr)
    simp [hr, hx, hne]
  · have hne : x ≠ rule.css := fun h => hr (h ▸ hx)
    simp [hr, hx, hne]
  · simp only [hr, hx]
    exact Bucket.mem_rules_insert

/-- A sheet holds what it held before and the rules that it has taken. -/
theorem holds_insertAll {s : Sheet} {rules : List Css.Rule} {x : String} :
    (s.insertAll rules).Holds x ↔ s.Holds x ∨ ∃ rule ∈ rules, x = rule.css := by
  induction rules generalizing s with
  | nil => simp [insertAll]
  | cons rule rules ih =>
    rw [insertAll_cons, ih, holds_insert]
    simp [or_assoc]

/-- The number of rules in a sheet. -/
def count (s : Sheet) : Nat := s.plain.length + s.media.length

/-- A sheet counts one rule more exactly if the rule is new. -/
theorem count_insert (s : Sheet) (rule : Css.Rule) :
    (s.insert rule).2.count = s.count + (s.insert rule).1.toNat := by
  unfold insert insertText count
  split
  · simp only [Bucket.length_insert]
    omega
  · simp only [Bucket.length_insert]
    omega

/-- Rules that the sheet holds change nothing. -/
theorem insertAll_of_holds {s : Sheet} {rules : List Css.Rule}
    (h : ∀ rule ∈ rules, s.Holds rule.css) : s.insertAll rules = s := by
  induction rules with
  | nil => rfl
  | cons rule rules ih =>
    have hrule := insert_of_holds (h rule List.mem_cons_self)
    rw [insertAll_cons, hrule]
    exact ih fun r hr => h r (List.mem_cons_of_mem _ hr)

/-- Inserting a rule keeps the `style` element. -/
@[simp] theorem styleElement_insert (s : Sheet) (rule : Css.Rule) :
    (s.insert rule).2.styleElement = s.styleElement := by
  unfold insert insertText
  split <;> rfl

/-- Inserting several rules keeps the `style` element. -/
@[simp] theorem styleElement_insertAll (s : Sheet) (rules : List Css.Rule) :
    (s.insertAll rules).styleElement = s.styleElement := by
  induction rules generalizing s with
  | nil => rfl
  | cons rule rules ih => rw [insertAll_cons, ih, styleElement_insert]

/-! ### Writing -/

/-- The sheet with every rule counted as written. -/
def written (s : Sheet) : Sheet :=
  { s with plain := s.plain.markFlushed, media := s.media.markFlushed }

/-- After everything is written, nothing waits. -/
@[simp] theorem pending_written (s : Sheet) : s.written.pending = [] := by
  simp [pending, written]

/-- Writing rules out does not change how many there are. -/
@[simp] theorem count_written (s : Sheet) : s.written.count = s.count := rfl

/-- What is held stays so. -/
theorem holds_written {s : Sheet} {x : String} : s.written.Holds x ↔ s.Holds x := by
  unfold Holds written
  split <;> rfl

end Sheet

/-- The tree `t'` is `t` with the rules `pending` written to the end of the `style` element; without
    such rules it is `t`. -/
def Dom.Tree.RulesWritten (t : Dom.Tree) (style : Dom.NodeRef) (pending : List String)
    (t' : Dom.Tree) : Prop :=
  pending = [] ∧ t' = t ∨
    pending ≠ [] ∧ ∃ i, style = some i ∧ t.TextAdded i (String.join pending) t'

namespace Dom.Tree.RulesWritten

variable {t t' : Dom.Tree} {style : Dom.NodeRef} {pending : List String}

/-- Written rules are no element and replace none. -/
theorem element?_eq (h : t.RulesWritten style pending t') (i : Nat) :
    t'.element? (some i) = t.element? (some i) := by
  rcases h with ⟨-, heq⟩ | ⟨-, j, -, hadded⟩
  · rw [heq]
  · exact hadded.element?_eq i

/-- Written rules leave the old nodes where they are. -/
theorem link_parent (h : t.RulesWritten style pending t') {i : Nat} (hi : i < t.size) :
    t'.link (·.parent) i = t.link (·.parent) i := by
  rcases h with ⟨-, heq⟩ | ⟨-, j, -, hadded⟩
  · rw [heq]
  · exact hadded.link_parent hi

end Dom.Tree.RulesWritten

/-- Writing out asks for the `style` element only if there are pending rules. -/
theorem Sheet.flush_eq_ok {s s' : Sheet} {d d' : Dom.Document} {count : Nat}
    (h : s.flush d = .ok (count, s', d')) :
    s' = s.written ∧ ∃ t, d' = { d with tree := t } ∧
      (s.pending = [] ∧ t = d.tree ∨
        s.pending ≠ [] ∧ d.tree.appendText s.styleElement (String.join s.pending) = .ok t) := by
  unfold flush Dom.Document.appendStyleText at h
  simp only [List.length_eq_zero_iff] at h
  split at h
  · next hnil =>
    obtain ⟨-, rfl, rfl⟩ := by simpa using h
    exact ⟨rfl, d.tree, rfl, Or.inl ⟨hnil, rfl⟩⟩
  · next hne =>
    cases ht : d.tree.appendText s.styleElement (String.join s.pending) with
    | error e => simp [ht, Except.map] at h
    | ok t =>
      simp only [ht, Except.map, Except.ok.injEq, Prod.mk.injEq] at h
      obtain ⟨-, rfl, rfl⟩ := h
      exact ⟨rfl, t, rfl, Or.inr ⟨hne, rfl⟩⟩

/-- What writing out does to a tree whose links are in order. -/
theorem Sheet.rulesWritten_of_flush {s s' : Sheet} {d d' : Dom.Document} {count : Nat}
    {kids : Nat → List Nat} (harranged : d.tree.Arranged kids)
    (h : s.flush d = .ok (count, s', d')) :
    s' = s.written ∧ ∃ t, d' = { d with tree := t } ∧
      d.tree.RulesWritten s.styleElement s.pending t := by
  obtain ⟨hwritten, t, hd', ⟨hnil, ht⟩ | ⟨hne, happend⟩⟩ := flush_eq_ok h
  · exact ⟨hwritten, t, hd', Or.inl ⟨hnil, ht⟩⟩
  · obtain ⟨i, -, hstyle, -, hadded⟩ := harranged.textAdded happend
    exact ⟨hwritten, t, hd', Or.inr ⟨hne, i, hstyle, hadded⟩⟩

end ClassSheet
