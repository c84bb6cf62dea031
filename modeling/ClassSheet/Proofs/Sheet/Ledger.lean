import ClassSheet.Proofs.Dom.AppendedText
import ClassSheet.Proofs.Dom.Elements
import ClassSheet.Proofs.Sheet.Rules

/-! # What a sheet writes

`Session` is a sheet with its document while rules are put in, written out and the document is
edited, and `Ledger` keeps the same books with plain lists: the rules that came, the chunks that
were written, and the rules that wait. A session and the ledger of its calls agree
(`Session.Accounts`), so that every rule is written once and in its order.

## Main results

* `Bucket.Keeps.insert`, `Bucket.Keeps.markFlushed`: the cursor of a bucket stays in line;
* `Session.Accounts.call`: one call keeps a session in agreement with its ledger;
* `Session.run_accounted`: so do any calls, beginning with a new sheet. -/

namespace ClassSheet

/-! ### Buckets as two lists -/

/-- The bucket holds the rules `inserted`, of which `unwritten` have not been written. -/
structure Bucket.Keeps (b : Bucket) (inserted unwritten : List String) : Prop where
  rules : b.rules = inserted
  pending : b.pending = unwritten
  flushed_le : b.flushed ≤ b.rules.length

namespace Bucket.Keeps

variable {b : Bucket} {inserted unwritten : List String}

/-- The empty bucket has no rules, written or waiting. -/
theorem empty : Bucket.empty.Keeps [] [] := ⟨rfl, rfl, Nat.le_refl _⟩

/-- A rule that is new comes behind the rules that wait. -/
theorem insert (h : b.Keeps inserted unwritten) {rule : String} (hnew : rule ∉ inserted) :
    (b.insert rule).1 = true ∧
      (b.insert rule).2.Keeps (inserted ++ [rule]) (unwritten ++ [rule]) := by
  have hcontains : ¬ b.contains rule = true := by
    rw [contains, List.contains_iff_mem, h.rules]
    exact hnew
  rw [Bucket.insert, if_neg hcontains]
  have hpending : (b.rules ++ [rule]).drop b.flushed = unwritten ++ [rule] := by
    rw [List.drop_append_of_le_length h.flushed_le]
    exact congrArg (· ++ [rule]) h.pending
  have hle : b.flushed ≤ (b.rules ++ [rule]).length := by
    have := h.flushed_le
    rw [List.length_append]
    omega
  exact ⟨rfl, ⟨congrArg (· ++ [rule]) h.rules, hpending, hle⟩⟩

/-- Counted as written, nothing waits. -/
theorem markFlushed (h : b.Keeps inserted unwritten) : b.markFlushed.Keeps inserted [] :=
  ⟨h.rules, pending_markFlushed b, Nat.le_refl _⟩

end Bucket.Keeps

namespace Sheet

/-! ### Calls -/

/-- What happens to a sheet and its document. -/
inductive Call where
  /-- A rule is put in. -/
  | insert (rule : String)
  /-- The rules that wait are written to the document. -/
  | flush
  /-- The rules that wait are written to another document. -/
  | flushTo (other : Dom.Document)
  /-- The document is edited by others. -/
  | edit (e : Dom.Edit)

/-- The rules that calls put in. -/
def inserts (calls : List Call) : List String :=
  calls.filterMap fun
    | .insert rule => some rule
    | _ => none

/-- What a call answers. -/
inductive Answer where
  /-- Whether the rule is new. -/
  | inserted (isNew : Bool)
  /-- How many rules were written. -/
  | flushed (count : Nat)
  /-- Why no rule was written. -/
  | refused (e : Dom.Error)
  | edited
deriving DecidableEq

/-- What is answered after writing. -/
def Answer.ofFlush : Except Dom.Error Nat → Answer
  | .ok count => .flushed count
  | .error e => .refused e

/-! ### The ledger -/

/-- The books on a sheet. -/
structure Ledger where
  /-- The rules, in the order in which they first came. -/
  inserted : List String
  /-- What was written, one chunk for each time that writing succeeded. -/
  chunks : List (List String)
  /-- The rules that came since writing succeeded last. -/
  unwritten : List String

namespace Ledger

/-- The ledger of a new sheet. -/
def empty : Ledger := ⟨[], [], []⟩

/-- The chunk that is written next: the rules that wait, those under a media condition last. -/
def chunk (l : Ledger) : List String :=
  (l.unwritten.filter fun rule => !isMediaText rule) ++ l.unwritten.filter isMediaText

/-- The ledger after its next chunk has been written. -/
def close (l : Ledger) : Ledger := { l with chunks := l.chunks ++ [l.chunk], unwritten := [] }

/-- Why nothing can be written to an element that is not there. -/
def refusal (t : Dom.Tree) (style : Dom.NodeRef) : Dom.Error :=
  if (t.get? style).isNone then .notFound style else .notAnElement style

/-- The entry for a rule that is put in. -/
def add (l : Ledger) (rule : String) : Answer × Ledger :=
  if rule ∈ l.inserted then (.inserted false, l)
  else
    (.inserted true,
      { l with inserted := l.inserted ++ [rule], unwritten := l.unwritten ++ [rule] })

/-- The entry for writing to a document that does not have the element: it is asked for only if
    there is something to write. -/
def miss (l : Ledger) (t : Dom.Tree) (style : Dom.NodeRef) : Answer × Ledger :=
  if l.unwritten = [] then (.flushed 0, l.close) else (.refused (refusal t style), l)

/-- The entry for a call, with the answer that it has to give. -/
def record (l : Ledger) (style : Dom.NodeRef) : Call → Answer × Ledger
  | .insert rule => l.add rule
  | .flush => (.flushed l.unwritten.length, l.close)
  | .flushTo other => l.miss other.tree style
  | .edit _ => (.edited, l)

/-- The entries for calls, one after the other. -/
def recordAll (l : Ledger) (style : Dom.NodeRef) : List Call → List Answer × Ledger
  | [] => ([], l)
  | call :: calls =>
    let (answer, l) := l.record style call
    let (answers, l) := l.recordAll style calls
    (answer :: answers, l)

/-- The rules that came are those that were written and those that wait, each once. -/
structure Balanced (l : Ledger) : Prop where
  nodup : l.inserted.Nodup
  perm : (l.chunks.flatten ++ l.unwritten).Perm l.inserted

variable {l : Ledger} {style : Dom.NodeRef}

/-- A ledger without entries is balanced. -/
theorem balanced_empty : empty.Balanced := ⟨List.nodup_nil, .refl _⟩

/-- A chunk has the rules that wait, in another order. -/
theorem perm_chunk (l : Ledger) : l.chunk.Perm l.unwritten := by
  have hsplit := List.filter_append_perm isMediaText l.unwritten
  exact List.perm_append_comm.trans hsplit

/-- Closing a stretch keeps the balance. -/
theorem Balanced.close (h : l.Balanced) : l.close.Balanced := by
  refine ⟨h.nodup, ?_⟩
  have hflatten : l.close.chunks.flatten ++ l.close.unwritten = l.chunks.flatten ++ l.chunk := by
    simp [Ledger.close]
  rw [hflatten]
  exact (l.perm_chunk.append_left l.chunks.flatten).trans h.perm

/-- Putting in a rule, new or known, keeps the balance. -/
theorem Balanced.add (h : l.Balanced) (rule : String) : (l.add rule).2.Balanced := by
  unfold Ledger.add
  split
  · exact h
  · next hnew =>
    have hnodup := h.nodup.concat hnew
    rw [List.concat_eq_append] at hnodup
    have hperm := h.perm.append_right [rule]
    rw [List.append_assoc] at hperm
    exact ⟨hnodup, hperm⟩

/-- Every entry keeps the books balanced. -/
theorem Balanced.record (h : l.Balanced) (call : Call) : (l.record style call).2.Balanced := by
  cases call with
  | insert rule => exact h.add rule
  | flush => exact h.close
  | flushTo other =>
    show (l.miss other.tree style).2.Balanced
    unfold miss
    split
    · exact h.close
    · exact h
  | edit e => exact h

/-- The rule is inserted afterwards, and otherwise those from before. -/
theorem mem_inserted_add {rule x : String} :
    x ∈ (l.add rule).2.inserted ↔ x ∈ l.inserted ∨ x = rule := by
  unfold add
  split
  · next hmem =>
    constructor
    · exact Or.inl
    · rintro (h | rfl)
      · exact h
      · exact hmem
  · simp

/-- Only a rule that is put in comes to those in the books. -/
theorem mem_inserted_record {rule : String} {call : Call} :
    rule ∈ (l.record style call).2.inserted ↔ rule ∈ l.inserted ∨ rule ∈ inserts [call] := by
  cases call with
  | insert rule' => simpa [record, inserts] using mem_inserted_add
  | flush => simp [record, close, inserts]
  | flushTo other =>
    have hsame : (l.miss other.tree style).2.inserted = l.inserted := by
      unfold miss
      split <;> rfl
    simp [record, hsame, inserts]
  | edit e => simp [record, inserts]

/-- Whatever is called, the books stay balanced, and they list the rules that were put in. -/
theorem Balanced.recordAll (h : l.Balanced) (calls : List Call) :
    (l.recordAll style calls).2.Balanced ∧
      ∀ rule, rule ∈ (l.recordAll style calls).2.inserted ↔
        rule ∈ l.inserted ∨ rule ∈ inserts calls := by
  induction calls generalizing l with
  | nil => exact ⟨h, fun rule => by simp [Ledger.recordAll, inserts]⟩
  | cons call calls ih =>
    obtain ⟨hbalanced, hmem⟩ := ih (h.record call)
    refine ⟨hbalanced, fun rule => ?_⟩
    have hinserts : rule ∈ inserts (call :: calls) ↔
        rule ∈ inserts [call] ∨ rule ∈ inserts calls := by
      rw [inserts, ← List.singleton_append, List.filterMap_append, List.mem_append]
      rfl
    have hrecord : rule ∈ (l.record style call).2.inserted ↔ _ := mem_inserted_record
    rw [hinserts, ← or_assoc, ← hrecord]
    exact hmem rule

/-- In balanced books, a rule has been written once or waits once if it came, and otherwise
    neither. -/
theorem Balanced.count_add_count (h : l.Balanced) (rule : String) :
    l.chunks.flatten.count rule + l.unwritten.count rule = if rule ∈ l.inserted then 1 else 0 := by
  rw [← List.count_append, h.perm.count_eq, h.nodup.count]

end Ledger

/-! ### Writing to a document -/

/-- Where nothing waits, flushing writes nothing. -/
theorem flush_of_pending_eq_nil {s : Sheet} (h : s.pending = []) (d : Dom.Document) :
    s.flush d = .ok (0, s.written, d) := by
  have hcount : s.pending.length = 0 := List.length_eq_zero_iff.mpr h
  rw [flush, if_pos hcount, hcount]
  rfl

/-- Where something waits, flushing appends it to the `style` element, and counts it as written if
    that succeeds. -/
theorem flush_of_pending_ne_nil {s : Sheet} (h : s.pending ≠ []) (d : Dom.Document) :
    s.flush d = (d.appendStyleText s.styleElement (String.join s.pending)).map fun d =>
      (s.pending.length, s.written, d) := by
  rw [flush, if_neg (mt List.length_eq_zero_iff.mp h)]
  rfl

/-- As long as the `style` element is there, the rules that wait can be written to it, and its text
    grows by them. -/
theorem exists_flush {s : Sheet} {d : Dom.Document} {kids : Nat → List Nat}
    (h : d.tree.Arranged kids) (hstyle : d.tree.isElement s.styleElement = true) :
    ∃ t, s.flush d = .ok (s.pending.length, s.written, { d with tree := t }) ∧
      t.textContent s.styleElement =
        d.tree.textContent s.styleElement ++ String.join s.pending ∧
      (t = d.tree ∨ d.tree.appendText s.styleElement (String.join s.pending) = .ok t) := by
  by_cases hnil : s.pending = []
  · refine ⟨d.tree, ?_, ?_, Or.inl rfl⟩
    · rw [flush_of_pending_eq_nil hnil, hnil]
      rfl
    · simp [hnil]
  · obtain ⟨e, he⟩ := Option.isSome_iff_exists.mp hstyle
    obtain ⟨t, ht⟩ := h.exists_appendText he (String.join s.pending)
    refine ⟨t, ?_, h.textContent_appendText ht, Or.inr ht⟩
    rw [flush_of_pending_ne_nil hnil, Dom.Document.appendStyleText, ht]
    rfl

/-- An element that is not there is refused. -/
theorem requireElement_eq_refusal {t : Dom.Tree} {style : Dom.NodeRef}
    (hnone : t.element? style = none) :
    t.requireElement style = .error (Ledger.refusal t style) := by
  unfold Dom.Tree.requireElement Ledger.refusal
  rw [Dom.Tree.element?] at hnone
  cases hget : t.get? style with
  | none => rfl
  | some n =>
    rw [hget, Option.bind_some] at hnone
    simp [hnone]

/-- Nothing is written to a document that does not have the element. -/
theorem flush_eq_refusal {s : Sheet} {d : Dom.Document} (hnil : s.pending ≠ [])
    (hnone : d.tree.element? s.styleElement = none) :
    s.flush d = .error (Ledger.refusal d.tree s.styleElement) := by
  rw [flush_of_pending_ne_nil hnil, Dom.Document.appendStyleText, Dom.Tree.appendText,
    requireElement_eq_refusal hnone]
  rfl

/-! ### Sessions -/

namespace Session

/-- Work that leaves the tree as it was after an error leaves the whole session so. -/
theorem run_onTree {α : Type} {s : Session} {x : Dom.InPlace α}
    {y : Except Dom.Error (α × Dom.Tree)}
    (h : x.run s.document.tree = Work.kept s.document.tree y) :
    (onTree x).run s = Work.kept s (y.map fun result =>
      (result.1, { s with document := { s.document with tree := result.2 } })) := by
  rw [onTree, Work.run_onPart (fun s : Session => s.document.tree) _ id rfl h]
  cases y <;> rfl

/-- Marking the rules as written changes the sheet only. -/
theorem run_markFlushed (s : Session) :
    markFlushed.run s = (.ok (), { s with sheet := s.sheet.written }) := rfl

/-- If adding text in place leaves the tree as it was after an error, writing in place leaves the
    sheet and the document as they were, and otherwise it comes to what `Sheet.flush` says. -/
theorem run_flush {s : Session}
    (hadd : (Dom.InPlace.appendText s.sheet.styleElement (String.join s.sheet.pending)).run
        s.document.tree =
      Work.kept s.document.tree ((s.document.tree.appendText s.sheet.styleElement
        (String.join s.sheet.pending)).map fun t => ((), t))) :
    flush.run s = Work.kept s ((s.sheet.flush s.document).map fun result =>
      (result.1, ⟨result.2.1, result.2.2⟩)) := by
  unfold flush
  rw [Work.run_bind_ok (Work.run_get s)]
  dsimp only
  by_cases hnil : s.sheet.pending = []
  · -- the element is not asked for
    have hcount : ¬ 0 < s.sheet.pending.length := by simp [hnil]
    rw [if_neg hcount, Work.run_bind_ok (run_markFlushed s), flush_of_pending_eq_nil hnil, hnil]
    rfl
  · have hcount : 0 < s.sheet.pending.length := List.length_pos_iff.mpr hnil
    have htree := run_onTree hadd
    rw [if_pos hcount, flush_of_pending_ne_nil hnil, Dom.Document.appendStyleText]
    cases ht : s.document.tree.appendText s.sheet.styleElement (String.join s.sheet.pending) with
    | error e =>
      rw [ht] at htree
      rw [Work.run_bind_error htree]
      rfl
    | ok t =>
      rw [ht] at htree
      rw [Work.run_bind_ok htree]
      rfl

/-- Writing in place to a document whose links are in order. -/
theorem run_flush_of_arranged {s : Session} {kids : Nat → List Nat}
    (h : s.document.tree.Arranged kids) :
    flush.run s = Work.kept s ((s.sheet.flush s.document).map fun result =>
      (result.1, ⟨result.2.1, result.2.2⟩)) :=
  run_flush (h.run_appendText _ _)

/-- Writing in place to a document that does not have the `style` element. -/
theorem run_flush_of_missing {s : Session}
    (hnone : s.document.tree.element? s.sheet.styleElement = none) :
    flush.run s = Work.kept s ((s.sheet.flush s.document).map fun result =>
      (result.1, ⟨result.2.1, result.2.2⟩)) := by
  have hrequire := requireElement_eq_refusal hnone
  refine run_flush ?_
  rw [Dom.Tree.run_appendText_of_error hrequire, Dom.Tree.appendText, hrequire]
  rfl

/-- The session after a call, and the answer. -/
def call (s : Session) : Call → Answer × Session
  | .insert rule =>
    let (isNew, sheet) := s.sheet.insertText rule
    (.inserted isNew, { s with sheet })
  | .flush =>
    let (result, s) := flush.run s
    (.ofFlush result, s)
  | .flushTo other =>
    let (result, written) := flush.run { s with document := other }
    (.ofFlush result, { s with sheet := written.sheet })
  | .edit e => (.edited, { s with document := { s.document with tree := e.apply s.document.tree } })

/-- The session after calls, one after the other, and the answers. -/
def run (s : Session) : List Call → List Answer × Session
  | [] => ([], s)
  | call :: calls =>
    let (answer, s) := s.call call
    let (answers, s) := s.run calls
    (answer :: answers, s)

/-- Others leave the text of the `style` element alone, and no other document has that element. -/
def Admits (s : Session) : Call → Prop
  | .insert _ | .flush => True
  | .flushTo other => other.tree.element? s.sheet.styleElement = none
  | .edit e => (e.apply s.document.tree).textContent s.sheet.styleElement =
      s.document.tree.textContent s.sheet.styleElement

/-- The session admits calls, one after the other. -/
def AdmitsAll (s : Session) : List Call → Prop
  | [] => True
  | call :: calls => s.Admits call ∧ (s.call call).2.AdmitsAll calls

instance (s : Session) (call : Call) : Decidable (s.Admits call) :=
  match call with
  | .insert _ | .flush => inferInstanceAs (Decidable True)
  | .flushTo other =>
    inferInstanceAs (Decidable (other.tree.element? s.sheet.styleElement = none))
  | .edit e => inferInstanceAs (Decidable ((e.apply s.document.tree).textContent _ = _))

instance decidableAdmitsAll (s : Session) : (calls : List Call) → Decidable (s.AdmitsAll calls)
  | [] => inferInstanceAs (Decidable True)
  | call :: calls =>
    have := decidableAdmitsAll (s.call call).2 calls
    inferInstanceAs (Decidable (_ ∧ _))

/-- The session is as a ledger says: the buckets hold what came and what waits, and the `style`
    element, whose text was `text` at first, has all chunks behind it. -/
structure Accounts (s : Session) (style : Dom.NodeRef) (text : String) (l : Ledger) : Prop where
  reachable : s.document.tree.Reachable
  styleElement : s.sheet.styleElement = style
  isElement : s.document.tree.isElement style = true
  plain : s.sheet.plain.Keeps (l.inserted.filter fun rule => !isMediaText rule)
    (l.unwritten.filter fun rule => !isMediaText rule)
  media : s.sheet.media.Keeps (l.inserted.filter isMediaText) (l.unwritten.filter isMediaText)
  textContent : s.document.tree.textContent style = text ++ String.join l.chunks.flatten

namespace Accounts

variable {s : Session} {style : Dom.NodeRef} {text : String} {l : Ledger}

/-- What waits is the chunk of the ledger. -/
theorem pending (h : s.Accounts style text l) : s.sheet.pending = l.chunk := by
  rw [Sheet.pending, h.plain.pending, h.media.pending]
  rfl

/-- Nothing waits exactly if the ledger has nothing unwritten. -/
theorem pending_eq_nil_iff (h : s.Accounts style text l) :
    s.sheet.pending = [] ↔ l.unwritten = [] := by
  rw [h.pending]
  constructor
  · intro hnil
    exact (hnil ▸ l.perm_chunk).nil_eq.symm
  · intro hnil
    rw [Ledger.chunk, hnil]
    rfl

/-- A rule goes to the bucket of its kind, and it is new exactly if the ledger does not have it. -/
theorem insert (h : s.Accounts style text l) (rule : String) :
    (s.call (.insert rule)).1 = (l.add rule).1 ∧
      (s.call (.insert rule)).2.Accounts style text (l.add rule).2 := by
  by_cases hmem : rule ∈ l.inserted
  · -- the bucket has the rule already
    have hholds : s.sheet.insertText rule = (false, s.sheet) := by
      apply insertText_of_holds
      unfold Sheet.Holds
      split
      · next hm => simp [h.media.rules, hmem, hm]
      · next hm => simp [h.plain.rules, hmem, hm]
    have hadd : l.add rule = (.inserted false, l) := if_pos hmem
    rw [hadd]
    simp only [call, hholds]
    exact ⟨trivial, h⟩
  · have hadd : l.add rule = (.inserted true,
        { l with inserted := l.inserted ++ [rule], unwritten := l.unwritten ++ [rule] }) :=
      if_neg hmem
    rw [hadd]
    by_cases hm : isMediaText rule = true
    · -- the `@media` bucket takes the rule, and the other is left as it is
      obtain ⟨hnew, hkeeps⟩ : (s.sheet.media.insert rule).1 = true ∧ _ :=
        h.media.insert (by simp [hmem])
      have hinsert : s.sheet.insertText rule =
          (true, { s.sheet with media := (s.sheet.media.insert rule).2 }) := by
        rw [insertText, if_pos hm, ← hnew]
      simp only [call, hinsert]
      exact ⟨trivial, h.reachable, h.styleElement, h.isElement, by simpa [hm] using h.plain,
        by simpa [hm] using hkeeps, h.textContent⟩
    · -- the other way round
      obtain ⟨hnew, hkeeps⟩ : (s.sheet.plain.insert rule).1 = true ∧ _ :=
        h.plain.insert (by simp [hmem])
      have hinsert : s.sheet.insertText rule =
          (true, { s.sheet with plain := (s.sheet.plain.insert rule).2 }) := by
        rw [insertText, if_neg hm, ← hnew]
      simp only [call, hinsert]
      exact ⟨trivial, h.reachable, h.styleElement, h.isElement, by simpa [hm] using hkeeps,
        by simpa [hm] using h.media, h.textContent⟩

/-- The next chunk goes behind the text of the `style` element. -/
theorem flush (h : s.Accounts style text l) :
    (s.call .flush).1 = .flushed l.unwritten.length ∧
      (s.call .flush).2.Accounts style text l.close := by
  have hstyle := h.isElement
  rw [← h.styleElement] at hstyle
  obtain ⟨t, hflush, htext, ht⟩ := exists_flush h.reachable.arranged hstyle
  rw [h.styleElement, h.pending] at htext ht
  have hrun : Session.flush.run s = (.ok s.sheet.pending.length,
      { sheet := s.sheet.written, document := { s.document with tree := t } }) := by
    rw [run_flush_of_arranged h.reachable.arranged, hflush]
    rfl
  simp only [call, hrun, Answer.ofFlush]
  refine ⟨?_, ?_, h.styleElement, ?_, h.plain.markFlushed, h.media.markFlushed, ?_⟩
  · rw [h.pending, l.perm_chunk.length_eq]
  · -- adding the text is one more edit
    rcases ht with rfl | ht
    · exact h.reachable
    · exact h.reachable.appendText ht
  · rcases ht with rfl | ht
    · exact h.isElement
    · exact (Dom.Tree.Edited.textAdded ht).isElement h.isElement
  · show t.textContent style = text ++ String.join (l.chunks ++ [l.chunk]).flatten
    rw [htext, h.textContent, List.flatten_append, String.append_assoc, String.join_append]
    simp

/-- Rules that wait cannot be written to a document that does not have the `style` element. The
    sheet and that document stay as they were. -/
theorem run_flush_eq_refusal (h : s.Accounts style text l) {other : Dom.Document}
    (hnone : other.tree.element? style = none) (hwait : l.unwritten ≠ []) :
    Session.flush.run { s with document := other } =
      (.error (Ledger.refusal other.tree style), { s with document := other }) := by
  have hpending := mt h.pending_eq_nil_iff.mp hwait
  rw [← h.styleElement] at hnone ⊢
  rw [run_flush_of_missing hnone, flush_eq_refusal hpending hnone]
  rfl

/-- Nothing is lost on a document that does not have the `style` element. -/
theorem flushTo (h : s.Accounts style text l) {other : Dom.Document}
    (hnone : other.tree.element? style = none) :
    (s.call (.flushTo other)).1 = (l.miss other.tree style).1 ∧
      (s.call (.flushTo other)).2.Accounts style text (l.miss other.tree style).2 := by
  by_cases hnil : l.unwritten = []
  · have hpending := h.pending_eq_nil_iff.mpr hnil
    have hmiss : l.miss other.tree style = (.flushed 0, l.close) := if_pos hnil
    have hrun : Session.flush.run { s with document := other } =
        (.ok 0, { sheet := s.sheet.written, document := other }) := by
      rw [← h.styleElement] at hnone
      rw [run_flush_of_missing hnone, flush_of_pending_eq_nil hpending]
      rfl
    rw [hmiss]
    simp only [call, hrun, Answer.ofFlush]
    refine ⟨trivial, h.reachable, h.styleElement, h.isElement, h.plain.markFlushed,
      h.media.markFlushed, ?_⟩
    -- the chunk that was written is empty
    have hchunk : l.chunk = [] := h.pending ▸ hpending
    rw [h.textContent, Ledger.close, hchunk, List.flatten_append]
    simp
  · have hmiss : l.miss other.tree style = (.refused (Ledger.refusal other.tree style), l) :=
      if_neg hnil
    rw [hmiss]
    simp only [call, h.run_flush_eq_refusal hnone hnil, Answer.ofFlush]
    exact ⟨trivial, h⟩

/-- One call, and its entry. -/
theorem call (h : s.Accounts style text l) {call : Call} (hadmits : s.Admits call) :
    (s.call call).1 = (l.record style call).1 ∧
      (s.call call).2.Accounts style text (l.record style call).2 := by
  cases call with
  | insert rule => exact h.insert rule
  | flush => exact h.flush
  | flushTo other =>
    rw [Admits, h.styleElement] at hadmits
    exact h.flushTo hadmits
  | edit e =>
    rw [Admits, h.styleElement] at hadmits
    exact ⟨rfl, h.reachable.apply e, h.styleElement,
      (Dom.Tree.edited_apply _ e).isElement h.isElement, h.plain, h.media,
      hadmits.trans h.textContent⟩

/-- Any calls, and their entries. -/
theorem run (h : s.Accounts style text l) {calls : List Call} (hadmits : s.AdmitsAll calls) :
    (s.run calls).1 = (l.recordAll style calls).1 ∧
      (s.run calls).2.Accounts style text (l.recordAll style calls).2 := by
  induction calls generalizing s l with
  | nil => exact ⟨rfl, h⟩
  | cons call calls ih =>
    obtain ⟨hcall, hcalls⟩ := hadmits
    obtain ⟨hanswer, haccounts⟩ := h.call hcall
    obtain ⟨hanswers, haccounts'⟩ := ih haccounts hcalls
    refine ⟨?_, haccounts'⟩
    simp only [Session.run, Ledger.recordAll, hanswer, hanswers]

end Accounts

/-- A new sheet has nothing to account for but the text that its element has already. -/
theorem accounts_new {d₀ d : Dom.Document} {styleId : String} {sheet : Sheet}
    (hreach : d₀.tree.Reachable) (hnew : Sheet.new d₀ styleId = (.ok sheet, d)) :
    (Session.mk sheet d).Accounts sheet.styleElement
      (d.tree.textContent sheet.styleElement) .empty := by
  cases hensure : d₀.ensureStyle styleId with
  | mk style d' =>
    rw [Sheet.new, hensure] at hnew
    obtain ⟨hmap, rfl⟩ := Prod.mk.inj hnew
    cases style with
    | error e => exact nomatch hmap
    | ok style =>
      obtain rfl := Except.ok.inj hmap
      obtain ⟨hreach', helement⟩ := Dom.Document.isElement_ensureStyle hreach hensure
      exact ⟨hreach', rfl, helement, .empty, .empty, by simp [Ledger.empty]⟩

/-- Whatever is done with a new sheet, its calls answer as the ledger says, the text of its `style`
    element has the chunks of the ledger behind it, and a rule that was put in, however often, has
    been written once or waits once. As long as rules wait, a document without the `style` element
    refuses them, and neither the sheet nor that document changes then. -/
theorem run_accounted {d₀ d : Dom.Document} {styleId : String} {sheet : Sheet}
    (hreach : d₀.tree.Reachable) (hnew : Sheet.new d₀ styleId = (.ok sheet, d))
    {calls : List Call} (hadmits : (Session.mk sheet d).AdmitsAll calls) :
    let (answers, s) := (Session.mk sheet d).run calls
    let (expected, l) := Ledger.empty.recordAll sheet.styleElement calls
    answers = expected ∧
      s.document.tree.textContent sheet.styleElement =
        d.tree.textContent sheet.styleElement ++ String.join l.chunks.flatten ∧
      s.sheet.pending = l.chunk ∧
      (∀ rule, rule ∈ l.inserted ↔ rule ∈ inserts calls) ∧
      (∀ rule, l.chunks.flatten.count rule + l.unwritten.count rule =
        if rule ∈ inserts calls then 1 else 0) ∧
      ∀ other : Dom.Document, other.tree.element? sheet.styleElement = none → l.unwritten ≠ [] →
        flush.run { s with document := other } =
          (.error (Ledger.refusal other.tree sheet.styleElement),
            { s with document := other }) := by
  obtain ⟨hanswers, haccounts⟩ := (accounts_new hreach hnew).run hadmits
  obtain ⟨hbalanced, hinserted⟩ :
      (Ledger.empty.recordAll sheet.styleElement calls).2.Balanced ∧ _ :=
    Ledger.balanced_empty.recordAll calls
  have hmem (rule : String) :
      rule ∈ (Ledger.empty.recordAll sheet.styleElement calls).2.inserted ↔
        rule ∈ inserts calls := by
    rw [hinserted]
    simp [Ledger.empty]
  refine ⟨hanswers, haccounts.textContent, haccounts.pending, hmem, fun rule => ?_,
    fun other => haccounts.run_flush_eq_refusal⟩
  rw [hbalanced.count_add_count]
  simp only [hmem]

/-- Rules of both kinds, one of them twice, are put in while the page is edited and a document
    without the `style` element is asked for it. -/
def sampleCalls : List Call :=
  [.insert "@media b", .insert "a", .flush, .insert "a", .insert "c", .edit (.createText "b"),
    .flushTo .empty, .flush]

/-- Two flushes with a refused one between them. -/
theorem run_accounted_skeleton :
    ∃ sheet d, Sheet.new .skeleton "rules" = (.ok sheet, d) ∧
      (Session.mk sheet d).AdmitsAll sampleCalls ∧
      ((Session.mk sheet d).run sampleCalls).1 =
        [.inserted true, .inserted true, .flushed 2, .inserted false, .inserted true, .edited,
          .refused (.notFound (some 4)), .flushed 1] ∧
      ((Session.mk sheet d).run sampleCalls).2.document.tree.textContent (some 4) =
        "a@media bc" := by
  have hreach : Dom.Document.skeleton.tree.Reachable :=
    ⟨[.createElement "html", .createElement "head", .createElement "body",
      .appendChild (some 0) (some 1), .appendChild (some 1) (some 2),
      .appendChild (some 1) (some 3)], rfl⟩
  have hnew : Sheet.new .skeleton "rules" =
      (.ok ⟨.empty, .empty, some 4⟩, (Sheet.new .skeleton "rules").2) := rfl
  have hadmits : (Session.mk ⟨.empty, .empty, some 4⟩ (Sheet.new .skeleton "rules").2).AdmitsAll
      sampleCalls := by decide +kernel
  obtain ⟨hanswers, htext, -⟩ := run_accounted hreach hnew hadmits
  refine ⟨_, _, hnew, hadmits, hanswers.trans (by decide +kernel), htext.trans (by decide +kernel)⟩

end Session

end Sheet

end ClassSheet
