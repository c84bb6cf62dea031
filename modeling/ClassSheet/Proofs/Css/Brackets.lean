import ClassSheet.Css.Grid
import ClassSheet.Proofs.Text.Pieces

/-! # Hyphens outside brackets

A token is cut at the hyphens outside brackets. A text that has none, and closes the brackets that
it opens, stays whole wherever it stands (`Uncut`), so such texts are the pieces of the token that
hyphens join them to (`outerPieces_intercalate`). -/

namespace ClassSheet.Css

open ClassSheet.Text

/-! ### Cutting -/

/-- There is always a piece, be it an empty one. -/
theorem outerPieces_ne_nil (depth : Nat) (cs : List Char) : outerPieces depth cs ≠ [] := by
  cases cs with
  | nil => simp [outerPieces]
  | cons c cs =>
    rw [outerPieces]
    split
    · simp
    · dsimp only
      split <;> simp

/-- A character that is not cut at goes in front of the first piece behind it. -/
theorem outerPieces_cons {depth : Nat} {c : Char} (h : (c == '-' && depth == 0) = false)
    (cs : List Char) :
    outerPieces depth (c :: cs) =
      (outerPieces (if c == '(' then depth + 1 else if c == ')' then depth - 1 else depth)
        cs).modifyHead (c :: ·) := by
  rw [outerPieces, h]
  simp only [Bool.false_eq_true, if_false]
  split
  · next heq => exact absurd heq (outerPieces_ne_nil _ cs)
  · next p ps heq => rw [heq, List.modifyHead_cons]

/-! ### Texts that stay whole -/

/-- The text is not cut where it stands inside so many brackets, and it closes each bracket that it
    opens: whatever follows it is cut as if it stood alone. -/
def Uncut (depth : Nat) (p : List Char) : Prop :=
  ∀ rest, outerPieces depth (p ++ rest) = (outerPieces depth rest).modifyHead (p ++ ·)

namespace Uncut

variable {depth : Nat} {p q : List Char}

/-- The empty text is not cut. -/
theorem nil : Uncut depth [] := by
  intro rest
  have hid : (([] : List Char) ++ ·) = id := rfl
  rw [hid, List.modifyHead_id]
  rfl

/-- Texts that are not cut, one behind the other, are not cut. -/
theorem append (hp : Uncut depth p) (hq : Uncut depth q) : Uncut depth (p ++ q) := by
  intro rest
  rw [List.append_assoc, hp, hq, List.modifyHead_modifyHead]
  simp [Function.comp_def]

/-- A character that is no bracket and, outside brackets, no hyphen. -/
theorem singleton {c : Char} (hopen : c ≠ '(') (hclose : c ≠ ')') (hhyphen : c = '-' → depth ≠ 0) :
    Uncut depth [c] := by
  intro rest
  have hkept : (c == '-' && depth == 0) = false := by simpa using hhyphen
  rw [List.singleton_append, outerPieces_cons hkept]
  simp [hopen, hclose]

/-- A text of such characters. -/
theorem of_forall (h : ∀ c ∈ p, c ≠ '(' ∧ c ≠ ')' ∧ (c = '-' → depth ≠ 0)) : Uncut depth p := by
  induction p with
  | nil => exact nil
  | cons c p ih =>
    obtain ⟨⟨hopen, hclose, hhyphen⟩, hp⟩ := List.forall_mem_cons.mp h
    exact append (singleton hopen hclose hhyphen) (ih hp)

/-- Inside brackets, hyphens are not cut at. -/
theorem intercalate {ps : List (List Char)} (h : ∀ p ∈ ps, Uncut (depth + 1) p) :
    Uncut (depth + 1) (['-'].intercalate ps) := by
  have hhyphen : Uncut (depth + 1) ['-'] := singleton (by decide) (by decide) (by simp)
  induction ps with
  | nil => exact nil
  | cons p ps ih =>
    obtain ⟨hp, hps⟩ := List.forall_mem_cons.mp h
    cases ps with
    | nil => simpa using hp
    | cons q ps =>
      rw [List.intercalate_cons_cons]
      exact (hp.append hhyphen).append (ih hps)

/-- What stands in a pair of brackets is one bracket deeper inside. -/
theorem brackets (hp : Uncut (depth + 1) p) : Uncut depth ('(' :: (p ++ [')'])) := by
  intro rest
  have hopening : ('(' == '-' && depth == 0) = false := rfl
  have hclosing : (')' == '-' && depth + 1 == 0) = false := rfl
  rw [List.cons_append, List.append_assoc, List.singleton_append, outerPieces_cons hopening]
  simp only [beq_self_eq_true, if_true]
  rw [hp, outerPieces_cons hclosing]
  simp [List.modifyHead_modifyHead, Function.comp_def]

end Uncut

/-! ### Pieces -/

/-- Texts that are not cut, with hyphens between them, are the pieces of the joined text. -/
theorem outerPieces_intercalate {ps : List (List Char)} (hne : ps ≠ []) (h : ∀ p ∈ ps, Uncut 0 p) :
    outerPieces 0 (['-'].intercalate ps) = ps := by
  induction ps with
  | nil => exact absurd rfl hne
  | cons p ps ih =>
    obtain ⟨hp, hps⟩ := List.forall_mem_cons.mp h
    cases ps with
    | nil => simpa [outerPieces] using hp []
    | cons q ps =>
      have hcut (rest : List Char) : outerPieces 0 ('-' :: rest) = [] :: outerPieces 0 rest := rfl
      rw [List.intercalate_cons_cons, List.append_assoc, List.singleton_append, hp, hcut,
        ih (List.cons_ne_nil q ps) hps]
      simp

end ClassSheet.Css
