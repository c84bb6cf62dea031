/-! # Buckets of rules

Rule texts in the order in which they first came, each once, and how many of them have been written
to the stylesheet. -/

namespace ClassSheet

/-- Rule texts, of which the first `flushed` have been written. -/
structure Bucket where
  rules : List String
  flushed : Nat
deriving DecidableEq

namespace Bucket

/-- The bucket without a rule. -/
def empty : Bucket := ⟨[], 0⟩

/-- The number of rules. -/
def length (b : Bucket) : Nat := b.rules.length

/-- Whether a rule is in the bucket. -/
def contains (b : Bucket) (rule : String) : Bool := b.rules.contains rule

/-- The bucket with a rule at its end, and whether that changed it: a rule that is already there
    changes nothing. -/
def insert (b : Bucket) (rule : String) : Bool × Bucket :=
  if b.contains rule then (false, b) else (true, { b with rules := b.rules ++ [rule] })

/-- Inserting a rule keeps all others. -/
theorem mem_rules_insert {b : Bucket} {rule x : String} :
    x ∈ (b.insert rule).2.rules ↔ x ∈ b.rules ∨ x = rule := by
  unfold insert contains
  split <;> simp_all

/-- The rules that have not been written. -/
def pending (b : Bucket) : List String := b.rules.drop b.flushed

/-- The bucket with every rule counted as written. -/
def markFlushed (b : Bucket) : Bucket := { b with flushed := b.rules.length }

end Bucket

end ClassSheet
