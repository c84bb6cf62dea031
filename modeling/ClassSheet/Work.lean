/-! # Work on a state

Work goes on step by step on a state that others see as well. An error ends it and takes nothing
back: whatever has been changed by then stays changed. `Work.run` tells what work comes to and what
state it leaves.

A function that gives a result and a new state, or an error and no state, leaves open what becomes
of the state after an error. `Work.kept` takes it that the state stays. That this is so of work is
then to be proved (`Dom.InPlace.run_addClass`, `EncodedName.run_compileInPlace`,
`Sheet.Session.run_flush`). -/

namespace ClassSheet

/-- Work on a state of type `σ`, with errors of type `ε`. -/
abbrev Work (σ ε α : Type) := ExceptT ε (StateM σ) α

namespace Work

variable {σ τ ε ε' α β : Type}

/-- What work comes to, and the state that it leaves. -/
def run (x : Work σ ε α) (s : σ) : Except ε α × σ := Id.run (StateT.run (ExceptT.run x) s)

/-- Work on the part of a state that `get` finds and `put` replaces. Its errors become errors of the
    whole. -/
def onPart (get : σ → τ) (put : σ → τ → σ) (wrap : ε → ε') (x : Work τ ε α) : Work σ ε' α :=
  ExceptT.mk fun s =>
    let (result, part) := x.run (get s)
    (result.mapError wrap, put s part)

/-- A result with a new state, or an error with the old one. -/
def kept (s : σ) : Except ε (α × σ) → Except ε α × σ
  | .ok (a, s') => (.ok a, s')
  | .error e => (.error e, s)

/-! ### One step after the other -/

section Bind

variable {x : Work σ ε α} {s s' : σ}

/-- Work goes on in the state that its first step has left. -/
theorem run_bind_ok {a : α} (h : x.run s = (.ok a, s')) (f : α → Work σ ε β) :
    (x >>= f).run s = (f a).run s' := by
  unfold run at h ⊢
  rw [ExceptT.run_bind, StateT.run_bind, Id.run_bind, h]

/-- After an error nothing more is done. -/
theorem run_bind_error {e : ε} (h : x.run s = (.error e, s')) (f : α → Work σ ε β) :
    (x >>= f).run s = (.error e, s') := by
  unfold run at h ⊢
  rw [ExceptT.run_bind, StateT.run_bind, Id.run_bind, h]
  rfl

end Bind

/-! ### Single steps -/

/-- Looking at the state does not change it. -/
theorem run_get (s : σ) : run (get : Work σ ε σ) s = (.ok s, s) := rfl

/-- Changing the state does that and nothing else. -/
theorem run_modify (f : σ → σ) (s : σ) :
    run (modify f : Work σ ε PUnit) s = (.ok (), f s) := rfl

/-- A result that is there already changes nothing, whatever it is. -/
theorem run_ofExcept (x : Except ε α) (s : σ) :
    run (MonadExcept.ofExcept x : Work σ ε α) s = (x, s) := by
  cases x <;> rfl

/-- Work on a part that stays after an error leaves the whole after an error. -/
theorem run_onPart (get : σ → τ) (put : σ → τ → σ) (wrap : ε → ε') {x : Work τ ε α}
    {y : Except ε (α × τ)} {s : σ} (hput : put s (get s) = s)
    (h : x.run (get s) = kept (get s) y) :
    (x.onPart get put wrap).run s =
      kept s ((y.mapError wrap).map fun result => (result.1, put s result.2)) := by
  have hrun : (x.onPart get put wrap).run s =
      ((x.run (get s)).1.mapError wrap, put s (x.run (get s)).2) := rfl
  rw [hrun, h]
  cases y with
  | error e => exact congrArg (Prod.mk _) hput
  | ok result => rfl

end Work

end ClassSheet
