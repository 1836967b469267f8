/-!
# Proofs/Work — work on a state that may fail

Work that fails keeps what was done before.  A run is taken apart at its binds: the first part runs, and
when it gives a value the second part goes on from the state it left (`run_bind`).  A failure that is
caught goes on from there, too (`run_tryCatch`).
-/

namespace AuditTrail

variable {ε σ α β : Type}

/-- **Two parts of work**: a failure of the first is the end. -/
theorem run_bind (x : ExceptT ε (StateM σ) α) (f : α → ExceptT ε (StateM σ) β) (s : σ) :
    (x >>= f).run.run s = match x.run.run s with
      | (.ok a, s') => (f a).run.run s'
      | (.error e, s') => (.error e, s') := by
  rw [ExceptT.run_bind, StateT.run_bind]
  rcases x.run.run s with ⟨_ | _, _⟩ <;> rfl

/-- A first part that does not look at the state. -/
theorem run_lift_bind (x : Except ε α) (f : α → ExceptT ε (StateM σ) β) (s : σ) :
    ((liftM x : ExceptT ε (StateM σ) α) >>= f).run.run s = match x with
      | .ok a => (f a).run.run s
      | .error e => (.error e, s) := by
  rw [run_bind]
  cases x <;> rfl

theorem run_get_bind (f : σ → ExceptT ε (StateM σ) β) (s : σ) :
    (get >>= f : ExceptT ε (StateM σ) β).run.run s = (f s).run.run s := rfl

theorem run_set (s' s : σ) : (set s' : ExceptT ε (StateM σ) PUnit).run.run s = (.ok ⟨⟩, s') := rfl

theorem run_set_bind (s' : σ) (f : PUnit → ExceptT ε (StateM σ) β) (s : σ) :
    (set s' >>= f : ExceptT ε (StateM σ) β).run.run s = (f ⟨⟩).run.run s' := rfl

theorem run_modify_bind (change : σ → σ) (f : PUnit → ExceptT ε (StateM σ) β) (s : σ) :
    (modify change >>= f : ExceptT ε (StateM σ) β).run.run s = (f ⟨⟩).run.run (change s) := rfl

/-- **Catching a failure.** -/
theorem run_tryCatch (x : ExceptT ε (StateM σ) α) (handle : ε → ExceptT ε (StateM σ) α) (s : σ) :
    (tryCatch x handle).run.run s = match x.run.run s with
      | (.ok a, s') => (.ok a, s')
      | (.error e, s') => (handle e).run.run s' := by
  change (ExceptT.tryCatch x handle).run.run s = _
  rw [ExceptT.tryCatch, ExceptT.run_mk, StateT.run_bind]
  change (x.run.run s >>= _ : Id _) = _
  rcases x.run.run s with ⟨_ | _, _⟩ <;> rfl

end AuditTrail
