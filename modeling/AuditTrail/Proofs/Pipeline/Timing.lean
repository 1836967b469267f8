import AuditTrail.Pipeline.Basic
import AuditTrail.Proofs.Work

/-!
# Proofs/Pipeline/Timing — the filter and the backend leave the measured times

The filter changes nothing but the timer and the cache (`keeps_evaluate`), and neither the filter nor the
backend touches the measured times (`keepsTimes_evaluate`, `keepsTimes_emit`): a property that parts of
work hand on to the whole holds for a tree of filters when it holds for the roles and the lookups
(`IsHandedOn.isExempt`).
-/

namespace AuditTrail

/-! ## Properties that parts hand on -/

section HandedOn

variable {m : Type → Type} [Monad m]

/-- **A property of work that parts hand on** to what they are put together to. -/
structure IsHandedOn (P : (α : Type) → m α → Prop) : Prop where
  pure {α : Type} (a : α) : P α (pure a)
  bind {α β : Type} {x : m α} {f : α → m β} (hx : P α x) (hf : ∀ a, P β (f a)) : P β (x >>= f)

variable {P : (α : Type) → m α → Prop}

namespace IsHandedOn

theorem anyM {α : Type} {p : α → m Bool} (h : IsHandedOn P) (hp : ∀ x, P Bool (p x)) (xs : List α) :
    P Bool (xs.anyM p) := by
  induction xs with
  | nil => exact h.pure false
  | cons x xs ih =>
    refine h.bind (hp x) fun found => ?_
    cases found with
    | true => exact h.pure true
    | false => exact ih

theorem allM {α : Type} {p : α → m Bool} (h : IsHandedOn P) (hp : ∀ x, P Bool (p x)) (xs : List α) :
    P Bool (xs.allM p) := by
  induction xs with
  | nil => exact h.pure true
  | cons x xs ih =>
    refine h.bind (hp x) fun holds => ?_
    cases holds with
    | true => exact ih
    | false => exact h.pure false

/-- The decision of roles. -/
theorem isExempt_roles {lookup : String → m Whitelist} (h : IsHandedOn P)
    (hlookup : ∀ role, P Whitelist (lookup role)) (roles : List String) (e : Event) :
    P Bool (AuditTrail.isExempt lookup roles e) := by
  rw [AuditTrail.isExempt]
  split
  · exact h.pure false
  · refine h.allM (fun permission => h.anyM (fun role => ?_) roles) e.asked
    exact h.bind (hlookup role) fun w => h.pure _

variable {σ : Type} {rolesOf : String → m (List String)} {lookup : σ → String → m Whitelist} {e : Event}

mutual

theorem exempts {ask : σ → Event → m Bool} (h : IsHandedOn P) (hask : ∀ source, P Bool (ask source e)) :
    (filter : Filter σ) → P Bool (filter.exempts ask e)
  | .nothing => by
    rw [Filter.exempts]
    exact h.pure false
  | .listed principals => by
    rw [Filter.exempts]
    exact h.pure _
  | .byRole source => by
    rw [Filter.exempts]
    exact hask source
  | .anyOf filters => by
    rw [Filter.exempts]
    exact anyExempts h hask filters

theorem anyExempts {ask : σ → Event → m Bool} (h : IsHandedOn P) (hask : ∀ source, P Bool (ask source e)) :
    (filters : List (Filter σ)) → P Bool (Filter.anyExempts ask filters e)
  | [] => by
    rw [Filter.anyExempts]
    exact h.pure false
  | filter :: rest => by
    rw [Filter.anyExempts]
    refine h.bind (exempts h hask filter) fun found => ?_
    cases found with
    | true => exact h.pure true
    | false => exact anyExempts h hask rest

end

/-- **The decision of a filter.** -/
theorem isExempt (h : IsHandedOn P) (hroles : ∀ principal, P (List String) (rolesOf principal))
    (hlookup : ∀ source role, P Whitelist (lookup source role)) (filter : Filter σ) :
    P Bool (filter.isExempt rolesOf lookup e) :=
  h.exempts (fun source => h.bind (hroles e.principal) fun roles => h.isExempt_roles (hlookup source) roles e)
    filter

end IsHandedOn

end HandedOn

/-! ## Work that leaves the measured times -/

/-- **A part of the trail stays as it is.** -/
def Keeps {α β : Type} (part : Trail → β) (work : Trail.Work α) : Prop :=
  ∀ t, part (work.run.run t).2 = part t

/-- **The measured times stay as they are.** -/
def KeepsTimes {α : Type} (work : Trail.Work α) : Prop :=
  ∀ t, (work.run.run t).2.filterTimes = t.filterTimes ∧ (work.run.run t).2.logTimes = t.logTimes

theorem isHandedOn_keeps {β : Type} (part : Trail → β) :
    IsHandedOn fun α (work : Trail.Work α) => Keeps part work where
  pure _ _ := rfl
  bind {α γ x f} hx hf t := by
    rw [run_bind]
    have hfirst := hx t
    rcases hrun : x.run.run t with ⟨outcome, t'⟩
    rw [hrun] at hfirst
    rcases outcome with fault | a
    · exact hfirst
    · exact (hf a t').trans hfirst

theorem run_spend (micros : Nat) (t : Trail) :
    (Trail.spend micros).run.run t = (.ok (), { t with timer := t.timer + micros }) := rfl

theorem keeps_whitelistOf {β : Type} {part : Trail → β}
    (hpart : ∀ t timer cache, part { t with timer := timer, cache := cache } = part t)
    (host : Host) (limits : CacheLimits) (role : String) :
    Keeps part (Pipeline.whitelistOf host limits role) := by
  intro t
  unfold Pipeline.whitelistOf
  rw [run_get_bind]
  dsimp only
  generalize t.cache.get limits host.now role (host.lookup role) = answer
  rw [run_set_bind]
  rcases answer with ⟨_ | _, _ | _, cache⟩ <;> exact hpart t _ cache

/-- **The filter** changes the timer and the cache at most. -/
theorem keeps_evaluate {β : Type} {part : Trail → β}
    (hpart : ∀ t timer cache, part { t with timer := timer, cache := cache } = part t)
    (p : Pipeline) (host : Host) (e : Event) : Keeps part (p.evaluate host e) :=
  (isHandedOn_keeps part).isExempt (fun _ _ => rfl) (fun _ => keeps_whitelistOf hpart host p.limits) p.filter

theorem keepsTimes_evaluate (p : Pipeline) (host : Host) (e : Event) : KeepsTimes (p.evaluate host e) :=
  fun t => ⟨@keeps_evaluate _ Trail.filterTimes (fun _ _ _ => rfl) p host e t,
    @keeps_evaluate _ Trail.logTimes (fun _ _ _ => rfl) p host e t⟩

/-- **The backend** leaves the measured times. -/
theorem keepsTimes_emit (backend : Backend) (host : Host) (template : String) (arguments : List String) :
    KeepsTimes (backend.emit host template arguments) := by
  intro t
  cases backend with
  | logging settings =>
    unfold Backend.emit
    dsimp only
    split <;> exact ⟨rfl, rfl⟩
  | journal settings => exact ⟨rfl, rfl⟩
  | host sink =>
    unfold Backend.emit
    dsimp only
    rw [run_bind, run_spend]
    dsimp only
    split <;> exact ⟨rfl, rfl⟩

end AuditTrail
