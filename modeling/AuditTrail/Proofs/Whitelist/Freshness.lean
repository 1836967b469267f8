import Mathlib.Data.List.Induction
import Mathlib.Data.Rat.Cast.Order
import AuditTrail.Proofs.Number.Order
import AuditTrail.Proofs.Whitelist.Caching

/-!
# Proofs/Whitelist/Freshness — how old the answers of a cache are

    ── get: loaded ──┬── other steps ──┬── get: answered from the cache
                     └─ ≤ the validity ┘
                       not invalidated

Every entry of a cache was loaded by one of the steps before, at the time that it bears, and no step since
has invalidated it (`exists_loaded`).  So a whitelist that the cache answers with is recent, and a failure
is told only when the lookup has just failed (`get_answers_recent`).
-/

namespace AuditTrail.Cache

open AuditTrail.Number

variable {limits : CacheLimits} {now now' : Rat} {role : String} {entry : CacheEntry} {c : Cache}
  {start scene : Scene} {steps : List Step} {step : Step}

/-! ## Expiry -/

/-- **An entry that is expired** stays so. -/
theorem isExpired_mono (hkeeps : limits.keeps = true) (hle : now ≤ now')
    (h : entry.isExpired limits now = true) : entry.isExpired limits now' = true :=
  Binary64.isBelow_ofRat_mono hkeeps (sub_le_sub_right hle _) h

theorem fresh?_eq_none_iff : c.fresh? limits now role = none ↔
    ∀ entry, c.entry? role = some entry → entry.isExpired limits now = true := by
  unfold fresh?
  rw [Option.filter_eq_none_iff]
  refine forall_congr' fun entry => imp_congr_right fun _ => ?_
  rw [Bool.not_eq_true', Bool.not_eq_false]

/-! ## Loaded entries -/

/-- **An entry was loaded** by one of some steps, at the time that it bears, and no step since invalidates
its role. -/
def Loaded (limits : CacheLimits) (start : Scene) (steps : List Step) (role : String) (entry : CacheEntry) :
    Prop :=
  ∃ taken rest, steps = taken ++ .get role :: rest ∧
    (after limits taken start).Loads limits role entry.whitelist ∧
    entry.loadedAt = (after limits taken start).now ∧ ∀ step ∈ rest, ¬ step.Invalidates role

theorem Loaded.concat (h : Loaded limits start steps role entry) (hstep : ¬ step.Invalidates role) :
    Loaded limits start (steps ++ [step]) role entry := by
  obtain ⟨taken, rest, rfl, hloads, htime, hrest⟩ := h
  refine ⟨taken, rest ++ [step], ?_, hloads, htime, ?_⟩
  · rw [List.append_assoc, List.cons_append]
  · exact List.forall_mem_append.mpr ⟨hrest, List.forall_mem_singleton.mpr hstep⟩

theorem hasDistinctRoles_after (hroom : 1 ≤ limits.maxEntries) (h : start.cache.HasDistinctRoles)
    (steps : List Step) : (after limits steps start).cache.HasDistinctRoles := by
  induction steps using List.reverseRecOn with
  | nil => exact h
  | append_singleton steps step ih =>
    rw [after_concat]
    exact hasDistinctRoles_run hroom ih

/-- **Every entry was loaded** in a run that begins without entries. -/
theorem exists_loaded (hroom : 1 ≤ limits.maxEntries) (hempty : start.cache.entries = [])
    (hentry : (after limits steps start).cache.entry? role = some entry) :
    Loaded limits start steps role entry := by
  have hroles : start.cache.HasDistinctRoles := by
    unfold HasDistinctRoles
    rw [hempty]
    exact List.nodup_nil
  induction steps using List.reverseRecOn generalizing role entry with
  | nil =>
    unfold entry? at hentry
    rw [after, List.foldl_nil, hempty] at hentry
    cases hentry
  | append_singleton steps step ih =>
    rw [after_concat] at hentry
    rcases entry?_run hroom (hasDistinctRoles_after hroom hroles steps) hentry with
      ⟨hbefore, hstep⟩ | ⟨rfl, hloads, htime⟩
    · exact (ih hbefore).concat hstep
    · exact ⟨steps, [], rfl, hloads, htime, nofun⟩

/-! ## Failures -/

/-- **Where a role has no valid entry**, it has none until it is asked for again. -/
theorem fresh?_run_eq_none (hkeeps : limits.keeps = true) (hroom : 1 ≤ limits.maxEntries)
    (hroles : scene.cache.HasDistinctRoles) (hother : step ≠ .get role) (h : scene.cache.fresh? limits scene.now role = none) :
    (step.run limits scene).cache.fresh? limits (step.run limits scene).now role = none := by
  rw [fresh?_eq_none_iff] at h ⊢
  intro entry hentry
  rcases entry?_run hroom hroles hentry with ⟨hbefore, -⟩ | ⟨rfl, -⟩
  · exact isExpired_mono hkeeps now_le_run (h entry hbefore)
  · exact absurd rfl hother

theorem fresh?_after_eq_none (hkeeps : limits.keeps = true) (hroom : 1 ≤ limits.maxEntries)
    (hroles : scene.cache.HasDistinctRoles) (hother : .get role ∉ steps) (h : scene.cache.fresh? limits scene.now role = none) :
    (after limits steps scene).cache.fresh? limits (after limits steps scene).now role = none := by
  induction steps generalizing scene with
  | nil => exact h
  | cons step rest ih =>
    obtain ⟨hfirst, hrest⟩ := List.ne_and_not_mem_of_not_mem_cons hother
    exact ih (hasDistinctRoles_run hroom hroles) hrest (fresh?_run_eq_none hkeeps hroom hroles hfirst.symm h)

/-- The lookup is called for a role that has no valid entry. -/
theorem called_of_fresh?_eq_none (hroom : 1 ≤ limits.maxEntries)
    (h : limits.keeps = true → scene.cache.fresh? limits scene.now role = none) :
    (scene.ask limits role).called = true := by
  have hanswered := scene.answered hroom role
  generalize scene.ask limits role = answer at hanswered ⊢
  cases hanswered with
  | through => rfl
  | failed => rfl
  | missed => rfl
  | hit entry hkeeps hentry hvalid =>
    rw [fresh?_eq_none_iff.mp (h hkeeps) entry hentry] at hvalid
    cases hvalid

/-- **A failure** is told when the lookup has just failed, and it leaves the role without a valid entry. -/
theorem failed_of_error {fault : Fault} (hroom : 1 ≤ limits.maxEntries)
    (h : (scene.ask limits role).outcome = .error fault) :
    (scene.ask limits role).called = true ∧
      (∃ cause, scene.lookup role = .error cause ∧ fault = asLookupFault role cause) ∧
      (limits.keeps = true →
        (scene.ask limits role).cache.fresh? limits scene.now role = none) := by
  have hanswered := scene.answered hroom role
  generalize scene.ask limits role = answer at hanswered h ⊢
  cases hanswered with
  | hit => cases h
  | missed => cases h
  | failed cause hkeeps hstale hloaded =>
    exact ⟨rfl, ⟨cause, hloaded, (Except.error.inj h).symm⟩, fun _ => hstale⟩
  | through hkeeps =>
    refine ⟨rfl, ?_, fun hyes => absurd (hkeeps.symm.trans hyes) Bool.false_ne_true⟩
    rcases hlookup : scene.lookup role with cause | w
    · rw [hlookup] at h
      exact ⟨cause, rfl, (Except.error.inj h).symm⟩
    · rw [hlookup] at h
      cases h

/-! ## Recent answers -/

/-- **A whitelist is recent** after some steps: one of them asked for the role, the lookup was called for it
and gave the whitelist, no longer ago than the validity as the clock tells, and no step since invalidates the
role. -/
def Recent (limits : CacheLimits) (start : Scene) (steps : List Step) (role : String) (w : Whitelist) :
    Prop :=
  ∃ taken rest, steps = taken ++ .get role :: rest ∧ (after limits taken start).Loads limits role w ∧
    limits.validity.isBelow (elapsed (after limits taken start).now (after limits steps start).now) = false ∧
    ∀ step ∈ rest, ¬ step.Invalidates role

/-- A validity in which something is kept is not below zero. -/
theorem isBelow_elapsed_self (hkeeps : limits.keeps = true) (now : Rat) :
    limits.validity.isBelow (elapsed now now) = false := by
  rw [Bool.eq_false_iff, elapsed, sub_self]
  exact fun h => lt_irrefl 0 (Binary64.pos_of_isBelow_ofRat hkeeps h)

/-- A valid entry that was loaded gives a recent answer. -/
theorem Loaded.recent (h : Loaded limits start steps role entry)
    (hvalid : entry.isExpired limits (after limits steps start).now = false) :
    Recent limits start (steps ++ [.get role]) role entry.whitelist := by
  have hstep : ¬ (Step.get role).Invalidates role := id
  obtain ⟨taken, rest, hsteps, hloads, htime, hrest⟩ := h.concat hstep
  refine ⟨taken, rest, hsteps, hloads, ?_, hrest⟩
  rw [after_concat, ← htime]
  exact hvalid

/-- What is loaded now is recent. -/
theorem recent_of_loads {w : Whitelist} (hkeeps : limits.keeps = true)
    (h : (after limits steps start).Loads limits role w) :
    Recent limits start (steps ++ [.get role]) role w := by
  refine ⟨steps, [], rfl, h, ?_, nofun⟩
  have hnow : (after limits (steps ++ [.get role]) start).now = (after limits steps start).now := by
    rw [after_concat]
    rfl
  rw [hnow]
  exact isBelow_elapsed_self hkeeps _

/-- **An answer** is what the lookup gives now, or it is kept by a valid entry. -/
theorem cases_of_ok {w : Whitelist} (hroom : 1 ≤ limits.maxEntries)
    (h : (scene.ask limits role).outcome = .ok w) :
    scene.Loads limits role w ∨ limits.keeps = true ∧ ∃ entry, scene.cache.entry? role = some entry ∧
      entry.isExpired limits scene.now = false ∧ w = entry.whitelist := by
  have hanswered := scene.answered hroom role
  unfold Scene.Loads
  generalize scene.ask limits role = answer at hanswered h ⊢
  cases hanswered with
  | failed => cases h
  | through =>
    rcases hlookup : scene.lookup role with cause | w
    · rw [hlookup] at h
      cases h
    · rw [hlookup] at h
      exact .inl ⟨rfl, h⟩
  | hit entry hkeeps hentry hvalid =>
    exact .inr ⟨hkeeps, entry, hentry, hvalid, (Except.ok.inj h).symm⟩
  | missed w' rest _ _ hloaded => exact .inl ⟨rfl, hloaded.trans h⟩

/-- **The answers of a cache are recent.**  A whitelist that is answered was loaded no longer ago than the
validity, and its role was not invalidated since; without a validity it is loaded now.  A failure is that
of a lookup that has just failed, and the lookup is called when the role is asked for again, whatever
happens before that. -/
theorem get_answers_recent (hroom : 1 ≤ limits.maxEntries) (hempty : start.cache = .empty) :
    (∀ w, ((after limits steps start).ask limits role).outcome = .ok w →
      (limits.keeps = true → Recent limits start (steps ++ [.get role]) role w) ∧
      (limits.keeps = false → (after limits steps start).Loads limits role w)) ∧
    ∀ fault, ((after limits steps start).ask limits role).outcome = .error fault →
      ((after limits steps start).ask limits role).called = true ∧
      (∃ cause, (after limits steps start).lookup role = .error cause ∧
        fault = asLookupFault role cause) ∧
      ∀ rest, .get role ∉ rest →
        ((after limits (steps ++ .get role :: rest) start).ask limits role).called = true := by
  have hentries : start.cache.entries = [] := by
    rw [hempty]
    rfl
  have hroles : start.cache.HasDistinctRoles := by
    rw [hempty]
    exact List.nodup_nil
  constructor
  · intro w hok
    rcases cases_of_ok hroom hok with hloads | ⟨hkeeps, entry, hentry, hvalid, rfl⟩
    · exact ⟨fun hkeeps => recent_of_loads hkeeps hloads, fun _ => hloads⟩
    · refine ⟨fun _ => (exists_loaded hroom hentries hentry).recent hvalid, fun hno => ?_⟩
      exact absurd (hno.symm.trans hkeeps) Bool.false_ne_true
  · intro fault herror
    obtain ⟨hcalled, hcause, hstale⟩ := failed_of_error hroom herror
    refine ⟨hcalled, hcause, fun rest hrest => called_of_fresh?_eq_none hroom fun hkeeps => ?_⟩
    have hafter : after limits (steps ++ .get role :: rest) start
        = after limits rest ((Step.get role).run limits (after limits steps start)) :=
      List.foldl_append
    have hdistinct : ((Step.get role).run limits (after limits steps start)).cache.HasDistinctRoles :=
      hasDistinctRoles_run hroom (hasDistinctRoles_after hroom hroles steps)
    rw [hafter]
    exact fresh?_after_eq_none hkeeps hroom hdistinct hrest (hstale hkeeps)

/-- A place for one whitelist, for two seconds. -/
def briefLimits : CacheLimits := ⟨.ofInt 2, 1⟩

/-- The role may read a keyspace unaudited. -/
def readerScene : Scene := ⟨.empty, 0, fun _ => .ok [(.all, [.keyspace "ks"])]⟩

/-- The role is asked for, and a second later the lookup begins to fail. -/
def untilOutage : List Step := [.get "reader", .advance 1, .change fun _ => .error (.other .value "down")]

theorem reader_recent :
    ((after briefLimits untilOutage readerScene).ask briefLimits "reader").outcome
      = .ok [(.all, [.keyspace "ks"])] ∧
    Recent briefLimits readerScene (untilOutage ++ [.get "reader"]) "reader" [(.all, [.keyspace "ks"])] := by
  have hanswer : ((after briefLimits untilOutage readerScene).ask briefLimits "reader").outcome
      = .ok [(.all, [.keyspace "ks"])] := by
    decide +kernel
  exact ⟨hanswer, ((get_answers_recent (by decide) rfl).1 _ hanswer).1 (by decide +kernel)⟩

end AuditTrail.Cache
