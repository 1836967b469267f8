import AuditTrail.Proofs.Whitelist.Eviction

/-!
# Proofs/Whitelist/Accounting — how much a cache keeps, and what it counts

    get ──kept, not expired──▸ hits + 1
     └──otherwise──▸ misses + 1, a lookup ──▸ at most one entry more, and none where all places are taken

An answer is counted once, as a miss where the lookup is called for it (`Answered.counts`), and it leaves no
more entries than there are places (`Answered.size_le`).  So after any run the counts are those of the steps
and of the lookups, and without a validity there is nothing to count (`accounted_after`).
-/

namespace AuditTrail.Cache

variable {limits : CacheLimits} {now : Rat} {role : String} {loaded : Except Fault Whitelist} {c : Cache}
  {answer : CacheAnswer} {scene start : Scene} {steps : List Step} {cause : Fault}

/-! ## One answer -/

/-- **How a failed lookup is told**: as it is, if it tells so itself, and otherwise as that of the role. -/
inductive ToldAs (role : String) : Fault → Fault → Prop
  | itself (r reason : String) : ToldAs role (.policyLookup r reason) (.policyLookup r reason)
  | wrapped {cause : Fault} (hother : ∀ r reason, cause ≠ .policyLookup r reason) :
    ToldAs role cause (.policyLookup role cause.message)

theorem toldAs_asLookupFault (role : String) (cause : Fault) :
    ToldAs role cause (asLookupFault role cause) := by
  cases cause with
  | policyLookup r reason => exact .itself r reason
  | _ => exact .wrapped nofun

/-- **An answer is counted**, as a miss where the lookup is called for it. -/
theorem Answered.counts (h : Answered limits now role loaded c answer) (hkeeps : limits.keeps = true) :
    answer.cache.hits + answer.cache.misses = c.hits + c.misses + 1 ∧
      answer.cache.misses = c.misses + if answer.called then 1 else 0 := by
  cases h with
  | through hno => exact absurd (hno.symm.trans hkeeps) Bool.false_ne_true
  | hit => exact ⟨Nat.add_right_comm _ _ _, rfl⟩
  | failed => exact ⟨rfl, rfl⟩
  | missed => exact ⟨rfl, rfl⟩

/-- **An answer leaves no more entries than there are places.** -/
theorem Answered.size_le (h : Answered limits now role loaded c answer)
    (hsize : c.roles.length ≤ limits.maxEntries) : answer.cache.roles.length ≤ limits.maxEntries := by
  rcases h.roles_cases with hsame | ⟨rest, hafter, -, -, -, hrest⟩
  · rwa [hsame]
  · rw [hafter, List.length_append, List.length_singleton]
    rcases hrest with ⟨hrest, hleft⟩ | ⟨first, hrest, -⟩
    · rw [hrest] at hleft
      exact_mod_cast hleft
    · rw [hrest, List.length_cons] at hsize
      exact hsize

/-- **A failed lookup leaves the entries as they are**, and the failure is told. -/
theorem Answered.of_failed (h : Answered limits now role loaded c answer) (hcalled : answer.called = true)
    (hloaded : loaded = .error cause) : answer.cache.entries = c.entries ∧
      ∃ fault, answer.outcome = .error fault ∧ ToldAs role cause fault := by
  have htold := toldAs_asLookupFault role cause
  subst hloaded
  cases h with
  | through => exact ⟨rfl, _, rfl, htold⟩
  | hit => cases hcalled
  | failed fault _ _ hfault =>
    obtain rfl := Except.error.inj hfault
    exact ⟨rfl, _, rfl, htold⟩
  | missed _ _ _ _ hok => cases hok

/-- Without a validity an answer is that of the lookup, and the cache stays as it is. -/
theorem Scene.ask_of_not_keeps (hno : limits.keeps = false) (scene : Scene) (role : String) :
    scene.ask limits role
      = ⟨(scene.lookup role).mapError (asLookupFault role), true, scene.cache⟩ := by
  rw [Scene.ask, Cache.get, hno]
  rfl

/-! ## Runs -/

/-- The step asks for a role. -/
def Step.isGet : Step → Bool
  | get _ => true
  | _ => false

/-- The step calls the lookup. -/
def Step.calls (limits : CacheLimits) (scene : Scene) : Step → Bool
  | get role => (scene.ask limits role).called
  | _ => false

/-- **How often some steps ask for a role.** -/
def asked (steps : List Step) : Nat := steps.countP Step.isGet

/-- **How often the lookup is called** in a run. -/
def calls (limits : CacheLimits) : List Step → Scene → Nat
  | [], _ => 0
  | step :: rest, scene =>
    calls limits rest (step.run limits scene) + if step.calls limits scene then 1 else 0

theorem counts_run (hroom : 1 ≤ limits.maxEntries) (hkeeps : limits.keeps = true) (step : Step)
    (scene : Scene) :
    (step.run limits scene).cache.hits + (step.run limits scene).cache.misses
        = scene.cache.hits + scene.cache.misses + (if step.isGet then 1 else 0) ∧
      (step.run limits scene).cache.misses
        = scene.cache.misses + if step.calls limits scene then 1 else 0 := by
  cases step with
  | get role => exact (scene.answered hroom role).counts hkeeps
  | _ => exact ⟨rfl, rfl⟩

/-- **Every step that asks is counted, and every call of the lookup is a miss.** -/
theorem counted_after (hroom : 1 ≤ limits.maxEntries) (hkeeps : limits.keeps = true) (steps : List Step)
    (scene : Scene) :
    (after limits steps scene).cache.hits + (after limits steps scene).cache.misses
        = scene.cache.hits + scene.cache.misses + asked steps ∧
      (after limits steps scene).cache.misses = scene.cache.misses + calls limits steps scene := by
  induction steps generalizing scene with
  | nil => exact ⟨rfl, rfl⟩
  | cons step rest ih =>
    obtain ⟨hcounted, hmissed⟩ := ih (step.run limits scene)
    obtain ⟨hfirst, hcall⟩ := counts_run hroom hkeeps step scene
    rw [asked, List.countP_cons, calls]
    rw [hfirst] at hcounted
    rw [hcall] at hmissed
    exact ⟨hcounted.trans (by rw [asked]; omega), hmissed.trans (by omega)⟩

theorem size_le_run (hroom : 1 ≤ limits.maxEntries) (hsize : scene.cache.roles.length ≤ limits.maxEntries)
    (step : Step) : (step.run limits scene).cache.roles.length ≤ limits.maxEntries := by
  cases step with
  | get role => exact (scene.answered hroom role).size_le hsize
  | advance seconds => exact hsize
  | invalidate role =>
    exact (Int.ofNat_le.mpr (List.filter_sublist.map _).length_le).trans hsize
  | invalidateAll => exact zero_le_one.trans hroom
  | change lookup => exact hsize

theorem size_le_after (hroom : 1 ≤ limits.maxEntries) (hsize : scene.cache.roles.length ≤ limits.maxEntries)
    (steps : List Step) : (after limits steps scene).cache.roles.length ≤ limits.maxEntries := by
  induction steps generalizing scene with
  | nil => exact hsize
  | cons step rest ih => exact ih (size_le_run hroom hsize step)

/-- Without a validity a run leaves an empty cache empty, and every step that asks calls the lookup. -/
theorem nothing_kept_after (hno : limits.keeps = false) (steps : List Step) {scene : Scene}
    (hempty : scene.cache = .empty) :
    (after limits steps scene).cache = .empty ∧ calls limits steps scene = asked steps := by
  induction steps generalizing scene with
  | nil => exact ⟨hempty, rfl⟩
  | cons step rest ih =>
    have hstep : (step.run limits scene).cache = .empty ∧ step.calls limits scene = step.isGet := by
      cases step with
      | get role =>
        rw [Step.run, Step.calls, scene.ask_of_not_keeps hno]
        exact ⟨hempty, rfl⟩
      | advance seconds => exact ⟨hempty, rfl⟩
      | invalidate role => exact ⟨congrArg (Cache.invalidate role) hempty, rfl⟩
      | invalidateAll => exact ⟨congrArg Cache.invalidateAll hempty, rfl⟩
      | change lookup => exact ⟨hempty, rfl⟩
    obtain ⟨hafter, hcalls⟩ := ih hstep.1
    exact ⟨hafter, by rw [calls, asked, List.countP_cons, hcalls, hstep.2, asked]⟩

/-- **A cache keeps its books** about what was asked of it and how often the lookup was called. -/
structure Scene.Accounted (limits : CacheLimits) (scene : Scene) (asked called : Nat) : Prop where
  /-- It has no more entries than places. -/
  size_le : scene.cache.entries.length ≤ limits.maxEntries
  /-- Every step that asked is counted. -/
  counted : scene.cache.hits + scene.cache.misses = asked
  /-- Every call of the lookup is a miss, and nothing else is. -/
  missed : scene.cache.misses = called
  /-- An answer evicts at most one role. -/
  evicts_one : ∀ role victim victim', scene.Evicts limits role victim →
    scene.Evicts limits role victim' → victim = victim'
  /-- It evicts none where the role that is asked for has an entry. -/
  evicts_none : ∀ role, (scene.cache.entry? role).isSome → ∀ victim, ¬ scene.Evicts limits role victim
  /-- A failed lookup changes no entry, and it is told. -/
  failed : ∀ role cause, (scene.ask limits role).called = true → scene.lookup role = .error cause →
    (scene.ask limits role).cache.entries = scene.cache.entries ∧
      ∃ fault, (scene.ask limits role).outcome = .error fault ∧ ToldAs role cause fault

/-- **In any run that begins with an empty cache**, the cache keeps its books if it has a validity and a place
or more.  Without a validity nothing is ever kept or counted, and the lookup is called each time. -/
theorem accounted_after (hempty : start.cache = .empty) (steps : List Step) :
    (limits.keeps = true → 1 ≤ limits.maxEntries →
      (after limits steps start).Accounted limits (asked steps) (calls limits steps start)) ∧
    (limits.keeps = false →
      (after limits steps start).cache = .empty ∧ calls limits steps start = asked steps ∧
      ∀ role, ((after limits steps start).ask limits role).called = true) := by
  constructor
  · intro hkeeps hroom
    obtain ⟨hcounted, hmissed⟩ := counted_after hroom hkeeps steps start
    have hsize : start.cache.roles.length ≤ limits.maxEntries := by
      rw [hempty]
      exact zero_le_one.trans hroom
    have hbounded := size_le_after hroom hsize steps
    rw [roles, List.length_map] at hbounded
    rw [hempty] at hcounted hmissed
    exact {
      size_le := hbounded
      counted := hcounted.trans (Nat.zero_add _)
      missed := hmissed.trans (Nat.zero_add _)
      evicts_one := fun _ _ _ h h' => h.unique hroom h'
      evicts_none := fun _ hentry _ => Scene.not_evicts_of_entry hroom hentry
      failed := fun role _ => (Scene.answered hroom _ role).of_failed }
  · intro hno
    obtain ⟨hnothing, hcalls⟩ := nothing_kept_after hno steps hempty
    exact ⟨hnothing, hcalls, fun role => by rw [Scene.ask_of_not_keeps hno]⟩

/-- The lookup does not find the whitelist of one role. -/
def patchyScene : Scene :=
  ⟨.empty, 0, fun role => if role = "x" then .error (.other .connection "down") else .ok []⟩

/-- A hit, a failed lookup, and more roles than places. -/
def threeRoles : List Step := [.get "a", .get "a", .get "x", .get "b", .get "c"]

/-- Nothing is kept. -/
def noTime : CacheLimits := ⟨.ofInt 0, 2⟩

theorem threeRoles_counted :
    patchyScene.cache = .empty ∧ twoPlaces.keeps = true ∧ 1 ≤ twoPlaces.maxEntries ∧
    noTime.keeps = false ∧
    (after twoPlaces threeRoles patchyScene).cache.entries.length ≤ twoPlaces.maxEntries ∧
    (after twoPlaces threeRoles patchyScene).cache.hits
        + (after twoPlaces threeRoles patchyScene).cache.misses = 5 ∧
    (after twoPlaces threeRoles patchyScene).cache.misses = 4 ∧
    (∃ fault, ((after twoPlaces threeRoles patchyScene).ask twoPlaces "x").outcome = .error fault ∧
      ToldAs "x" (.other .connection "down") fault) ∧
    (after noTime threeRoles patchyScene).cache = .empty ∧ calls noTime threeRoles patchyScene = 5 := by
  have hempty : patchyScene.cache = .empty := rfl
  have hkeeps : twoPlaces.keeps = true := by decide +kernel
  have hno : noTime.keeps = false := by decide +kernel
  have hbooks := (accounted_after hempty threeRoles).1 hkeeps (by decide)
  obtain ⟨-, htold⟩ := hbooks.failed "x" (.other .connection "down") (by decide +kernel) rfl
  obtain ⟨hnothing, hcalls, -⟩ := (accounted_after hempty threeRoles).2 hno
  have hcalled : calls twoPlaces threeRoles patchyScene = 4 := by decide +kernel
  exact ⟨hempty, hkeeps, by decide, hno, hbooks.size_le, hbooks.counted, hbooks.missed.trans hcalled, htold,
    hnothing, hcalls⟩

end AuditTrail.Cache
