import Mathlib.Algebra.Order.Ring.Rat
import Mathlib.Data.NNRat.Defs
import AuditTrail.Proofs.Lookup
import AuditTrail.Proofs.Outcome
import AuditTrail.Whitelist.Cache

/-!
# Proofs/Whitelist/Caching — what a cache does with each call

    get ──kept, not expired──▸ the kept whitelist
     └──otherwise──▸ lookup ──▸ kept, in place of the first entry where the cache is full
                        └──fails──▸ nothing is kept

A cache answers in one of four ways (`answered_get`).  An entry that a step leaves in the cache was there
before and the step does not invalidate it, or the step has just loaded it (`entry?_run`).
-/

namespace AuditTrail.Cache

/-! ## Keeping entries -/

section Keeping

variable {limits : CacheLimits} {role other : String} {entry : CacheEntry}
  {entries : List (String × CacheEntry)}

/-- The entry of a role is exchanged for another one. -/
theorem lookup_exchanged : (entries.map fun e => if e.1 == role then (role, entry) else e).lookup other
    = if other = role then (entries.lookup role).map fun _ => entry else entries.lookup other := by
  induction entries with
  | nil => split <;> rfl
  | cons e rest ih =>
    obtain ⟨key, old⟩ := e
    rw [List.map_cons]
    by_cases hkey : key = role
    · subst hkey
      rw [if_pos (beq_iff_eq.mpr rfl), List.lookup_cons_self]
      by_cases hsame : other = key
      · rw [if_pos hsame, hsame, List.lookup_cons_self, Option.map_some]
      · rw [if_neg hsame] at ih ⊢
        rw [List.lookup_cons, List.lookup_cons, beq_eq_false_iff_ne.mpr hsame, ih]
    · rw [if_neg (mt beq_iff_eq.mp hkey), List.lookup_cons, List.lookup_cons, List.lookup_cons, ih,
        beq_eq_false_iff_ne.mpr (Ne.symm hkey)]
      by_cases hsame : other = role
      · rw [if_pos hsame, hsame, beq_eq_false_iff_ne.mpr (Ne.symm hkey), if_pos rfl]
      · rw [if_neg hsame, if_neg hsame]

theorem any_role_iff : entries.any (·.1 == role) = (entries.lookup role).isSome := by
  rw [Bool.eq_iff_iff, List.any_eq_true, lookup_isSome_iff, List.mem_map]
  exact exists_congr fun e => and_congr_right fun _ => beq_iff_eq

/-- **Storing an entry** changes what stands under its role only. -/
theorem lookup_store : (store entries role entry).lookup other
    = if other = role then some entry else entries.lookup other := by
  unfold store
  rw [any_role_iff]
  split
  case isTrue hsome =>
    obtain ⟨old, hold⟩ := Option.isSome_iff_exists.mp hsome
    rw [lookup_exchanged, hold, Option.map_some]
  case isFalse hnone =>
    have hnone : entries.lookup role = none := Option.not_isSome_iff_eq_none.mp hnone
    rw [List.lookup_append]
    by_cases hsame : other = role
    · rw [if_pos hsame, hsame, hnone, Option.none_or, List.lookup_cons_self]
    · rw [if_neg hsame, List.lookup_cons, beq_eq_false_iff_ne.mpr hsame, List.lookup_nil, Option.or_none]

/-- An entry is stored in the place of its role, and a new role comes last. -/
theorem map_fst_store : (store entries role entry).map (·.1)
    = if role ∈ entries.map (·.1) then entries.map (·.1) else entries.map (·.1) ++ [role] := by
  unfold store
  simp only [any_role_iff, lookup_isSome_iff]
  split
  case isTrue =>
    rw [List.map_map]
    refine List.map_congr_left fun e _ => ?_
    rw [Function.comp_apply]
    split
    case isTrue hrole => exact (beq_iff_eq.mp hrole).symm
    case isFalse => rfl
  case isFalse => rw [List.map_append, List.map_singleton]

/-- The roles stay apart. -/
theorem nodup_store (h : (entries.map (·.1)).Nodup) : ((store entries role entry).map (·.1)).Nodup := by
  rw [map_fst_store]
  split
  case isTrue => exact h
  case isFalse hnew =>
    refine List.nodup_append.mpr ⟨h, List.nodup_singleton role, fun a ha b hb heq => hnew ?_⟩
    exact heq.trans (List.mem_singleton.mp hb) ▸ ha

/-- **Room for a role**: all entries stay where there is a place left or the role has one, and the first one
goes where the cache is full and the role is new. -/
def MakesRoom (limits : CacheLimits) (role : String) (entries rest : List (String × CacheEntry)) : Prop :=
  rest = entries ∧ (entries.length < limits.maxEntries ∨ (entries.lookup role).isSome) ∨
    ∃ first, entries = first :: rest ∧ limits.maxEntries ≤ entries.length ∧ entries.lookup role = none

/-- **A cache for one role or more** can keep every entry. -/
theorem exists_keep? (hroom : 1 ≤ limits.maxEntries) (role : String) (entry : CacheEntry)
    (entries : List (String × CacheEntry)) :
    ∃ rest, MakesRoom limits role entries rest ∧
      keep? limits role entry entries = some (store rest role entry) := by
  unfold keep?
  rw [any_role_iff]
  split
  case isFalse hplace =>
    rw [Bool.and_eq_true, decide_eq_true_iff, Bool.not_eq_true', Bool.eq_false_iff, not_and_or, not_le,
      not_not] at hplace
    exact ⟨entries, .inl ⟨rfl, hplace⟩, rfl⟩
  case isTrue hfull =>
    rw [Bool.and_eq_true, decide_eq_true_iff, Bool.not_eq_true', Option.isSome_eq_false_iff,
      Option.isNone_iff_eq_none] at hfull
    cases entries with
    | nil => exact absurd (hroom.trans hfull.1) (by decide)
    | cons first rest => exact ⟨rest, .inr ⟨first, rfl, hfull⟩, rfl⟩

theorem MakesRoom.nodup {rest : List (String × CacheEntry)} (h : MakesRoom limits role entries rest)
    (hroles : (entries.map (·.1)).Nodup) : (rest.map (·.1)).Nodup := by
  rcases h with ⟨rfl, -⟩ | ⟨first, rfl, -⟩
  · exact hroles
  · exact (List.nodup_cons.mp hroles).2

/-- What stands under another role stood there before. -/
theorem MakesRoom.lookup_eq_some {rest : List (String × CacheEntry)}
    (h : MakesRoom limits role entries rest) (hroles : (entries.map (·.1)).Nodup)
    (hentry : rest.lookup other = some entry) : entries.lookup other = some entry := by
  rcases h with ⟨rfl, -⟩ | ⟨first, rfl, -⟩
  · exact hentry
  · have hdrop := lookup_drop hroles 1 other
    rw [List.drop_one, List.tail_cons, hentry] at hdrop
    split at hdrop
    · cases hdrop
    · exact hdrop.symm

end Keeping

/-! ## Answers -/

variable {limits : CacheLimits} {now : Rat} {role other : String} {loaded : Except Fault Whitelist}
  {c : Cache} {entry : CacheEntry}

/-- **The four ways in which a cache answers**: without keeping anything, with an entry that is not
expired, with the failure of the lookup, or with the whitelist that the lookup gave, which it keeps. -/
inductive Answered (limits : CacheLimits) (now : Rat) (role : String) (loaded : Except Fault Whitelist)
    (c : Cache) : CacheAnswer → Prop
  | through (hkeeps : limits.keeps = false) :
    Answered limits now role loaded c ⟨loaded.mapError (asLookupFault role), true, c⟩
  | hit (entry : CacheEntry) (hkeeps : limits.keeps = true) (hentry : c.entry? role = some entry)
    (hvalid : entry.isExpired limits now = false) :
    Answered limits now role loaded c ⟨.ok entry.whitelist, false, { c with hits := c.hits + 1 }⟩
  | failed (fault : Fault) (hkeeps : limits.keeps = true) (hstale : c.fresh? limits now role = none)
    (hloaded : loaded = .error fault) :
    Answered limits now role loaded c
      ⟨.error (asLookupFault role fault), true, { c with misses := c.misses + 1 }⟩
  | missed (w : Whitelist) (rest : List (String × CacheEntry)) (hkeeps : limits.keeps = true)
    (hstale : c.fresh? limits now role = none) (hloaded : loaded = .ok w)
    (hrest : MakesRoom limits role c.entries rest) :
    Answered limits now role loaded c ⟨.ok w, true, ⟨store rest role ⟨w, now⟩, c.hits, c.misses + 1⟩⟩

/-- **A cache for one role or more answers** in one of these ways. -/
theorem answered_get (hroom : 1 ≤ limits.maxEntries) (now : Rat) (role : String)
    (loaded : Except Fault Whitelist) (c : Cache) :
    Answered limits now role loaded c (c.get limits now role loaded) := by
  unfold get
  rcases hkeeps : limits.keeps with _ | _
  case false => exact .through hkeeps
  rcases hfresh : c.fresh? limits now role with _ | entry
  case some =>
    obtain ⟨hentry, hvalid⟩ := Option.filter_eq_some_iff.mp hfresh
    rw [Bool.not_eq_true'] at hvalid
    exact .hit entry hkeeps hentry hvalid
  case none =>
    rcases loaded with fault | w
    · exact .failed fault hkeeps hfresh rfl
    · obtain ⟨rest, hrest, hkeep⟩ := exists_keep? hroom role ⟨w, now⟩ c.entries
      dsimp only
      rw [Bool.not_true, if_neg Bool.false_ne_true, hkeep]
      exact .missed w rest hkeeps hfresh rfl hrest

/-- **No role has two entries.** -/
def HasDistinctRoles (c : Cache) : Prop := (c.entries.map (·.1)).Nodup

theorem Answered.hasDistinctRoles {answer : CacheAnswer} (h : Answered limits now role loaded c answer)
    (hroles : c.HasDistinctRoles) : answer.cache.HasDistinctRoles := by
  cases h with
  | through => exact hroles
  | hit => exact hroles
  | failed => exact hroles
  | missed w rest _ _ _ hrest => exact nodup_store (hrest.nodup hroles)

/-- **An entry after an answer** was there before, or it was loaded for the answer. -/
theorem Answered.entry?_eq_some {answer : CacheAnswer} (h : Answered limits now role loaded c answer)
    (hroles : c.HasDistinctRoles) (hentry : answer.cache.entry? other = some entry) :
    c.entry? other = some entry ∨
      other = role ∧ answer.called = true ∧ loaded = .ok entry.whitelist ∧ entry.loadedAt = now := by
  cases h with
  | through => exact .inl hentry
  | hit => exact .inl hentry
  | failed => exact .inl hentry
  | missed w rest _ _ hloaded hrest =>
    have hstored : (if other = role then some ⟨w, now⟩ else rest.lookup other) = some entry :=
      lookup_store.symm.trans hentry
    split at hstored
    case isTrue hsame =>
      obtain rfl := Option.some.inj hstored
      exact .inr ⟨hsame, rfl, hloaded, rfl⟩
    case isFalse => exact .inl (hrest.lookup_eq_some hroles hstored)

/-! ## Steps -/

/-- **What happens around a cache**: a role is asked for, time passes, entries are given up, or the lookup
gives something else from now on — because what it reads was changed, or it fails, or it fails no
longer. -/
inductive Step
  | get (role : String)
  | advance (seconds : ℚ≥0)
  | invalidate (role : String)
  | invalidateAll
  | change (lookup : String → Except Fault Whitelist)

/-- The step gives up the entry of a role. -/
def Step.Invalidates (role : String) : Step → Prop
  | invalidate other => other = role
  | invalidateAll => True
  | _ => False

/-- **A cache, the time, and what the lookup gives.** -/
structure Scene where
  cache : Cache
  now : Rat
  lookup : String → Except Fault Whitelist

section Steps

variable (limits : CacheLimits)

/-- The answer for a role. -/
def Scene.ask (scene : Scene) (role : String) : CacheAnswer :=
  scene.cache.get limits scene.now role (scene.lookup role)

/-- **The lookup is called for a role and gives a whitelist.** -/
def Scene.Loads (scene : Scene) (role : String) (w : Whitelist) : Prop :=
  (scene.ask limits role).called = true ∧ scene.lookup role = .ok w

/-- **Taking a step.** -/
def Step.run (scene : Scene) : Step → Scene
  | get role => { scene with cache := (scene.ask limits role).cache }
  | advance seconds => { scene with now := scene.now + seconds }
  | invalidate role => { scene with cache := scene.cache.invalidate role }
  | invalidateAll => { scene with cache := scene.cache.invalidateAll }
  | change lookup => { scene with lookup := lookup }

/-- The scene after some steps. -/
def after (steps : List Step) (scene : Scene) : Scene :=
  steps.foldl (fun scene step => step.run limits scene) scene

end Steps

variable {scene : Scene} {steps : List Step} {step : Step}

theorem Scene.answered (hroom : 1 ≤ limits.maxEntries) (scene : Scene) (role : String) :
    Answered limits scene.now role (scene.lookup role) scene.cache (scene.ask limits role) :=
  answered_get hroom scene.now role (scene.lookup role) scene.cache

theorem after_concat : after limits (steps ++ [step]) scene = step.run limits (after limits steps scene) :=
  List.foldl_concat _ _ _ _

/-- Time does not go back. -/
theorem now_le_run : scene.now ≤ (step.run limits scene).now := by
  cases step with
  | advance seconds => exact le_add_of_nonneg_right seconds.2
  | _ => exact le_rfl

theorem hasDistinctRoles_run (hroom : 1 ≤ limits.maxEntries) (h : scene.cache.HasDistinctRoles) :
    (step.run limits scene).cache.HasDistinctRoles := by
  cases step with
  | get role => exact (scene.answered hroom role).hasDistinctRoles h
  | advance seconds => exact h
  | invalidate role => exact h.sublist ((List.filter_sublist).map _)
  | invalidateAll => exact List.nodup_nil
  | change lookup => exact h

/-- **An entry after a step** was there before and is not invalidated, or the step loaded it. -/
theorem entry?_run (hroom : 1 ≤ limits.maxEntries) (hroles : scene.cache.HasDistinctRoles)
    (hentry : (step.run limits scene).cache.entry? role = some entry) :
    scene.cache.entry? role = some entry ∧ ¬ step.Invalidates role ∨
      step = .get role ∧ scene.Loads limits role entry.whitelist ∧ entry.loadedAt = scene.now := by
  cases step with
  | get other =>
    rcases (scene.answered hroom other).entry?_eq_some hroles hentry with hbefore | ⟨rfl, hloaded⟩
    · exact .inl ⟨hbefore, id⟩
    · exact .inr ⟨rfl, ⟨hloaded.1, hloaded.2.1⟩, hloaded.2.2⟩
  | advance seconds => exact .inl ⟨hentry, id⟩
  | change lookup => exact .inl ⟨hentry, id⟩
  | invalidateAll => cases hentry
  | invalidate other =>
    have hpass : (if (role != other) = true then scene.cache.entries.lookup role else none) = some entry :=
      (lookup_filter (· != other) _ _).symm.trans hentry
    split at hpass
    case isTrue hother => exact .inl ⟨hpass, fun hsame => bne_iff_ne.mp hother hsame.symm⟩
    case isFalse => cases hpass

end AuditTrail.Cache
