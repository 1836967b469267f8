import Mathlib.Data.Nat.SuccPred
import Mathlib.Order.SuccPred.Archimedean
import AuditTrail.Proofs.Whitelist.Freshness

/-!
# Proofs/Whitelist/Eviction — which entry makes room

    arrival of a ── arrival of b ── load of b ── load of a, in its place ── get c: a goes

The roles of a cache stand in the order in which they came (`ordered_after`): a new one comes last, and one
that is loaded again stays where it is.  A full cache gives up the first, so the role that goes is the one
that came first.  It is also the one whose load is the oldest exactly when each load in its place was
followed by one of every other role (`evicted_arrived_first`).
-/

namespace AuditTrail.Cache

/-! ## Roles -/

/-- The roles that have an entry, in order. -/
def roles (c : Cache) : List String := c.entries.map (·.1)

variable {limits : CacheLimits} {now : Rat} {role victim other : String} {loaded : Except Fault Whitelist}
  {c : Cache} {start scene : Scene} {steps : List Step} {step : Step} {n : Nat}

theorem entry?_isSome_iff : (c.entry? role).isSome ↔ role ∈ c.roles := lookup_isSome_iff

/-- **The roles after an answer**: those from before, or those that stay and then the role that was loaded,
which was new.  Those that stay are all where a place is left, and all but the first in a full cache. -/
theorem Answered.roles_cases {answer : CacheAnswer} (h : Answered limits now role loaded c answer) :
    answer.cache.roles = c.roles ∨
      ∃ rest, answer.cache.roles = rest ++ [role] ∧ role ∉ c.roles ∧ answer.called = true ∧
        (∃ w, loaded = .ok w) ∧
        (c.roles = rest ∧ c.roles.length < limits.maxEntries ∨
          ∃ first, c.roles = first :: rest ∧ limits.maxEntries ≤ c.roles.length) := by
  cases h with
  | through => exact .inl rfl
  | hit => exact .inl rfl
  | failed => exact .inl rfl
  | missed w rest hkeeps hstale hloaded hrest =>
    have hstored : (store rest role ⟨w, now⟩).map (·.1) = _ := map_fst_store
    rcases hrest with ⟨rfl, hplace⟩ | ⟨first, hentries, hfull, hnew⟩
    · by_cases hthere : role ∈ c.roles
      · exact .inl (hstored.trans (if_pos hthere))
      · have hleft := hplace.resolve_right (mt entry?_isSome_iff.mp hthere)
        refine .inr ⟨_, hstored.trans (if_neg hthere), hthere, rfl, ⟨w, hloaded⟩, .inl ⟨rfl, ?_⟩⟩
        rwa [roles, List.length_map]
    · have hroles : c.roles = first.1 :: rest.map (·.1) := by
        rw [roles, hentries, List.map_cons]
      have hnew : role ∉ c.roles := lookup_eq_none_iff.mp hnew
      have hrest : role ∉ rest.map (·.1) := fun hmem => hnew (hroles ▸ List.mem_cons_of_mem _ hmem)
      refine .inr ⟨_, hstored.trans (if_neg hrest), hnew, rfl, ⟨w, hloaded⟩, .inr ⟨_, hroles, ?_⟩⟩
      rwa [roles, List.length_map]

/-- **Asking for a role evicts another one**: its entry is there before and gone afterwards. -/
def Scene.Evicts (limits : CacheLimits) (scene : Scene) (role victim : String) : Prop :=
  victim ∈ scene.cache.roles ∧ victim ∉ (scene.ask limits role).cache.roles

/-- **What is evicted is the first entry**, for a role that is new in a full cache. -/
theorem Scene.Evicts.first (hroom : 1 ≤ limits.maxEntries) (h : scene.Evicts limits role victim) :
    ∃ rest, scene.cache.roles = victim :: rest ∧ role ∉ scene.cache.roles ∧
      limits.maxEntries ≤ scene.cache.roles.length := by
  obtain ⟨hbefore, hgone⟩ := h
  rcases (scene.answered hroom role).roles_cases with hsame | ⟨rest, hafter, hnew, -, -, hrest⟩
  · exact absurd (hsame ▸ hbefore) hgone
  · rw [hafter, List.mem_append, not_or] at hgone
    rcases hrest with ⟨hrest, -⟩ | ⟨first, hrest, hfull⟩
    · exact absurd (hrest ▸ hbefore) hgone.1
    · have hfirst : victim = first := by
        rw [hrest] at hbefore
        exact (List.mem_cons.mp hbefore).resolve_right hgone.1
      exact ⟨rest, hfirst ▸ hrest, hnew, hfull⟩

/-- An answer evicts at most one role. -/
theorem Scene.Evicts.unique (hroom : 1 ≤ limits.maxEntries) (h : scene.Evicts limits role victim)
    (h' : scene.Evicts limits role other) : victim = other := by
  obtain ⟨rest, hroles, -⟩ := h.first hroom
  obtain ⟨rest', hroles', -⟩ := h'.first hroom
  exact (List.cons.inj (hroles.symm.trans hroles')).1

/-- A role that has an entry needs no room. -/
theorem Scene.not_evicts_of_entry (hroom : 1 ≤ limits.maxEntries)
    (hentry : (scene.cache.entry? role).isSome) : ¬ scene.Evicts limits role victim := by
  intro h
  obtain ⟨-, -, hnew, -⟩ := h.first hroom
  exact hnew (entry?_isSome_iff.mp hentry)

/-- **The roles after a step** are some of those from before, and then one that the step has loaded where it
was new. -/
theorem roles_run (hroom : 1 ≤ limits.maxEntries) (step : Step) (scene : Scene) :
    (step.run limits scene).cache.roles.Sublist scene.cache.roles ∨
      ∃ role rest w, step = .get role ∧ scene.Loads limits role w ∧ role ∉ scene.cache.roles ∧
        rest.Sublist scene.cache.roles ∧ (step.run limits scene).cache.roles = rest ++ [role] := by
  cases step with
  | get role =>
    rcases (scene.answered hroom role).roles_cases with
      hsame | ⟨rest, hafter, hnew, hcalled, ⟨w, hloaded⟩, hrest⟩
    · exact .inl (hsame ▸ .refl _)
    · refine .inr ⟨role, rest, w, rfl, ⟨hcalled, hloaded⟩, hnew, ?_, hafter⟩
      rcases hrest with ⟨hrest, -⟩ | ⟨first, hrest, -⟩
      · exact hrest ▸ .refl _
      · exact hrest ▸ List.sublist_cons_self first rest
  | advance seconds => exact .inl (.refl _)
  | invalidate role => exact .inl (List.filter_sublist.map _)
  | invalidateAll => exact .inl (List.nil_sublist _)
  | change lookup => exact .inl (.refl _)

/-! ## Loads, by their place in the run -/

/-- **The places of a run** at which it asks for a role in a scene of some kind. -/
def asksIn (limits : CacheLimits) (start : Scene) (steps : List Step) (role : String) (p : Scene → Prop) :
    Set Nat :=
  { n | steps[n]? = some (.get role) ∧ p (after limits (steps.take n) start) }

/-- **The loads of a role.** -/
def loads (limits : CacheLimits) (start : Scene) (steps : List Step) (role : String) : Set Nat :=
  asksIn limits start steps role fun scene => ∃ w, scene.Loads limits role w

/-- **The arrivals of a role**: its loads where it has no entry. -/
def arrivals (limits : CacheLimits) (start : Scene) (steps : List Step) (role : String) : Set Nat :=
  asksIn limits start steps role fun scene =>
    (∃ w, scene.Loads limits role w) ∧ role ∉ scene.cache.roles

/-- **The loads of a role in its place**: those where it has an entry, which is expired. -/
def reloads (limits : CacheLimits) (start : Scene) (steps : List Step) (role : String) : Set Nat :=
  asksIn limits start steps role fun scene =>
    (∃ w, scene.Loads limits role w) ∧ role ∈ scene.cache.roles

/-- **The last of some places is before the last of others.** -/
def LastBefore (places others : Set Nat) : Prop :=
  ∃ m n, IsGreatest places m ∧ IsGreatest others n ∧ m < n

theorem lt_of_mem_asksIn {p : Scene → Prop} (h : n ∈ asksIn limits start steps role p) :
    n < steps.length := (List.getElem?_eq_some_iff.mp h.1).1

/-- **One step more**: the places so far, and the last one if the step asks for the role. -/
theorem mem_asksIn_concat {p : Scene → Prop} : n ∈ asksIn limits start (steps ++ [step]) role p ↔
    n ∈ asksIn limits start steps role p ∨
      n = steps.length ∧ step = .get role ∧ p (after limits steps start) := by
  rcases Nat.lt_trichotomy n steps.length with hlt | rfl | hgt
  · simp [asksIn, List.getElem?_append_left hlt, List.take_append_of_le_length hlt.le, hlt.ne]
  · simp [asksIn]
  · have hlength : (steps ++ [step]).length ≤ n := by simpa using Nat.succ_le_of_lt hgt
    simp [asksIn, List.getElem?_eq_none hlength, List.getElem?_eq_none hgt.le, hgt.ne']

theorem asksIn_concat_of_not {p : Scene → Prop} (h : step = .get role → ¬ p (after limits steps start)) :
    asksIn limits start (steps ++ [step]) role p = asksIn limits start steps role p := by
  ext n
  rw [mem_asksIn_concat]
  exact or_iff_left fun hlast => h hlast.2.1 hlast.2.2

/-- The place of a last step that asks for the role is the last one. -/
theorem isGreatest_asksIn_concat {p : Scene → Prop} (h : p (after limits steps start)) :
    IsGreatest (asksIn limits start (steps ++ [.get role]) role p) steps.length := by
  refine ⟨mem_asksIn_concat.mpr (.inr ⟨rfl, rfl, h⟩), fun n hn => ?_⟩
  have hlt := lt_of_mem_asksIn hn
  rw [List.length_append, List.length_singleton] at hlt
  exact Nat.le_of_lt_succ hlt

theorem exists_isGreatest_asksIn {p : Scene → Prop} (h : (asksIn limits start steps role p).Nonempty) :
    ∃ n, IsGreatest (asksIn limits start steps role p) n :=
  BddAbove.exists_isGreatest_of_nonempty ⟨steps.length, fun _ hn => (lt_of_mem_asksIn hn).le⟩ h

/-- A load is an arrival or it is in place. -/
theorem mem_loads_iff : n ∈ loads limits start steps role ↔
    n ∈ arrivals limits start steps role ∨ n ∈ reloads limits start steps role := by
  simp only [loads, arrivals, reloads, asksIn, Set.mem_ofPred_eq, ← and_or_left]
  rw [and_iff_left (Decidable.em _).symm]

/-! ## The order of arrival -/

/-- **The roles of a cache stand in the order in which they came.** -/
structure Ordered (limits : CacheLimits) (start : Scene) (steps : List Step) : Prop where
  arrived : ∀ role ∈ (after limits steps start).cache.roles,
    ∃ n, IsGreatest (arrivals limits start steps role) n
  pairwise : (after limits steps start).cache.roles.Pairwise fun first second =>
    LastBefore (arrivals limits start steps first) (arrivals limits start steps second)

/-- A role that is in the cache does not arrive. -/
theorem arrivals_concat (h : role ∈ (after limits steps start).cache.roles) :
    arrivals limits start (steps ++ [step]) role = arrivals limits start steps role :=
  asksIn_concat_of_not fun _ harrives => harrives.2 h

theorem ordered_concat (hroom : 1 ≤ limits.maxEntries) (h : Ordered limits start steps) (step : Step) :
    Ordered limits start (steps ++ [step]) := by
  -- The roles that stay have arrived before, in the same order.
  have hstay {rest : List String} (hrest : rest.Sublist (after limits steps start).cache.roles) :
      (∀ role ∈ rest, ∃ n, IsGreatest (arrivals limits start (steps ++ [step]) role) n) ∧
        rest.Pairwise fun first second => LastBefore (arrivals limits start (steps ++ [step]) first)
          (arrivals limits start (steps ++ [step]) second) := by
    constructor
    · intro role hrole
      rw [arrivals_concat (hrest.subset hrole)]
      exact h.arrived role (hrest.subset hrole)
    · refine (h.pairwise.sublist hrest).imp_of_mem fun hfirst hsecond hbefore => ?_
      rwa [arrivals_concat (hrest.subset hfirst), arrivals_concat (hrest.subset hsecond)]
  rcases roles_run hroom step (after limits steps start) with
    hsub | ⟨role, rest, w, rfl, hloads, hnew, hrest, hafter⟩
  · rw [← after_concat] at hsub
    exact ⟨(hstay hsub).1, (hstay hsub).2⟩
  · rw [← after_concat] at hafter
    obtain ⟨harrived, hpairwise⟩ := hstay hrest
    have hlast : IsGreatest (arrivals limits start (steps ++ [.get role]) role) steps.length :=
      isGreatest_asksIn_concat ⟨⟨w, hloads⟩, hnew⟩
    refine ⟨?_, ?_⟩ <;> rw [hafter]
    · exact List.forall_mem_append.mpr ⟨harrived, List.forall_mem_singleton.mpr ⟨_, hlast⟩⟩
    · refine List.pairwise_append.mpr
        ⟨hpairwise, List.pairwise_singleton _ _, fun first hfirst second hsecond => ?_⟩
      obtain rfl := List.mem_singleton.mp hsecond
      obtain ⟨n, hn⟩ := harrived first hfirst
      refine ⟨n, steps.length, hn, hlast, ?_⟩
      have hmem := hn.1
      rw [arrivals_concat (hrest.subset hfirst)] at hmem
      exact lt_of_mem_asksIn hmem

/-- **In a run that begins without entries** the roles stand in the order in which they came. -/
theorem ordered_after (hroom : 1 ≤ limits.maxEntries) (hempty : start.cache = .empty) (steps : List Step) :
    Ordered limits start steps := by
  induction steps using List.reverseRecOn with
  | nil =>
    have hroles : (after limits [] start).cache.roles = [] := by rw [after, List.foldl_nil, hempty]; rfl
    refine ⟨?_, ?_⟩ <;> rw [hroles]
    · exact List.forall_mem_nil _
    · exact .nil
  | append_singleton steps step ih => exact ordered_concat hroom ih step

/-- **Of two roles that came one after the other**, the first is also the one whose last load is older exactly
when each of its loads in place was followed by a load of the second. -/
theorem lastBefore_loads_iff
    (h : LastBefore (arrivals limits start steps role) (arrivals limits start steps other)) :
    LastBefore (loads limits start steps role) (loads limits start steps other) ↔
      ∀ m ∈ reloads limits start steps role, ∃ n ∈ loads limits start steps other, m < n := by
  obtain ⟨came, othersCame, hcame, hothersCame, hlt⟩ := h
  constructor
  · rintro ⟨m, n, hm, hn, hlt⟩ k hk
    exact ⟨n, hn.1, (hm.2 (mem_loads_iff.mpr (.inr hk))).trans_lt hlt⟩
  · intro hfollowed
    have hothersLoad := mem_loads_iff.mpr (.inl hothersCame.1)
    obtain ⟨m, hm⟩ := exists_isGreatest_asksIn ⟨came, mem_loads_iff.mpr (.inl hcame.1)⟩
    obtain ⟨n, hn⟩ := exists_isGreatest_asksIn ⟨othersCame, hothersLoad⟩
    refine ⟨m, n, hm, hn, ?_⟩
    rcases mem_loads_iff.mp hm.1 with harrival | hreload
    · exact (hcame.2 harrival).trans_lt (hlt.trans_le (hn.2 hothersLoad))
    · obtain ⟨k, hk, hmk⟩ := hfollowed m hreload
      exact hmk.trans_le (hn.2 hk)

/-- **The evicted role came before every other one**, and it is the one whose last load is the oldest exactly
when each of its loads in place was followed by a load of the other. -/
theorem evicted_arrived_first (hroom : 1 ≤ limits.maxEntries) (hempty : start.cache = .empty)
    (h : (after limits steps start).Evicts limits role victim) :
    ∀ other ∈ (after limits steps start).cache.roles, other ≠ victim →
      LastBefore (arrivals limits start steps victim) (arrivals limits start steps other) ∧
      (LastBefore (loads limits start steps victim) (loads limits start steps other) ↔
        ∀ m ∈ reloads limits start steps victim, ∃ n ∈ loads limits start steps other, m < n) := by
  intro other hother hne
  obtain ⟨rest, hroles, -, -⟩ := h.first hroom
  have hpairwise := (ordered_after hroom hempty steps).pairwise
  rw [hroles] at hother hpairwise
  have hbefore := List.rel_of_pairwise_cons hpairwise ((List.mem_cons.mp hother).resolve_left hne)
  exact ⟨hbefore, lastBefore_loads_iff hbefore⟩

/-- Two places, for two seconds. -/
def twoPlaces : CacheLimits := ⟨.ofInt 2, 2⟩

/-- Every role has a whitelist, which is empty. -/
def blankScene : Scene := ⟨.empty, 0, fun _ => .ok []⟩

/-- Both roles are loaded again, in the order in which they came. -/
def reloadedInTurn : List Step := [.get "a", .get "b", .advance 3, .get "a", .get "b"]

theorem evicted_in_turn :
    1 ≤ twoPlaces.maxEntries ∧ blankScene.cache = .empty ∧
    (after twoPlaces reloadedInTurn blankScene).Evicts twoPlaces "c" "a" ∧
    "b" ∈ (after twoPlaces reloadedInTurn blankScene).cache.roles ∧
    LastBefore (arrivals twoPlaces blankScene reloadedInTurn "a")
      (arrivals twoPlaces blankScene reloadedInTurn "b") ∧
    LastBefore (loads twoPlaces blankScene reloadedInTurn "a")
      (loads twoPlaces blankScene reloadedInTurn "b") := by
  have hevicts : (after twoPlaces reloadedInTurn blankScene).Evicts twoPlaces "c" "a" :=
    ⟨by decide +kernel, by decide +kernel⟩
  have hother : "b" ∈ (after twoPlaces reloadedInTurn blankScene).cache.roles := by decide +kernel
  obtain ⟨harrivals, hloads⟩ :=
    evicted_arrived_first (by decide) rfl hevicts "b" hother (by decide)
  refine ⟨by decide, rfl, hevicts, hother, harrivals, hloads.mpr fun m hm => ?_⟩
  refine ⟨4, ⟨rfl, [], by decide +kernel, rfl⟩, Nat.lt_of_le_of_ne ?_ ?_⟩
  · exact Nat.le_of_lt_succ (lt_of_mem_asksIn hm)
  · rintro rfl
    exact absurd (Step.get.inj (Option.some.inj hm.1)) (by decide)

/-- The role that came first is loaded again in its place. -/
def reloadedFirst : List Step := [.get "a", .advance 1, .get "b", .advance 2, .get "a"]

/-- What is evicted may have been loaded last. -/
theorem evicted_loaded_last :
    ¬ ∀ (limits : CacheLimits) (start : Scene) (steps : List Step) (role victim other : String),
      1 ≤ limits.maxEntries → start.cache = .empty →
      (after limits steps start).Evicts limits role victim →
      other ∈ (after limits steps start).cache.roles → other ≠ victim →
      LastBefore (loads limits start steps victim) (loads limits start steps other) := by
  intro h
  obtain ⟨m, n, hm, hn, hlt⟩ := h twoPlaces blankScene reloadedFirst "c" "a" "b" (by decide) rfl
    ⟨by decide +kernel, by decide +kernel⟩ (by decide +kernel) (by decide)
  have hlast : 4 ≤ m := hm.2 ⟨rfl, [], by decide +kernel, rfl⟩
  have hlength : n < 5 := lt_of_mem_asksIn hn.1
  omega

end AuditTrail.Cache
