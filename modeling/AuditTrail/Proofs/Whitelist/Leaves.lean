import AuditTrail.Pipeline.Build
import AuditTrail.Proofs.Whitelist.Decision
import AuditTrail.Proofs.Work

/-!
# Proofs/Whitelist/Leaves — a tree of filters is its leaves in turn

        anyOf
       /     \
    listed   anyOf          ──▸   listed, nothing, byRole   asked until one exempts or fails
            /     \
       nothing   byRole

However filters are nested, the decision is that of the leaves from left to right (`exempts_eq_anyM`).
The answers of the leaves settle it: the first that is no refusal is the outcome (`decides_as_leaves`).
So combining filters neither hides a failure nor gets a connection past the leaves that refuse it.
-/

namespace AuditTrail

/-! ## Asking in turn -/

section AnyM

variable {α : Type} {m : Type → Type} [Monad m] [LawfulMonad m] {p : α → m Bool}

theorem anyM_singleton (x : α) : [x].anyM p = p x := by
  refine Eq.trans (bind_congr fun answer => ?_) (bind_pure (p x))
  cases answer <;> rfl

/-- **Two lists in a row** are asked in turn. -/
theorem anyM_append (xs ys : List α) :
    (xs ++ ys).anyM p = xs.anyM p >>= fun found => if found then pure true else ys.anyM p := by
  induction xs with
  | nil => simp [List.anyM]
  | cons x xs ih =>
    rw [List.cons_append, List.anyM, List.anyM, bind_assoc]
    refine bind_congr fun answer => ?_
    cases answer with
    | true => simp
    | false => exact ih

/-- Members that all refuse. -/
theorem anyM_eq_false {xs : List α} (h : ∀ x ∈ xs, p x = pure false) : xs.anyM p = pure false := by
  induction xs with
  | nil => rfl
  | cons x xs ih =>
    obtain ⟨hx, hxs⟩ := List.forall_mem_cons.mp h
    rw [List.anyM, hx, pure_bind]
    exact ih hxs

end AnyM

section Answers

variable {α ε κ : Type}

/-- **The answers of some members**, each asked in the state that the one before it left. -/
def answers (ask : α → ExceptT ε (StateM κ) Bool) : List α → κ → List (Except ε Bool)
  | [], _ => []
  | x :: xs, s => ((ask x).run.run s).1 :: answers ask xs ((ask x).run.run s).2

/-- Asking in turn comes to the answers in turn. -/
theorem run_anyM (ask : α → ExceptT ε (StateM κ) Bool) (xs : List α) (s : κ) :
    ((xs.anyM ask).run.run s).1 = (answers ask xs s).anyM id := by
  induction xs generalizing s with
  | nil => rfl
  | cons x xs ih =>
    rw [List.anyM, run_bind, answers, List.anyM]
    rcases (ask x).run.run s with ⟨_ | _ | _, s'⟩
    · rfl
    · exact ih s'
    · rfl

variable {given : List (Except ε Bool)}

/-- The answers after a refusal. -/
theorem anyM_id_refused (given : List (Except ε Bool)) : (.ok false :: given).anyM id = given.anyM id := rfl

/-- **The outcome is yes** when some answer is, and none before it is a failure. -/
theorem anyM_id_eq_true_iff : given.anyM id = .ok true ↔
    ∃ before after, given = before ++ .ok true :: after ∧ ∀ fault, .error fault ∉ before := by
  induction given with
  | nil => exact iff_of_false nofun (by simp)
  | cons answer given ih =>
    rw [exists_split_cons_iff]
    rcases answer with fault | _ | _
    · refine iff_of_false nofun ?_
      rintro (⟨heq, -⟩ | ⟨before, after, -, hbefore⟩)
      · cases heq
      · exact hbefore fault List.mem_cons_self
    · rw [anyM_id_refused, ih, or_iff_right fun h => nomatch h.1]
      simp only [List.mem_cons, reduceCtorEq, false_or]
    · exact iff_of_true rfl (.inl ⟨rfl, fun _ => List.not_mem_nil⟩)

/-- **The outcome is a failure** when it is an answer, and all before it are refusals. -/
theorem anyM_id_eq_error_iff {fault : ε} : given.anyM id = .error fault ↔
    ∃ before after, given = before ++ .error fault :: after ∧ ∀ answer ∈ before, answer = .ok false := by
  induction given with
  | nil => exact iff_of_false nofun (by simp)
  | cons answer given ih =>
    rw [exists_split_cons_iff]
    rcases answer with _ | _ | _
    · refine ⟨fun h => .inl ⟨h, nofun⟩, ?_⟩
      rintro (⟨heq, -⟩ | ⟨before, after, -, hbefore⟩)
      · exact heq
      · cases hbefore _ List.mem_cons_self
    · rw [anyM_id_refused, ih, or_iff_right fun h => nomatch h.1]
      simp only [List.forall_mem_cons, true_and]
    · refine iff_of_false nofun ?_
      rintro (⟨heq, -⟩ | ⟨before, after, -, hbefore⟩)
      · cases heq
      · cases hbefore _ List.mem_cons_self

/-- **The outcome is a refusal** when every answer is. -/
theorem anyM_id_eq_false_iff : given.anyM id = .ok false ↔ ∀ answer ∈ given, answer = .ok false := by
  induction given with
  | nil => exact iff_of_true rfl nofun
  | cons answer given ih =>
    rw [List.forall_mem_cons, ← ih]
    rcases answer with _ | _ | _
    · exact iff_of_false nofun (fun h => nomatch h.1)
    · exact (and_iff_right rfl).symm
    · exact iff_of_false nofun (fun h => nomatch h.1)

end Answers

/-! ## Leaves -/

namespace Filter

section Leaves

variable {σ : Type} {m : Type → Type} [Monad m] [LawfulMonad m] {ask : σ → Event → m Bool} {e : Event}

mutual

/-- **The decision of a tree is that of its leaves in turn.** -/
theorem exempts_eq_anyM (ask : σ → Event → m Bool) (e : Event) :
    (filter : Filter σ) → filter.exempts ask e = filter.leaves.anyM (·.exempts ask e)
  | .nothing => by rw [leaves, anyM_singleton]; nofun
  | .listed principals => by rw [leaves, anyM_singleton]; nofun
  | .byRole source => by rw [leaves, anyM_singleton]; nofun
  | .anyOf filters => by
    rw [leaves, exempts]
    exact anyExempts_eq_anyM ask e filters

theorem anyExempts_eq_anyM (ask : σ → Event → m Bool) (e : Event) : (filters : List (Filter σ)) →
    anyExempts ask filters e = (filters.flatMap leaves).anyM (·.exempts ask e)
  | [] => rfl
  | filter :: rest => by
    rw [anyExempts, List.flatMap_cons, anyM_append, exempts_eq_anyM ask e filter,
      anyExempts_eq_anyM ask e rest]

end

/-- A leaf is one of the three kinds that are no node. -/
theorem mem_leaves_cases {leaf : Filter σ} : (filter : Filter σ) → leaf ∈ filter.leaves →
    leaf = .nothing ∨ (∃ principals, leaf = .listed principals) ∨ ∃ source, leaf = .byRole source
  | .nothing, h => by
    rw [leaves, List.mem_singleton] at h
    · exact .inl h
    · nofun
  | .listed principals, h => by
    rw [leaves, List.mem_singleton] at h
    · exact .inr (.inl ⟨principals, h⟩)
    · nofun
  | .byRole source, h => by
    rw [leaves, List.mem_singleton] at h
    · exact .inr (.inr ⟨source, h⟩)
    · nofun
  | .anyOf filters, h => by
    rw [leaves, List.mem_flatMap] at h
    obtain ⟨child, _, hleaf⟩ := h
    exact mem_leaves_cases child hleaf

/-- **Without roles no connection is exempt.** -/
theorem exempts_eq_false_of_isConnection {filter : Filter σ} (he : e.resource.isConnection = true)
    (hleaves : ∀ source, .byRole source ∉ filter.leaves) : filter.exempts ask e = pure false := by
  rw [exempts_eq_anyM]
  refine anyM_eq_false fun leaf hleaf => ?_
  rcases mem_leaves_cases filter hleaf with rfl | ⟨principals, rfl⟩ | ⟨source, rfl⟩
  · rfl
  · rw [exempts, isListed, he]
    rfl
  · exact absurd hleaf (hleaves source)

/-- A list beside roles: the list is asked first, and the roles only when it refuses. -/
theorem exempts_listed_byRole (principals : List String) (source : σ) :
    (anyOf [listed principals, byRole source]).exempts ask e
      = if isListed principals e then pure true else ask source e := by
  have hleaves : (anyOf [listed principals, byRole source]).leaves
      = [listed principals, byRole source] := by simp [leaves]
  rw [exempts_eq_anyM, hleaves, List.anyM, exempts, pure_bind]
  cases isListed principals e with
  | true => rfl
  | false => exact anyM_singleton (byRole source)

/-- **The decision where each source has its own roles and whitelists**; `isExempt` is the case in which all
have the same roles. -/
def decides (rolesOf : σ → String → m (List String)) (lookup : σ → String → m Whitelist) (e : Event)
    (filter : Filter σ) : m Bool :=
  filter.exempts (fun source => roleDecision (rolesOf source) (lookup source)) e

end Leaves

/-- The filter of a list and roles. -/
theorem filterTree_staticAndRole {c : Config} (h : c.filter = .staticAndRole) :
    c.filterTree true = .ok (.anyOf [.listed c.whitelist, .byRole ()]) := by
  rw [Config.filterTree, h]
  rfl

/-- **A tree of filters behaves as its leaves in turn.**  It exempts when a leaf does and none before it
fails; it fails with the failure of a leaf when all before it refuse, and it refuses when all leaves do.  So
a tree without roles exempts no connection.  With a list and roles configured, a listed principal is exempt
whatever becomes of the roles, but on the connections the roles alone decide. -/
theorem decides_as_leaves {σ ε κ : Type} (rolesOf : σ → String → ExceptT ε (StateM κ) (List String))
    (lookup : σ → String → ExceptT ε (StateM κ) Whitelist) (filter : Filter σ) (e : Event) (s : κ) :
    filter.decides rolesOf lookup e = filter.leaves.anyM (decides rolesOf lookup e) ∧
    (((filter.decides rolesOf lookup e).run.run s).1 = .ok true ↔ ∃ before after,
      answers (decides rolesOf lookup e) filter.leaves s = before ++ .ok true :: after ∧
        ∀ fault, .error fault ∉ before) ∧
    (∀ fault, ((filter.decides rolesOf lookup e).run.run s).1 = .error fault ↔ ∃ before after,
      answers (decides rolesOf lookup e) filter.leaves s = before ++ .error fault :: after ∧
        ∀ answer ∈ before, answer = .ok false) ∧
    (((filter.decides rolesOf lookup e).run.run s).1 = .ok false ↔
      ∀ answer ∈ answers (decides rolesOf lookup e) filter.leaves s, answer = .ok false) ∧
    (e.resource.isConnection = true → (∀ source, .byRole source ∉ filter.leaves) →
      ((filter.decides rolesOf lookup e).run.run s).1 = .ok false) ∧
    (∀ c : Config, c.filter = .staticAndRole → ∃ tree, c.filterTree true = .ok tree ∧
      ∀ (hostRoles : String → ExceptT ε (StateM κ) (List String))
        (hostLookup : Unit → String → ExceptT ε (StateM κ) Whitelist),
        (e.principal ∈ c.whitelist → e.resource.isConnection = false →
          tree.isExempt hostRoles hostLookup e = pure true) ∧
        (e.resource.isConnection = true →
          tree.isExempt hostRoles hostLookup e = roleDecision hostRoles (hostLookup ()) e)) := by
  have hleaves : filter.decides rolesOf lookup e = filter.leaves.anyM (decides rolesOf lookup e) :=
    exempts_eq_anyM _ e filter
  have hrun : ((filter.decides rolesOf lookup e).run.run s).1
      = (answers (decides rolesOf lookup e) filter.leaves s).anyM id := by rw [hleaves, run_anyM]
  refine ⟨hleaves, ?_, fun fault => ?_, ?_, fun he hnone => ?_, fun c hc => ?_⟩
  · rw [hrun, anyM_id_eq_true_iff]
  · rw [hrun, anyM_id_eq_error_iff]
  · rw [hrun, anyM_id_eq_false_iff]
  · rw [decides, exempts_eq_false_of_isConnection he hnone]
    rfl
  · refine ⟨_, filterTree_staticAndRole hc, fun _ _ => ⟨fun hlisted he => ?_, fun he => ?_⟩⟩
    · rw [isExempt, exempts_listed_byRole, isListed, he, List.contains_iff_mem.mpr hlisted]
      rfl
    · rw [isExempt, exempts_listed_byRole, isListed, he]
      rfl

end Filter

/-- A list, and roles of a source that is down in front of one that is up. -/
def nestedFilter : Filter Bool :=
  .anyOf [.anyOf [.nothing, .listed ["eve"]], .anyOf [.byRole false, .byRole true]]

/-- The roles of a principal, counting the calls; one source is down. -/
def countedRoles (up : Bool) (_ : String) : ExceptT String (StateM Nat) (List String) := do
  modify (· + 1)
  if up then return [] else throw "down"

/-- No role has a whitelist. -/
def noWhitelist {σ : Type} (_ : σ) (_ : String) : ExceptT String (StateM Nat) Whitelist := return []

theorem leaves_nestedFilter :
    nestedFilter.leaves = [.nothing, .listed ["eve"], .byRole false, .byRole true] := by
  simp [nestedFilter, Filter.leaves]

/-- Connecting. -/
def connecting : Event := { readingTable [] with resource := .connections }

/-- A configuration that lists `bob` beside the roles. -/
def listedBob : Config := { Config.default with filter := .staticAndRole, whitelist := ["bob"] }

/-- Reading fails with the source that is down in front; a list refuses connections; `bob` may read while the
roles are down, but connecting is up to them. -/
theorem nestedFilter_decides :
    ((nestedFilter.decides countedRoles noWhitelist (readingTable [])).run.run 0).1 = .error "down" ∧
    (connecting.resource.isConnection = true ∧
      (∀ source : Bool, .byRole source ∉ (Filter.listed ["bob"]).leaves) ∧
      (((Filter.listed ["bob"]).decides countedRoles noWhitelist connecting).run.run 0).1 = .ok false) ∧
    ∃ tree, listedBob.filterTree true = .ok tree ∧
      tree.isExempt (countedRoles false) noWhitelist (readingTable []) = pure true ∧
      ((tree.isExempt (countedRoles false) noWhitelist connecting).run.run 0).1 = .error "down" := by
  have hanswers : answers (Filter.decides countedRoles noWhitelist (readingTable [])) nestedFilter.leaves 0
      = [.ok false, .ok false] ++ .error "down" :: [.ok false] := by
    rw [leaves_nestedFilter]
    rfl
  have hnone : ∀ source : Bool, .byRole source ∉ (Filter.listed ["bob"]).leaves := by
    simp [Filter.leaves]
  obtain ⟨-, -, hfails, -, -, hreads⟩ :=
    Filter.decides_as_leaves countedRoles noWhitelist nestedFilter (readingTable []) 0
  obtain ⟨-, -, -, -, hconnects, hlogsIn⟩ :=
    Filter.decides_as_leaves countedRoles noWhitelist (.listed ["bob"]) connecting 0
  obtain ⟨tree, htree, hexempt⟩ := hreads listedBob rfl
  obtain ⟨tree', htree', hroles⟩ := hlogsIn listedBob rfl
  obtain rfl := Except.ok.inj (htree.symm.trans htree')
  refine ⟨(hfails "down").mpr ⟨_, _, hanswers, by simp⟩, ⟨rfl, hnone, hconnects rfl hnone⟩, tree, htree,
    (hexempt (countedRoles false) noWhitelist).1 (by decide) rfl, ?_⟩
  rw [(hroles (countedRoles false) noWhitelist).2 rfl]
  rfl

end AuditTrail
