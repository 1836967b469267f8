import Mathlib.Data.List.DropRight
import AuditTrail.Proofs.Outcome
import AuditTrail.Proofs.Whitelist.Listing
import AuditTrail.Proofs.Work

/-!
# Proofs/Whitelist/History — the last word on a resource holds

    grant ── revoke ── (refused) ── drop the role ── grant ── revoke ── grant
                                                     └──── since the drop ────┘
                                                                        └ the last word

A change asked of a store is an order or it is refused, whatever the store (`run_eq`), and an order
changes what the store lists where it names the resource only (`lists_carriedOut`).  So after any history
the store lists a resource exactly when the last word on it was a grant (`lists_after_iff`).
-/

namespace AuditTrail

/-- The name of a scope names it. -/
theorem Scope.parse_name (scope : Scope) : Scope.parse scope.name = .ok scope := by
  cases scope with
  | all => rfl
  | only permission => cases permission <;> rfl

namespace Store

/-! ## Changes -/

/-- **A change that is asked of a store.** -/
inductive Change
  | grant (role scope : String) (resources : List Resource)
  | revoke (role scope : String) (resources : List Resource)
  | setOption (role option value : String)
  | drop (role : String)
  deriving DecidableEq, Repr

namespace Change

/-- The work on the store that a change asks for. -/
def work : Change → Work Unit
  | grant role scope resources => Store.grant role scope resources
  | revoke role scope resources => Store.revoke role scope resources
  | setOption role option value => do let _ ← applyOption role option value
  | drop role => modify (·.dropRole role)

/-- **Asking for a change**: the outcome, and the store afterwards. -/
def run (c : Change) (store : Store) : Except WhitelistError Unit × Store := c.work.run.run store

/-- **Why a change is refused**: its option, its scope or its resources cannot be read, or the scope does
not apply to one of the resources that are to be granted.  Dropping a role is never refused. -/
def IsRefused : Change → Prop
  | grant _ scope resources =>
    (∃ error, Scope.parse scope = .error error) ∨
      ∃ s, Scope.parse scope = .ok s ∧ ∃ r ∈ resources, s.applies r = false
  | revoke _ scope _ => ∃ error, Scope.parse scope = .error error
  | setOption _ option value =>
    (∃ error, Action.parseOption option = .error error) ∨ (∃ error, parseResources value = .error error) ∨
      ∃ s resources, Action.parseOption option = .ok (.grant, s) ∧
        parseResources value = .ok resources ∧ ∃ r ∈ resources, s.applies r = false
  | drop _ => False

/-- **What a change says about a resource** under a scope of a role: to grant it, to revoke it, or
nothing.  Options and scopes are meant as they are read. -/
def word (role : String) (scope : Scope) (r : Resource) : Change → Option Action
  | grant role' text resources =>
    if role' = role ∧ (Scope.parse text).toOption = some scope ∧ resources.any (r.same ·) then
      some .grant
    else none
  | revoke role' text resources =>
    if role' = role ∧ (Scope.parse text).toOption = some scope ∧ resources.any (r.same ·) then
      some .revoke
    else none
  | setOption role' option value =>
    match Action.parseOption option, parseResources value with
    | .ok (action, scope'), .ok resources =>
      if role' = role ∧ scope' = scope ∧ resources.any (r.same ·) then some action else none
    | _, _ => none
  | drop _ => none

end Change

/-- The store after a history of changes; a refused change leaves what it did until then. -/
def after (history : List Change) (store : Store) : Store :=
  history.foldl (fun store c => (c.run store).2) store

/-- The change if it is not refused. -/
def unrefused (c : Change) (store : Store) : List Change :=
  match (c.run store).1 with
  | .ok _ => [c]
  | .error _ => []

/-- The changes of a history that are not refused. -/
def returned : List Change → Store → List Change
  | [], _ => []
  | c :: rest, store => unrefused c store ++ returned rest (c.run store).2

/-- **The last word** of some changes on a resource, since the role was dropped. -/
def lastWord (role : String) (scope : Scope) (r : Resource) (changes : List Change) : Option Action :=
  ((changes.rtakeWhile (· ≠ .drop role)).filterMap (Change.word role scope r)).getLast?

/-! ## Orders -/

/-- **A change that has been read**: to put resources under a scope of a role or to take them out, or to
drop the role. -/
inductive Order
  | act (action : Action) (role : String) (scope : Scope) (resources : List Resource)
  | drop (role : String)

namespace Order

/-- The store with an order carried out. -/
def carriedOut (store : Store) : Order → Store
  | act .grant role scope resources => store.added (role, scope) resources
  | act .revoke role scope resources => store.removed (role, scope) resources
  | drop role => store.dropRole role

/-- The order is about a resource under a scope of a role. -/
def Names (role : String) (scope : Scope) (r : Resource) : Order → Prop
  | act _ role' scope' resources => role' = role ∧ scope' = scope ∧ Holds resources r
  | drop role' => role' = role

/-- What the order does with what it names. -/
def action : Order → Action
  | act action _ _ _ => action
  | drop _ => .revoke

end Order

section Orders

variable {store : Store} {role : String} {scope : Scope} {r : Resource} {o : Order} {c : Change}

theorem lists_iff : store.Lists role scope r ↔ Holds (store.bucketAt (role, scope)) r := by
  rw [Lists, bucket_lookup]

/-- **What an order names is listed when the order is to grant it.** -/
theorem lists_carriedOut (h : o.Names role scope r) :
    (o.carriedOut store).Lists role scope r ↔ o.action = .grant := by
  rw [lists_iff]
  match o, h with
  | .act .grant _ _ _, ⟨rfl, rfl, hnamed⟩ =>
    rw [Order.carriedOut, bucketAt_added, if_pos rfl, holds_foldl_insertNew]
    exact iff_of_true (.inr hnamed) rfl
  | .act .revoke _ _ _, ⟨rfl, rfl, hnamed⟩ =>
    rw [Order.carriedOut, bucketAt_removed, if_pos rfl, holds_removeAll]
    exact iff_of_false (fun h => h.2 hnamed) nofun
  | .drop _, rfl =>
    rw [Order.carriedOut, bucketAt_dropRole, if_pos rfl]
    exact iff_of_false (holds_nil r) nofun

/-- **What an order does not name stays as it is.** -/
theorem lists_carriedOut_of_not_names (h : ¬ o.Names role scope r) :
    (o.carriedOut store).Lists role scope r ↔ store.Lists role scope r := by
  rw [lists_iff, lists_iff]
  cases o with
  | act action role' scope' resources =>
    by_cases hkey : (role, scope) = (role', scope')
    · obtain ⟨rfl, rfl⟩ := Prod.mk.inj hkey
      have hnot : ¬ Holds resources r := fun hnamed => h ⟨rfl, rfl, hnamed⟩
      cases action with
      | grant =>
        rw [Order.carriedOut, bucketAt_added, if_pos rfl, holds_foldl_insertNew]
        exact or_iff_left hnot
      | revoke =>
        rw [Order.carriedOut, bucketAt_removed, if_pos rfl, holds_removeAll]
        exact and_iff_left hnot
    · cases action with
      | grant => rw [Order.carriedOut, bucketAt_added, if_neg hkey]
      | revoke => rw [Order.carriedOut, bucketAt_removed, if_neg hkey]
  | drop role' =>
    rw [Order.carriedOut, bucketAt_dropRole, if_neg (Ne.symm h)]

/-! ## A change is an order or it is refused -/

/-- The order of an action on resources; the scope of a grant has to apply to each of them. -/
def orderOf (role : String) (resources : List Resource) (scope : Scope) :
    Action → Except WhitelistError Order
  | .grant => (scope.verifyAll resources).map fun _ => .act .grant role scope resources
  | .revoke => .ok (.act .revoke role scope resources)

/-- **The order of a change**, or why it is refused. -/
def Change.order : Change → Except WhitelistError Order
  | grant role text resources => do orderOf role resources (← Scope.parse text) .grant
  | revoke role text resources => do orderOf role resources (← Scope.parse text) .revoke
  | setOption role option value => do
    let (action, scope) ← Action.parseOption option
    orderOf role (← parseResources value) scope action
  | drop role => .ok (.drop role)

/-- What happens to a store that is asked for an order: a refusal leaves it as it is. -/
def obeyed (store : Store) : Except WhitelistError Order → Except WhitelistError Unit × Store
  | .ok o => (.ok (), o.carriedOut store)
  | .error error => (.error error, store)

theorem run_grant (text : String) (resources : List Resource) :
    (Store.grant role text resources).run.run store
      = store.obeyed (Scope.parse text >>= (orderOf role resources · .grant)) := by
  rw [Store.grant, run_lift_bind]
  cases Scope.parse text with
  | error error => rfl
  | ok scope =>
    dsimp only
    rw [run_lift_bind]
    change _ = store.obeyed ((scope.verifyAll resources).map _)
    cases scope.verifyAll resources <;> rfl

theorem run_revoke (text : String) (resources : List Resource) :
    (Store.revoke role text resources).run.run store
      = store.obeyed (Scope.parse text >>= (orderOf role resources · .revoke)) := by
  rw [Store.revoke, run_lift_bind]
  cases Scope.parse text <;> rfl

theorem run_grant_name (resources : List Resource) :
    (Store.grant role scope.name resources).run.run store
      = store.obeyed (orderOf role resources scope .grant) := by
  rw [run_grant, Scope.parse_name]
  rfl

theorem run_revoke_name (resources : List Resource) :
    (Store.revoke role scope.name resources).run.run store
      = store.obeyed (orderOf role resources scope .revoke) := by
  rw [run_revoke, Scope.parse_name]
  rfl

/-- **A change is an order that is carried out, or it is refused**, whatever the store. -/
theorem run_eq (c : Change) (store : Store) : c.run store = store.obeyed c.order := by
  rw [Change.run]
  cases c with
  | grant role text resources => exact run_grant text resources
  | revoke role text resources => exact run_revoke text resources
  | setOption role option value =>
    rw [Change.work, Change.order, run_bind, applyOption, run_lift_bind]
    cases Action.parseOption option with
    | error error => rfl
    | ok read =>
      obtain ⟨action, scope⟩ := read
      dsimp only
      rw [run_lift_bind]
      cases parseResources value with
      | error error => rfl
      | ok resources =>
        change _ = store.obeyed (orderOf role resources scope action)
        cases action with
        | grant =>
          dsimp only
          rw [run_bind, run_grant_name]
          cases orderOf role resources scope .grant <;> rfl
        | revoke =>
          dsimp only
          rw [run_bind, run_revoke_name]
          rfl
  | drop role => rfl

theorem error_iff_of_obeyed {e : Except WhitelistError Order} :
    (∃ error, (store.obeyed e).1 = .error error) ↔ ∃ error, e = .error error := by
  cases e with
  | error error => exact iff_of_true ⟨error, rfl⟩ ⟨error, rfl⟩
  | ok o => exact iff_of_false (fun ⟨_, h⟩ => nomatch h) (fun ⟨_, h⟩ => nomatch h)

/-- A refused change leaves the store as it is. -/
theorem run_of_error {error : WhitelistError} (h : (c.run store).1 = .error error) :
    (c.run store).2 = store := by
  rw [run_eq] at h ⊢
  cases hc : c.order with
  | error => rfl
  | ok o =>
    rw [hc] at h
    cases h

/-! ## When a change is refused -/

theorem verify_eq_error_iff : (∃ error, scope.verify r = .error error) ↔ scope.applies r = false := by
  cases scope with
  | all => exact iff_of_false (fun ⟨_, h⟩ => nomatch h) nofun
  | only permission =>
    rw [Scope.verify, Scope.applies]
    cases r.permissions.contains permission with
    | false => exact iff_of_true ⟨_, rfl⟩ rfl
    | true => exact iff_of_false (fun ⟨_, h⟩ => nomatch h) nofun

/-- Resources are refused together when the scope does not apply to one of them. -/
theorem verifyAll_eq_error_iff {resources : List Resource} :
    (∃ error, scope.verifyAll resources = .error error) ↔ ∃ r ∈ resources, scope.applies r = false := by
  rw [Scope.verifyAll]
  induction resources with
  | nil => exact iff_of_false (fun ⟨_, h⟩ => nomatch h) (fun ⟨_, h, _⟩ => List.not_mem_nil h)
  | cons r rest ih =>
    rw [List.exists_mem_cons_iff, ← ih, ← verify_eq_error_iff]
    change (∃ error, (scope.verify r >>= fun _ => rest.forM scope.verify) = .error error) ↔ _
    cases scope.verify r with
    | error error => exact iff_of_true ⟨error, rfl⟩ (.inl ⟨error, rfl⟩)
    | ok u => exact ⟨.inr, fun h => h.resolve_left fun ⟨_, h⟩ => nomatch h⟩

/-- An action is refused when it is a grant and the scope does not apply to one of the resources. -/
theorem orderOf_eq_error_iff {resources : List Resource} {action : Action} :
    (∃ error, orderOf role resources scope action = .error error) ↔
      action = .grant ∧ ∃ r ∈ resources, scope.applies r = false := by
  cases action with
  | grant =>
    rw [orderOf, ← verifyAll_eq_error_iff]
    simp only [map_eq_error_iff, true_and]
  | revoke => exact iff_of_false (fun ⟨_, h⟩ => nomatch h) (fun ⟨h, _⟩ => nomatch h)

/-- **When a change is refused.** -/
theorem order_eq_error_iff (c : Change) : (∃ error, c.order = .error error) ↔ c.IsRefused := by
  cases c with
  | grant role text resources =>
    rw [Change.order, Change.IsRefused]
    cases Scope.parse text with
    | error error => exact iff_of_true ⟨error, rfl⟩ (.inl ⟨error, rfl⟩)
    | ok scope =>
      change (∃ error, orderOf role resources scope .grant = .error error) ↔ _
      rw [orderOf_eq_error_iff]
      simp
  | revoke role text resources =>
    rw [Change.order, Change.IsRefused]
    cases Scope.parse text with
    | error error => exact iff_of_true ⟨error, rfl⟩ ⟨error, rfl⟩
    | ok scope => exact iff_of_false (fun ⟨_, h⟩ => nomatch h) (fun ⟨_, h⟩ => nomatch h)
  | setOption role option value =>
    rw [Change.order, Change.IsRefused]
    cases Action.parseOption option with
    | error error => exact iff_of_true ⟨error, rfl⟩ (.inl ⟨error, rfl⟩)
    | ok read =>
      obtain ⟨action, scope⟩ := read
      cases parseResources value with
      | error error => exact iff_of_true ⟨error, rfl⟩ (.inr (.inl ⟨error, rfl⟩))
      | ok resources =>
        change (∃ error, orderOf role resources scope action = .error error) ↔ _
        rw [orderOf_eq_error_iff]
        simp
  | drop role => exact iff_of_false (fun ⟨_, h⟩ => nomatch h) id

/-! ## Histories -/

theorem orderOf_eq_ok {resources : List Resource} {action : Action}
    (h : orderOf role resources scope action = .ok o) : o = .act action role scope resources := by
  cases action with
  | grant =>
    obtain ⟨-, -, rfl⟩ := map_eq_ok_iff.mp h
    rfl
  | revoke => exact (Except.ok.inj h).symm

/-- **What a change says is what its order does**, but for the drop of the role itself. -/
theorem word_of_order (scope : Scope) (r : Resource) (hdrop : c ≠ .drop role) (h : c.order = .ok o) :
    o.Names role scope r ∧ c.word role scope r = some o.action ∨
      ¬ o.Names role scope r ∧ c.word role scope r = none := by
  have hword : ∀ (named : Prop) [Decidable named] (action : Action), (o.Names role scope r ↔ named) →
      o.action = action → c.word role scope r = (if named then some action else none) →
      o.Names role scope r ∧ c.word role scope r = some o.action ∨
        ¬ o.Names role scope r ∧ c.word role scope r = none := by
    intro named _ action hnames haction hsays
    rw [hnames, haction, hsays]
    by_cases h : named
    · exact .inl ⟨h, if_pos h⟩
    · exact .inr ⟨h, if_neg h⟩
  cases c with
  | grant role' text resources =>
    obtain ⟨scope', hscope, h⟩ := bind_eq_ok_iff.mp h
    obtain rfl := orderOf_eq_ok h
    refine hword _ .grant ?_ rfl rfl
    rw [Order.Names, any_same_iff, hscope]
    simp [Except.toOption]
  | revoke role' text resources =>
    obtain ⟨scope', hscope, h⟩ := bind_eq_ok_iff.mp h
    obtain rfl := orderOf_eq_ok h
    refine hword _ .revoke ?_ rfl rfl
    rw [Order.Names, any_same_iff, hscope]
    simp [Except.toOption]
  | setOption role' option value =>
    obtain ⟨⟨action, scope'⟩, hoption, h⟩ := bind_eq_ok_iff.mp h
    obtain ⟨resources, hvalue, h⟩ := bind_eq_ok_iff.mp h
    obtain rfl := orderOf_eq_ok h
    refine hword (role' = role ∧ scope' = scope ∧ resources.any (r.same ·) = true) action ?_ rfl ?_
    · rw [Order.Names, any_same_iff]
    · rw [Change.word, hoption, hvalue]
  | drop role' =>
    obtain rfl := Except.ok.inj h
    exact .inr ⟨fun hsame => hdrop (congrArg Change.drop hsame), rfl⟩

theorem after_concat (history : List Change) (c : Change) (store : Store) :
    after (history ++ [c]) store = (c.run (after history store)).2 :=
  List.foldl_concat ..

theorem returned_concat (history : List Change) (c : Change) (store : Store) :
    returned (history ++ [c]) store = returned history store ++ unrefused c (after history store) := by
  induction history generalizing store with
  | nil => exact List.append_nil _
  | cons first rest ih =>
    rw [List.cons_append, returned, returned, ih, List.append_assoc]
    rfl

theorem unrefused_eq (c : Change) (store : Store) : unrefused c store = match c.order with
    | .ok _ => [c]
    | .error _ => [] := by
  rw [unrefused, run_eq]
  cases c.order <;> rfl

theorem lastWord_concat_drop (changes : List Change) :
    lastWord role scope r (changes ++ [.drop role]) = none := by
  rw [lastWord, List.rtakeWhile_concat_neg _ _ _ (by simp)]
  rfl

theorem lastWord_concat (changes : List Change) (hdrop : c ≠ .drop role) :
    lastWord role scope r (changes ++ [c])
      = (c.word role scope r <|> lastWord role scope r changes) := by
  rw [lastWord, List.rtakeWhile_concat_pos _ _ _ (by simpa using hdrop), List.filterMap_append]
  cases hword : c.word role scope r with
  | none =>
    rw [List.filterMap_cons_none hword, List.filterMap_nil, List.append_nil]
    rfl
  | some action =>
    rw [List.filterMap_cons_some hword, List.filterMap_nil, List.getLast?_concat]
    rfl

/-- **After any history the last word holds**, from a store without whitelists on.  A change that is
refused leaves every whitelist as it was, and it is refused for no other reason than those of
`Change.IsRefused`. -/
theorem lists_after_iff (history : List Change) (role : String) (scope : Scope) (r : Resource) :
    ((after history .empty).Lists role scope r ↔
      lastWord role scope r (returned history .empty) = some .grant) ∧
    (∀ (c : Change) error, (c.run (after history .empty)).1 = .error error → ∀ role',
      (c.run (after history .empty)).2.lookup role' = (after history .empty).lookup role') ∧
    (∀ c : Change, (∃ error, (c.run (after history .empty)).1 = .error error) ↔ c.IsRefused) := by
  refine ⟨?_, fun c error h role' => by rw [run_of_error h], fun c => ?_⟩
  · induction history using List.reverseRecOn with
    | nil => exact iff_of_false (holds_nil r) nofun
    | append_singleton history c ih =>
      rw [after_concat, returned_concat, run_eq, unrefused_eq]
      cases horder : c.order with
      | error error =>
        rw [List.append_nil]
        exact ih
      | ok o =>
        dsimp only [obeyed]
        by_cases hdrop : c = .drop role
        · subst hdrop
          obtain rfl := Except.ok.inj horder
          rw [lastWord_concat_drop]
          exact (lists_carriedOut (o := .drop role) (Eq.refl role)).trans (iff_of_false nofun nofun)
        · rw [lastWord_concat _ hdrop]
          rcases word_of_order scope r hdrop horder with ⟨hnames, hword⟩ | ⟨hnot, hword⟩
          · rw [lists_carriedOut hnames, hword]
            exact Option.some_inj.symm
          · rw [lists_carriedOut_of_not_names hnot, hword]
            exact ih
  · rw [run_eq, error_iff_of_obeyed]
    exact order_eq_error_iff c

end Orders

end Store

end AuditTrail
