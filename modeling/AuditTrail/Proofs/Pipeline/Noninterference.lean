import AuditTrail.Pipeline.Basic
import AuditTrail.Proofs.Redaction.Masking

/-!
# Proofs/Pipeline/Noninterference — a quoted secret leaves no trace

    … PASSWORD = 'swordfish' …          … PASSWORD = 'hunter2' …
                 └───────── the same run of the pipeline ─────────┘

Two events that differ in a quoted secret only are filtered, recorded and processed alike
(`process_quoting_eq`).  Filters read the principal, the permissions and the resource of an event
(`isExempt_congr`), and the masked text does not depend on the secret (`maskPassword_secret_eq`); hence
the two runs agree step by step.
-/

namespace AuditTrail

open AuditTrail.Text

/-! ## The masked text -/

/-- **A secret that is found wherever it is quoted**: it is not empty, and has neither a blank nor the
keyword in it. -/
structure IsSecret (secret : List Char) : Prop where
  ne_nil : secret ≠ []
  solid : ∀ c ∈ secret, isBlank c = false
  unannounced : holdsPassword secret = false

/-- **The masked text does not depend on the secret**, whatever comes before the keyword, and whatever
comes after the secret but another keyword. -/
theorem maskPassword_secret_eq (o : Opening) (mask before : List Char) {after s₁ s₂ : List Char}
    (hafter : holdsPassword after = false) (h₁ : IsSecret s₁) (h₂ : IsSecret s₂) :
    maskPassword mask (o.quoting before s₁ after) = maskPassword mask (o.quoting before s₂ after) := by
  obtain ⟨inside, rest, hclose⟩ := exists_closing?_quote after
  have hlast : ∀ s, IsSecret s → lastCut? (s ++ '\'' :: after) = none := by
    intro s hs
    refine lastCut?_of_not_holds ?_
    rw [holdsPassword_append_quote, hs.unannounced, hafter, Bool.or_self]
  rw [maskPassword_opening o mask before h₁.ne_nil h₁.solid hclose (hlast s₁ h₁),
    maskPassword_opening o mask before h₂.ne_nil h₂.solid hclose (hlast s₂ h₂)]

/-- An event with a secret in its operation. -/
def Event.quoting (e : Event) (o : Opening) (before secret after : List Char) : Event :=
  e.withOperation (String.ofList (o.quoting before secret after))

/-- **Redaction makes the same event** of events that differ in a secret only. -/
theorem Redactor.redact_secret_eq {mask : String} {redactUnknown : Bool} {e : Event} {o : Opening}
    {before after s₁ s₂ : List Char} (hafter : holdsPassword after = false) (h₁ : IsSecret s₁)
    (h₂ : IsSecret s₂)
    (hshould : (forPasswords mask redactUnknown).shouldRedact (e.quoting o before s₁ after) = true) :
    (forPasswords mask redactUnknown).redact (e.quoting o before s₁ after)
      = (forPasswords mask redactUnknown).redact (e.quoting o before s₂ after) := by
  -- Whether to redact is asked of the events without their texts.
  have hshould₂ : (forPasswords mask redactUnknown).shouldRedact (e.quoting o before s₂ after) = true :=
    hshould
  rw [redact_forPasswords rfl hshould, redact_forPasswords rfl hshould₂,
    maskPassword_secret_eq o mask.toList before hafter h₁ h₂]
  rfl

/-! ## Filters do not read the operation -/

section Filters

variable {σ : Type} {m : Type → Type} [Monad m] {rolesOf : String → m (List String)}
  {lookup : σ → String → m Whitelist} {e e' : Event}

/-- The decision of a role reads the permissions and the resource. -/
theorem isExempt_roles_congr (hpermissions : e.permissions = e'.permissions)
    (hresource : e.resource = e'.resource) (lookup : String → m Whitelist) (roles : List String) :
    isExempt lookup roles e = isExempt lookup roles e' := by
  rw [isExempt, isExempt, Event.asked, Event.asked, hpermissions, hresource]

mutual

/-- Filters read the principal and the resource of an event, and what the roles are asked with. -/
theorem Filter.exempts_congr {ask : σ → Event → m Bool} (hprincipal : e.principal = e'.principal)
    (hresource : e.resource = e'.resource) (hask : ∀ source, ask source e = ask source e') :
    (filter : Filter σ) → filter.exempts ask e = filter.exempts ask e'
  | .nothing => rfl
  | .listed principals => by
    rw [Filter.exempts, Filter.exempts, isListed, isListed, hprincipal, hresource]
  | .byRole source => by rw [Filter.exempts, Filter.exempts, hask source]
  | .anyOf filters => by
    rw [Filter.exempts, Filter.exempts]
    exact anyExempts_congr hprincipal hresource hask filters

theorem Filter.anyExempts_congr {ask : σ → Event → m Bool} (hprincipal : e.principal = e'.principal)
    (hresource : e.resource = e'.resource) (hask : ∀ source, ask source e = ask source e') :
    (filters : List (Filter σ)) → Filter.anyExempts ask filters e = Filter.anyExempts ask filters e'
  | [] => rfl
  | filter :: rest => by
    rw [Filter.anyExempts, Filter.anyExempts, exempts_congr hprincipal hresource hask filter,
      anyExempts_congr hprincipal hresource hask rest]

end

/-- **Filters read the principal, the permissions and the resource** of an event, nothing else. -/
theorem Filter.isExempt_congr (hprincipal : e.principal = e'.principal)
    (hpermissions : e.permissions = e'.permissions) (hresource : e.resource = e'.resource)
    (filter : Filter σ) : filter.isExempt rolesOf lookup e = filter.isExempt rolesOf lookup e' := by
  refine exempts_congr hprincipal hresource (fun source => ?_) filter
  rw [roleDecision, roleDecision, hprincipal,
    funext (isExempt_roles_congr hpermissions hresource (lookup source))]

end Filters

/-! ## Two runs of a pipeline -/

namespace Pipeline

variable {p : Pipeline} {host : Host} {e e' : Event}

/-- The decision of the filter is made without the operation. -/
theorem evaluate_withOperation (text : String) :
    p.evaluate host (e.withOperation text) = p.evaluate host e := by
  rw [evaluate, evaluate]
  refine Filter.isExempt_congr ?_ ?_ ?_ p.filter
  · rfl
  · rfl
  · rfl

/-- **A run depends on the decision and the record** of an event only. -/
theorem process_congr (hevaluate : p.evaluate host e = p.evaluate host e')
    (hrecord : p.record e = p.record e') : p.process host e = p.process host e' := by
  have haudit : p.audit host e = p.audit host e' := by
    rw [audit, audit, hrecord]
  rw [process, process, hevaluate, haudit]

/-- **Noninterference**: events that differ in a quoted secret only get the same decision of the filter,
the same record or failure, and the same run with all that it leaves behind. -/
theorem process_quoting_eq (host : Host) {mask : String} {redactUnknown : Bool} {o : Opening}
    {before after s₁ s₂ : List Char} (hredactor : p.redactor = .forPasswords mask redactUnknown)
    (hshould : p.redactor.shouldRedact (e.quoting o before s₁ after) = true)
    (hafter : holdsPassword after = false) (h₁ : IsSecret s₁) (h₂ : IsSecret s₂) :
    p.evaluate host (e.quoting o before s₁ after) = p.evaluate host (e.quoting o before s₂ after) ∧
    p.record (e.quoting o before s₁ after) = p.record (e.quoting o before s₂ after) ∧
    p.process host (e.quoting o before s₁ after) = p.process host (e.quoting o before s₂ after) := by
  have hevaluate : p.evaluate host (e.quoting o before s₁ after)
      = p.evaluate host (e.quoting o before s₂ after) :=
    (evaluate_withOperation _).trans (evaluate_withOperation _).symm
  have hrecord : p.record (e.quoting o before s₁ after) = p.record (e.quoting o before s₂ after) := by
    rw [hredactor] at hshould
    rw [record, record, hredactor, Redactor.redact_secret_eq hafter h₁ h₂ hshould]
  exact ⟨hevaluate, hrecord, process_congr hevaluate hrecord⟩

end Pipeline

/-- A pipeline that logs the operations of everybody but `bob`. -/
def Pipeline.operationLog : Pipeline where
  template := ⟨"${OPERATION}", "%s", "%s", "",
    [(⟨⟨"OPERATION".toList, none⟩, fun e => .ok (.ofText? e.operation)⟩, "")]⟩
  filter := .listed ["bob"]
  limits := .default
  redactor := .default
  backend := .logging .default
  timing := .pre
  suppressPrepare := false

/-- A host without roles, on which no time passes. -/
def Host.still : Host := ⟨fun _ => .ok [], fun _ => .ok [], 0, 0, fun _ => 0⟩

/-- An operation in which other texts are quoted before and after the password. -/
def alteringTwice (secret : String) : Event :=
  (creatingBob "").quoting .usual "ALTER ROLE eve WITH password 'old'; ALTER ROLE bob WITH ".toList
    secret.toList "'' AND COMMENT = 'x y'".toList

/-- Two passwords of `bob` give the same log. -/
theorem process_alteringTwice :
    Redactor.default.shouldRedact (alteringTwice "swordfish") = true ∧
    holdsPassword "'' AND COMMENT = 'x y'".toList = false ∧
    IsSecret "swordfish".toList ∧ IsSecret "hunter2".toList ∧
    Pipeline.operationLog.process .still (alteringTwice "swordfish")
      = Pipeline.operationLog.process .still (alteringTwice "hunter2") := by
  have hshould : Redactor.default.shouldRedact (alteringTwice "swordfish") = true := by decide
  have hafter : holdsPassword "'' AND COMMENT = 'x y'".toList = false := by decide +kernel
  have h₁ : IsSecret "swordfish".toList := ⟨by decide, eq_false_of_all_not rfl, by decide +kernel⟩
  have h₂ : IsSecret "hunter2".toList := ⟨by decide, eq_false_of_all_not rfl, by decide +kernel⟩
  have hsame := Pipeline.process_quoting_eq (p := .operationLog) (e := creatingBob "") .still rfl
    hshould hafter h₁ h₂
  exact ⟨hshould, hafter, h₁, h₂, hsame.2.2⟩

end AuditTrail
