import AuditTrail.LogFormat.Template
import AuditTrail.Pipeline.Backend
import AuditTrail.Redaction
import AuditTrail.Whitelist.Cache
import AuditTrail.Whitelist.Filter

/-!
# Pipeline/Basic — every audited call on its way to the backend

    evaluate ──exempt──▸ done
       └──audit──▸ redact ──▸ render ──▸ emit

`Pipeline.process` takes an event through these stages.  A failure of any stage ends the event with
that failure; both phases are timed also when they fail.
-/

namespace AuditTrail

open AuditTrail.Number

/-- **What the host lends**: the roles of principals, the whitelists of roles with the time that a
lookup takes in microseconds, the time in seconds for the cache, and the clock of the journal. -/
structure Host where
  rolesOf : String → Except Fault (List String)
  lookup : String → Except Fault Whitelist
  lookupCost : Nat
  now : Rat
  clock : Nat → Moment

/-- **What an audit trail keeps between events**: the timer in microseconds, the cached whitelists, the
durations in seconds that were measured, the journal, and what was handed over in memory. -/
structure Trail where
  timer : Nat
  cache : Cache
  filterTimes : List Binary64
  logTimes : List Binary64
  desk : Desk
  emitted : List Emission

/-- The trail before the first event. -/
def Trail.ofDesk (desk : Desk) : Trail := ⟨0, .empty, [], [], desk, []⟩

/-- Work on a trail, which may fail; what was done before stays done. -/
abbrev Trail.Work := ExceptT Fault (StateM Trail)

/-- **A pipeline.** -/
structure Pipeline where
  template : Template
  filter : Filter Unit
  limits : CacheLimits
  redactor : Redactor
  backend : Backend
  timing : Timing
  suppressPrepare : Bool

/-- The two timed phases. -/
inductive TimedPhase
  | filtering | logging
  deriving DecidableEq, Repr

namespace Trail

/-- Time that passes. -/
def spend (micros : Nat) : Work Unit := modify fun t => { t with timer := t.timer + micros }

/-- A duration noted for a phase. -/
def observe (phase : TimedPhase) (micros : Nat) (t : Trail) : Trail :=
  let seconds := Binary64.ofRatio false micros 1000000
  match phase with
  | .filtering => { t with filterTimes := t.filterTimes ++ [seconds] }
  | .logging => { t with logTimes := t.logTimes ++ [seconds] }

/-- **Timed work**: its duration is noted whether or not it fails. -/
def timed {α : Type} (phase : TimedPhase) (work : Work α) : Work α :=
  ExceptT.mk fun start =>
    let (outcome, t) := work.run start
    (outcome, observe phase (t.timer - start.timer) t)

/-- Work at the desk of the journal. -/
def atDesk {α : Type} (work : Journal.Work α) : Work α :=
  ExceptT.mk fun t =>
    let (outcome, desk) := work.run t.desk
    (outcome, { t with desk := desk })

/-- One more record handed over. -/
def handOver (e : Emission) : Work Unit := modify fun t => { t with emitted := t.emitted ++ [e] }

end Trail

/-- **Committing a record.** -/
def Backend.emit (host : Host) (template : String) (arguments : List String) :
    Backend → Trail.Work Unit
  | .logging settings =>
    match logRecord settings template arguments with
    | .ok (some r) => Trail.handOver (.logged r)
    | .ok none => return ()
    | .error reason => throw (.emit reason)
  | .journal settings => Trail.atDesk (Journal.emit host.clock settings template arguments)
  | .host sink => do
    Trail.spend sink.cost
    match sink.emit template arguments with
    | .ok () => Trail.handOver (.handed template arguments)
    | .error fault => throw fault

/-- Ending the work of a backend. -/
def Backend.close : Backend → Trail.Work Unit
  | .journal _ => Trail.atDesk Journal.close
  | _ => return ()

namespace Pipeline

open Trail

/-- The whitelist of a role from the cache, or from the host at the cost of a lookup. -/
def whitelistOf (host : Host) (limits : CacheLimits) (role : String) : Work Whitelist := do
  let t ← get
  let answer := t.cache.get limits host.now role (host.lookup role)
  set { t with cache := answer.cache }
  if answer.called then spend host.lookupCost
  match answer.outcome with
  | .ok w => return w
  | .error fault => throw fault

/-- **The event is exempt from audit.** -/
def evaluate (p : Pipeline) (host : Host) (e : Event) : Work Bool :=
  p.filter.isExempt (fun principal => liftExcept (host.rolesOf principal))
    (fun _ role => whitelistOf host p.limits role) e
where
  /-- An outcome as work. -/
  liftExcept {α : Type} (outcome : Except Fault α) : Work α := ExceptT.mk (pure outcome)

/-- **The record of an event**: the template and the arguments. -/
def render (p : Pipeline) (e : Event) : Except Fault (String × List String) :=
  (p.template.arguments e).map (p.template.template, ·)

/-- The record of an event after redaction. -/
def record (p : Pipeline) (e : Event) : Except Fault (String × List String) := do
  p.render (← p.redactor.redact e)

/-- Redacting, rendering and committing. -/
def audit (p : Pipeline) (host : Host) (e : Event) : Work Unit := do
  match p.record e with
  | .error fault => throw fault
  | .ok (template, arguments) => p.backend.emit host template arguments

/-- **Processing an event**: true when a record was committed, false when the event was exempt. -/
def process (p : Pipeline) (host : Host) (e : Event) : Work Bool := do
  if ← timed .filtering (p.evaluate host e) then return false
  timed .logging (p.audit host e)
  return true

/-- The template fits the anchor of the backend. -/
def checkAnchor (backend : Backend) (t : Template) : Except Fault Unit :=
  if t.anchor = backend.anchor then .ok ()
  else .error (.configuration ("Template anchor " ++ Text.quote t.anchor ++ " does not match the " ++
    backend.name ++ " anchor " ++ Text.quote backend.anchor))

/-- **The pipeline with another template.** -/
def reload (p : Pipeline) (t : Template) : Except Fault Pipeline := do
  checkAnchor p.backend t
  return { p with template := t }

end Pipeline

end AuditTrail
