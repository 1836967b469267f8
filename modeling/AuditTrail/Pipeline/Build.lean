import AuditTrail.Pipeline.Basic

/-!
# Pipeline/Build — pipelines from a configuration

`Config.build` realizes a configuration: the filter, the backend unless the host supplies one, and the
log format compiled for that backend.
-/

namespace AuditTrail

open AuditTrail.Text AuditTrail.Time

/-- **The filter of a configuration.**  Role whitelists need the functions of the host. -/
def Config.filterTree (c : Config) (hostHasRoles : Bool) : Except Fault (Filter Unit) :=
  match c.filter with
  | .none => .ok .nothing
  | .static => .ok (.listed c.whitelist)
  | choice =>
    if hostHasRoles then
      .ok (if choice = .role then .byRole () else .anyOf [.listed c.whitelist, .byRole ()])
    else .error (.configuration ("Filter '" ++ choice.name ++
      "' requires a roles function and a whitelist lookup"))

/-- An anchor that is set and not empty. -/
def LineSettings.ownAnchor? (line : LineSettings) : Option String := line.anchor.filter (!·.isEmpty)

/-- **What a log format is compiled on**: the time zones of the host, and the words of the pattern engine. -/
structure Platform where
  zones : Zones
  words : PatternWords

/-- **The log format compiled for a backend.**  An anchor or an escape that is set has to be that of
the backend. -/
def LineSettings.compile (platform : Platform) (line : LineSettings) (backend : Backend)
    (fallback : Option Fallback) : Except Fault Template := do
  let anchor := line.ownAnchor?.getD backend.anchor
  let escape := line.escape.orElse fun _ => backend.escape
  if anchor ≠ backend.anchor then
    throw (.configuration ("Log format anchor " ++ quote anchor ++ " is not supported by " ++
      backend.name ++ ", which substitutes " ++ quote backend.anchor))
  if escape ≠ backend.escape then
    throw (.configuration ("Log format escape " ++ shownEscape escape ++ " is not supported by " ++
      backend.name ++ ", which requires " ++ shownEscape backend.escape))
  let compiled : Except FormatError Template := do
    let fields ← standardFields platform.zones line.timeFormat line.timeZone
    Compiler.compile ⟨fields, anchor, escape, fallback⟩ line.format
  compiled.mapError (FormatError.fault platform.words)

/-- The redactor of a configuration. -/
def Config.redactor (c : Config) : Redactor := { Redactor.default with redactUnknown := c.redactUnknown }

/-- **Creating the backend of a configuration**; a journal is begun. -/
def Config.startBackend (c : Config) (clock : Nat → Moment) : Trail.Work Backend :=
  match c.backend with
  | .logging => return .logging .default
  | .jsonl => do
    Trail.atDesk (Journal.start clock c.journal)
    return .journal c.journal

/-- **Building a pipeline** with the backend of the host, if it supplies one. -/
def Config.build (platform : Platform) (c : Config) (clock : Nat → Moment) (hostHasRoles : Bool)
    (sink : Option HostSink) (fallback : Option Fallback) : Trail.Work Pipeline := do
  let filter ← ExceptT.mk (pure (c.filterTree hostHasRoles))
  let backend ← match sink with
    | some sink => pure (.host sink)
    | none => c.startBackend clock
  let template ← ExceptT.mk (pure (c.line.compile platform backend fallback))
  ExceptT.mk (pure (Pipeline.checkAnchor backend template))
  return {
    template := template, filter := filter, limits := c.cache, redactor := c.redactor,
    backend := backend, timing := c.timing, suppressPrepare := c.suppressPrepare }

end AuditTrail
