import AuditTrail.CommandLine.Reply
import AuditTrail.Config.BuiltIn
import AuditTrail.Proofs.LogFormat.StandardFields
import AuditTrail.Proofs.Pipeline.Commit
import AuditTrail.Proofs.Redaction.Repeated

/-!
# Proofs/CommandLine/Preview — a preview shows what is committed

    sample ──▸ event ──redact──▸ redacted ──fields──▸ arguments ──┬─interleave──▸ printed
                                                                  └─substitute──▸ committed

The preview puts the fields between the literals of the format, and goes past the template and the
backend.  A pipeline of the same configuration makes its message of the template that was compiled for the
preview (`run_build`), in which the literals are escaped, so it commits the line that is printed, and
where a field cannot be rendered both tell so (`preview_committed`).
-/

namespace AuditTrail.CommandLine

open AuditTrail.Substitution

variable {Mapping : Type} {s : Surroundings Mapping} {path : Option String} {config : Config}
  {template : Template}
  {sample : Sample} {resource : Resource}

/-! ## The preview -/

/-- **A log format is loaded** with a configuration for whose logger it is compiled. -/
theorem loadFormat_eq_ok_iff : loadFormat s path = .ok (config, template) ↔
    Config.load s.intake s.site s.environment (path.map Path.parse) = .ok config ∧
      config.line.compile s.platform (.logging .default) none = .ok template := by
  constructor
  · intro h
    obtain ⟨_, hload, h⟩ := bind_eq_ok_iff.mp h
    obtain ⟨_, hcompile, h⟩ := bind_eq_ok_iff.mp h
    cases h
    exact ⟨mapError_eq_ok_iff.mp hload, mapError_eq_ok_iff.mp hcompile⟩
  · rintro ⟨hload, hcompile⟩
    refine bind_eq_ok_iff.mpr ⟨config, mapError_eq_ok_iff.mpr hload, ?_⟩
    exact bind_eq_ok_iff.mpr ⟨template, mapError_eq_ok_iff.mpr hcompile, rfl⟩

/-- **The reply to a preview** is the line of the redacted sample, or its failure. -/
theorem reply_preview (hload : loadFormat s path = .ok (config, template))
    (hresource : Resource.parse sample.resource = .ok resource) :
    (Request.preview path sample).reply s
      = match config.redactor.redact (sample.event s resource) >>= template.line with
        | .ok line => .printed (line ++ "\n")
        | .error fault => .failed (.fault fault) := by
  have hpreview : preview s path sample
      = ((config.redactor.redact (sample.event s resource) >>= template.line).mapError .fault >>=
          fun line => .ok (line ++ "\n")) := by
    unfold preview
    rw [hload, hresource]
    rfl
  unfold Request.reply
  dsimp only
  rw [hpreview]
  rcases config.redactor.redact (sample.event s resource) >>= template.line with fault | line <;> rfl

/-! ## The preview and the pipeline -/

/-- **A reply agrees with what becomes of an event** in a pipeline: the line is printed that is committed as
the message; or both tell the field that cannot be rendered, or that the timestamp has too many digits, and
nothing is committed. -/
inductive Agrees (reply : Reply) (turn : Turn) (start : Trail) : Prop
  | line (line : String) (hreply : reply = .printed (line ++ "\n"))
    (hcommits : turn.pipeline.backend.Commits turn.host start (turn.run start).2 line (turn.run start).1)
  | failure (fault : Fault) (hcause : (∃ field reason, fault = .render field reason) ∨
      fault = FieldValue.tooLong ∧ ¬ (FieldValue.integer turn.event.timestamp).HasText)
    (hreply : reply = .failed (.fault fault)) (houtcome : (turn.run start).1 = .error fault)
    (hemitted : (turn.run start).2.emitted = start.emitted) (hdesk : (turn.run start).2.desk = start.desk)

/-- An event is redacted, and keeps its timestamp and its port. -/
theorem exists_redacted (redactUnknown : Bool) (e : Event) : ∃ redacted,
    (Redactor.forPasswords "*****" redactUnknown).redact e = .ok redacted ∧
      redacted.timestamp = e.timestamp ∧ redacted.clientPort = e.clientPort := by
  rcases Redactor.redact_cases "*****" redactUnknown e with ⟨-, hredact⟩ | ⟨text, -, hredact⟩ <;>
    exact ⟨_, hredact, rfl, rfl⟩

/-- **A preview shows what is committed.**  With a configuration whose log format is accepted, a pipeline is
built for a logger and for a journal unless its filter or its file is refused, and what it does with the event
of the sample, where the filter does not exempt that, is what the preview replies. -/
theorem preview_committed (hload : loadFormat s path = .ok (config, template))
    (hresource : Resource.parse sample.resource = .ok resource) (choice : BackendChoice)
    (clock : Nat → Moment) (hostHasRoles : Bool) (fallback : Option Fallback) (trail trail' : Trail) :
    ((∃ p, ({ config with backend := choice }.build s.platform clock hostHasRoles none fallback).run.run trail
        = (.ok p, trail')) ↔
      (∃ filter, config.filterTree hostHasRoles = .ok filter) ∧
      ∃ backend, ({ config with backend := choice }.startBackend clock).run.run trail
        = (.ok backend, trail')) ∧
    ∀ p, ({ config with backend := choice }.build s.platform clock hostHasRoles none fallback).run.run trail
        = (.ok p, trail') → ∀ (host : Host) (start : Trail),
      Turn.IsAudited ⟨p, host, sample.event s resource⟩ start →
      Agrees ((Request.preview path sample).reply s) ⟨p, host, sample.event s resource⟩ start := by
  have hcompile := (loadFormat_eq_ok_iff.mp hload).2
  have hline : ({ config with backend := choice } : Config).line.compile s.platform (.logging .default) none
      = .ok template := hcompile
  refine ⟨exists_build_iff hline, fun p hbuild host start haudited => ?_⟩
  obtain ⟨rfl, hredactor, htakes⟩ := build_eq_ok hline hbuild
  obtain ⟨redacted, hredact, htimestamp, hport⟩ : ∃ redacted,
      config.redactor.redact (sample.event s resource) = .ok redacted ∧
        redacted.timestamp = s.now ∧ redacted.clientPort = none :=
    exists_redacted config.redactUnknown (sample.event s resource)
  have hreply := reply_preview hload hresource
  rw [hredact] at hreply
  have hrecord := Pipeline.record_of_redact ((congrArg (Redactor.redact · _) hredactor).trans hredact)
  dsimp only [bind, Except.bind, Template.line] at hreply
  rcases harguments : p.template.arguments redacted with fault | arguments <;>
    rw [harguments] at hreply hrecord
  case error =>
    obtain ⟨houtcome, hemitted, hdesk⟩ := Turn.run_of_unrecorded haudited hrecord
    refine .failure fault ?_ hreply houtcome hemitted hdesk
    have hown : (Backend.logging .default).IsOwn := trivial
    obtain ⟨-, -, fields, hfields, hformat⟩ := (LineSettings.compile_eq_ok_iff hown).mp hcompile
    rcases fault_of_arguments hfields hformat harguments with ⟨reason, hrender⟩ | ⟨hlong, htime | hport'⟩
    · exact .inl ⟨_, reason, hrender⟩
    · exact .inr ⟨hlong, by rwa [htimestamp] at htime⟩
    · exact absurd (fun number hnumber => nomatch hport.symm.trans hnumber) hport'
  case ok =>
    have hmessage := LineSettings.substitute_of_arguments hcompile harguments
    exact .line _ hreply (Turn.commits_of_substitute haudited hrecord hmessage htakes)

/-- A site without files, where the environment sets a log format with a percent sign. -/
def percentSite : Surroundings (List (Data × Data)) where
  intake := .builtIn
  site := .plain (Path.parse "/") (Path.parse "/root") fun _ => .error .notFound
  environment := [("DBAUDIT_LOG_FORMAT", "100% ${USER} ${OPERATION}")]
  platform := ⟨.universal, .silent⟩
  now := 0
  batch := ⟨0⟩

/-- The configuration there. -/
def percentConfig : Config :=
  { Config.default with line := { LineSettings.default with format := "100% ${USER} ${OPERATION}" } }

/-- A password that is set, before a percent sign. -/
def alterBob : Sample :=
  ⟨"alice", "ALTER ROLE bob WITH PASSWORD = 'hunter2' -- %d", "roles/bob", [.alter], .attempt,
    "127.0.0.1", false⟩

theorem load_percentSite :
    Config.load percentSite.intake percentSite.site percentSite.environment none = .ok percentConfig := by
  have hoverrides : percentSite.intake.overrides percentSite.environment
      = .ok ⟨none, none, none, none, none, some "100% ${USER} ${OPERATION}"⟩ := by
    decide +kernel
  have hsource : Config.sourceOf percentSite.site none = .ok none := by decide +kernel
  unfold Config.load
  rw [hoverrides]
  dsimp only [bind, Except.bind, Except.mapError, Option.or]
  rw [hsource]
  rfl

theorem reply_percentSite : (Request.preview none alterBob).reply percentSite
    = .printed "100% alice ALTER ROLE bob WITH PASSWORD = '*****' -- %d\n" := by
  decide +kernel

/-- The sample of that site on its way through a pipeline of its configuration. -/
def percentTurn (template : Template) : Turn where
  pipeline :=
    { template := template, filter := .nothing, limits := .default, redactor := percentConfig.redactor,
      backend := .logging .default, timing := .pre, suppressPrepare := false }
  host := .still
  event := alterBob.event percentSite (.role "bob")

/-- The line that is printed there is the message that the logger gets. -/
theorem percentSite_committed : ∃ template,
    loadFormat percentSite none = .ok (percentConfig, template) ∧
    Resource.parse alterBob.resource = .ok (.role "bob") ∧
    (percentConfig.build percentSite.platform (fun _ => 0) false none none).run.run (.ofDesk (.ofTree .empty))
      = (.ok (percentTurn template).pipeline, .ofDesk (.ofTree .empty)) ∧
    (percentTurn template).IsAudited (.ofDesk (.ofTree .empty)) ∧
    Agrees (.printed "100% alice ALTER ROLE bob WITH PASSWORD = '*****' -- %d\n") (percentTurn template)
      (.ofDesk (.ofTree .empty)) := by
  have hcompiles :
      (percentConfig.line.compile percentSite.platform (.logging .default) none).toOption.isSome = true := by
    decide +kernel
  obtain ⟨template, htemplate⟩ := Option.isSome_iff_exists.mp hcompiles
  have hcompile := toOption_eq_some_iff.mp htemplate
  have hload : loadFormat percentSite none = .ok (percentConfig, template) :=
    loadFormat_eq_ok_iff.mpr ⟨load_percentSite, hcompile⟩
  have hresource : Resource.parse alterBob.resource = .ok (.role "bob") := by decide +kernel
  have hbuild : (percentConfig.build percentSite.platform (fun _ => 0) false none none).run.run
      (.ofDesk (.ofTree .empty))
      = (.ok (percentTurn template).pipeline, .ofDesk (.ofTree .empty)) := by
    rw [run_build hcompile]
    rfl
  have haudited : (percentTurn template).IsAudited (.ofDesk (.ofTree .empty)) := rfl
  obtain ⟨-, hagrees⟩ := preview_committed hload hresource .logging (fun _ => 0) false none
    (.ofDesk (.ofTree .empty)) (.ofDesk (.ofTree .empty))
  have hreply := hagrees _ hbuild .still _ haudited
  rw [reply_percentSite] at hreply
  exact ⟨template, hload, hresource, hbuild, haudited, hreply⟩

end AuditTrail.CommandLine
