import AuditTrail.Pipeline.Build
import AuditTrail.Proofs.Journal.Run
import AuditTrail.Proofs.Pipeline.Acceptance

/-!
# Proofs/Pipeline/Commit — what a built pipeline commits

    Config ──build──▸ filter, logger or journal, template
    event ──audited──▸ record ──substitute──▸ message ──▸ logger: one record more
                          │                       └─────▸ journal: one line more
                          └──fails──▸ nothing

A logger and a journal compile a log format alike, and a fallback changes nothing for a format whose
fields are known (`LineSettings.compile_eq_ok_iff`), so the pipelines of a configuration have the template
that was compiled for a logger (`run_build`).  An audited event with a record commits the message of the
record (`commits_of_substitute`), and one without a record leaves everything as it was
(`run_of_unrecorded`).
-/

namespace AuditTrail

open AuditTrail.LogFormat AuditTrail.Substitution

/-! ## The template of a configuration -/

theorem Registry.resolve?_of_none {registry : Registry} {name : String} {function : FieldFunction}
    (h : registry.resolve? none name = some function) (fallback : Option Fallback) :
    registry.resolve? fallback name = some function := by
  rw [resolve?] at h ⊢
  split at h
  case h_1 => exact h
  case h_2 => cases h

/-- **A fallback changes nothing** where every field is known. -/
theorem Compiler.compile_withFallback {fields : Registry} {anchor : String}
    {escape : Option (String × String)} {format : String} {t : Template}
    (h : (⟨fields, anchor, escape, none⟩ : Compiler).compile format = .ok t) (fallback : Option Fallback) :
    (⟨fields, anchor, escape, fallback⟩ : Compiler).compile format = .ok t := by
  have hknown := (exists_compile_eq_ok_iff.mp ⟨t, h⟩).2
  have hsame : (scan format.toList).tokens.mapM
        (Compiler.extractor ⟨fields, anchor, escape, fallback⟩)
      = (scan format.toList).tokens.mapM (Compiler.extractor ⟨fields, anchor, escape, none⟩) := by
    refine mapM_congr fun token htoken => ?_
    obtain ⟨function, hfunction⟩ := Option.isSome_iff_exists.mp (hknown token htoken)
    unfold extractor
    dsimp only at hfunction ⊢
    rw [hfunction, Registry.resolve?_of_none hfunction]
  rw [compile] at h ⊢
  dsimp only at h ⊢
  rw [hsame]
  exact h

theorem Backend.IsOwn.anchor_eq {backend : Backend} (h : backend.IsOwn) : backend.anchor = percentAnchor := by
  cases backend with
  | host sink => cases h
  | logging settings => rfl
  | journal settings => rfl

theorem Backend.IsOwn.escape_eq {backend : Backend} (h : backend.IsOwn) :
    backend.escape = some percentEscape := by
  cases backend with
  | host sink => cases h
  | logging settings => rfl
  | journal settings => rfl

/-- **A log format is compiled** for a logger or a journal: its anchor and its escape are theirs, and it
compiles with the standard fields. -/
theorem LineSettings.compile_eq_ok_iff {platform : Platform} {line : LineSettings} {backend : Backend}
    {fallback : Option Fallback} {t : Template} (hown : backend.IsOwn) :
    line.compile platform backend fallback = .ok t ↔
      line.ownAnchor?.getD percentAnchor = percentAnchor ∧
      (line.escape.orElse fun _ => some percentEscape) = some percentEscape ∧
      ∃ fields, standardFields platform.zones line.timeFormat line.timeZone = .ok fields ∧
        (Compiler.percent fields fallback).compile line.format = .ok t := by
  unfold compile
  rw [hown.anchor_eq, hown.escape_eq]
  dsimp only
  by_cases hanchor : line.ownAnchor?.getD percentAnchor = percentAnchor
  case neg =>
    rw [if_pos hanchor]
    exact iff_of_false nofun fun h => hanchor h.1
  by_cases hescape : (line.escape.orElse fun _ => some percentEscape) = some percentEscape
  case neg =>
    rw [if_neg (not_not_intro hanchor), if_pos hescape]
    exact iff_of_false nofun fun h => hescape h.2.1
  rw [if_neg (not_not_intro hanchor), if_neg (not_not_intro hescape), mapError_eq_ok_iff, bind_eq_ok_iff,
    hanchor, hescape]
  exact ⟨fun h => ⟨rfl, rfl, h⟩, fun h => h.2.2⟩

/-- **What is compiled for a logger** without a fallback is compiled for a journal as well, and with any
fallback. -/
theorem LineSettings.compile_of_logging {platform : Platform} {line : LineSettings}
    {settings : LoggerSettings} {t : Template} (h : line.compile platform (.logging settings) none = .ok t)
    {backend : Backend} (hown : backend.IsOwn) (fallback : Option Fallback) :
    line.compile platform backend fallback = .ok t := by
  have hlogger : (Backend.logging settings).IsOwn := trivial
  obtain ⟨hanchor, hescape, fields, hfields, hcompile⟩ := (compile_eq_ok_iff hlogger).mp h
  exact (compile_eq_ok_iff hown).mpr
    ⟨hanchor, hescape, fields, hfields, Compiler.compile_withFallback hcompile fallback⟩

/-- **The message of a template** that was compiled for a logger is what stands between its literals. -/
theorem LineSettings.substitute_of_arguments {platform : Platform} {line : LineSettings}
    {settings : LoggerSettings} {t : Template} (h : line.compile platform (.logging settings) none = .ok t)
    {e : Event} {arguments : List String} (harguments : t.arguments e = .ok arguments) :
    substitute t.template arguments = .ok (t.interleave arguments) := by
  have hlogger : (Backend.logging settings).IsOwn := trivial
  obtain ⟨-, -, fields, -, hcompile⟩ := (compile_eq_ok_iff hlogger).mp h
  have hlength : arguments.length = t.extractors.length := length_of_mapM_eq_ok harguments
  rw [substitute_template hcompile, if_pos hlength]

/-! ## Building a pipeline -/

/-- **The backend commits every record**: a logger that takes records of its level, or a journal. -/
def Backend.TakesAll : Backend → Prop
  | .logging settings => settings.threshold ≤ settings.level
  | .journal _ => True
  | .host _ => False

theorem Backend.TakesAll.isOwn {backend : Backend} (h : backend.TakesAll) : backend.IsOwn := by
  cases backend with
  | host sink => cases h
  | logging settings => trivial
  | journal settings => trivial

section Build

variable {platform : Platform} {c : Config} {clock : Nat → Moment} {t : Template} {trail trail' : Trail}

/-- The backend of a configuration takes all records. -/
theorem takesAll_of_startBackend {backend : Backend}
    (h : (c.startBackend clock).run.run trail = (.ok backend, trail')) : backend.TakesAll := by
  unfold Config.startBackend at h
  split at h
  · cases h
    exact (by decide : (10 : Int) ≤ 20)
  · rw [run_bind] at h
    split at h <;> cases h
    trivial

/-- **Building a pipeline** from a configuration whose log format was compiled: only its filter and its
backend can be refused, and the template is the compiled one. -/
theorem run_build (hline : c.line.compile platform (.logging .default) none = .ok t) (hostHasRoles : Bool)
    (fallback : Option Fallback) :
    (c.build platform clock hostHasRoles none fallback).run.run trail = match c.filterTree hostHasRoles with
      | .error fault => (.error fault, trail)
      | .ok filter => match (c.startBackend clock).run.run trail with
        | (.error fault, trail') => (.error fault, trail')
        | (.ok backend, trail') => (.ok
          { template := t, filter := filter, limits := c.cache, redactor := c.redactor,
            backend := backend, timing := c.timing, suppressPrepare := c.suppressPrepare }, trail') := by
  unfold Config.build
  rw [run_bind]
  rcases c.filterTree hostHasRoles with fault | filter
  case error => rfl
  case ok =>
    show (c.startBackend clock >>= _ : Trail.Work Pipeline).run.run trail = _
    rw [run_bind]
    rcases hstart : (c.startBackend clock).run.run trail with ⟨fault | backend, trail'⟩
    case error => rfl
    case ok =>
      have hown := (takesAll_of_startBackend hstart).isOwn
      have hcompile := LineSettings.compile_of_logging hline hown fallback
      have hanchor : Pipeline.checkAnchor backend t = .ok () := by
        obtain ⟨-, -, fields, -, hformat⟩ := (LineSettings.compile_eq_ok_iff hown).mp hcompile
        refine Pipeline.checkAnchor_eq_ok_iff.mpr ((Compiler.anchor_of_compile_eq_ok hformat).trans ?_)
        exact hown.anchor_eq.symm
      dsimp only
      rw [hcompile]
      show ((ExceptT.mk (pure (Pipeline.checkAnchor backend t)) >>= _ : Trail.Work Pipeline)).run.run trail'
        = _
      rw [hanchor]
      rfl

/-- A pipeline that is built has the compiled template and takes all records. -/
theorem build_eq_ok {hostHasRoles : Bool} {fallback : Option Fallback} {p : Pipeline}
    (hline : c.line.compile platform (.logging .default) none = .ok t)
    (h : (c.build platform clock hostHasRoles none fallback).run.run trail = (.ok p, trail')) :
    p.template = t ∧ p.redactor = c.redactor ∧ p.backend.TakesAll := by
  rw [run_build hline] at h
  split at h
  · cases h
  split at h
  · cases h
  case h_2 hstart =>
    cases h
    exact ⟨rfl, rfl, takesAll_of_startBackend hstart⟩

/-- **What is built**: just what has a filter and a backend. -/
theorem exists_build_iff {hostHasRoles : Bool} {fallback : Option Fallback}
    (hline : c.line.compile platform (.logging .default) none = .ok t) :
    (∃ p, (c.build platform clock hostHasRoles none fallback).run.run trail = (.ok p, trail')) ↔
      (∃ filter, c.filterTree hostHasRoles = .ok filter) ∧
      ∃ backend, (c.startBackend clock).run.run trail = (.ok backend, trail') := by
  rw [run_build hline]
  rcases c.filterTree hostHasRoles with fault | filter
  case error =>
    refine iff_of_false ?_ ?_
    · rintro ⟨p, h⟩
      cases congrArg Prod.fst h
    · rintro ⟨⟨filter, h⟩, -⟩
      cases h
  rcases (c.startBackend clock).run.run trail with ⟨fault | backend, finish⟩
  case error =>
    refine iff_of_false ?_ ?_
    · rintro ⟨p, h⟩
      cases congrArg Prod.fst h
    · rintro ⟨-, backend, h⟩
      cases congrArg Prod.fst h
  case ok =>
    constructor
    · rintro ⟨p, h⟩
      obtain rfl : finish = trail' := congrArg Prod.snd h
      exact ⟨⟨filter, rfl⟩, backend, rfl⟩
    · rintro ⟨-, other, h⟩
      obtain rfl : finish = trail' := congrArg Prod.snd h
      exact ⟨_, rfl⟩

end Build

/-! ## Committing a message -/

/-- **The record of an event** has the fields of the redacted one. -/
theorem Pipeline.record_of_redact {p : Pipeline} {e redacted : Event}
    (h : p.redactor.redact e = .ok redacted) :
    p.record e = (p.template.arguments redacted).map (p.template.template, ·) := by
  rw [record, h]
  rfl

/-- **The text that a handler makes of a record**: arguments are filled in if there are any. -/
def LogRecord.formatted (r : LogRecord) : Except String String :=
  if r.arguments.isEmpty then .ok r.template else substitute r.template r.arguments

/-- **A message is committed** between two trails, and how that ends: a logger takes one more record, of
which handlers make the message; a journal appends the line of a record with the message, when its file is
ready, and is refused otherwise. -/
inductive Backend.Commits (host : Host) (start finish : Trail) (message : String) :
    Backend → Except Fault Bool → Prop
  | logged (settings : LoggerSettings) (r : LogRecord) (hmessage : r.message = message)
    (hformatted : r.formatted = .ok message) (hemitted : finish.emitted = start.emitted ++ [.logged r]) :
    Commits host start finish message (.logging settings) (.ok true)
  | written (settings : JournalSettings) (template : String) (arguments : List String) (ready : Desk)
    (hready : (Journal.makeReady host.clock settings).run.run
      { start.desk with readings := start.desk.readings + 1 } = (.ok (), ready))
    (hdesk : finish.desk = Journal.appended
      (Journal.recordLine (host.clock start.desk.readings) message template arguments) ready) :
    Commits host start finish message (.journal settings) (.ok true)
  | refused (settings : JournalSettings) (fault fault' : Fault) (hready :
      (Journal.makeReady host.clock settings).run.run
        { start.desk with readings := start.desk.readings + 1 } = (.error fault, finish.desk)) :
    Commits host start finish message (.journal settings) (.error fault')

namespace Backend

variable {host : Host} {start finish start' finish' t t' : Trail} {call : Call} {message : String}
  {backend : Backend}

/-- Of the trails only the records and the files matter. -/
theorem Commits.congr {outcome : Except Fault Bool} (h : backend.Commits host start finish message outcome)
    (hstart : start.emitted = start'.emitted ∧ start.desk = start'.desk)
    (hfinish : finish.emitted = finish'.emitted ∧ finish.desk = finish'.desk) :
    backend.Commits host start' finish' message outcome := by
  cases h with
  | logged settings r hmessage hformatted hemitted =>
    exact .logged settings r hmessage hformatted (hfinish.1.symm.trans (hemitted.trans (by rw [hstart.1])))
  | written settings template arguments ready hready hdesk =>
    rw [hstart.2] at hready hdesk
    exact .written settings template arguments ready hready (hfinish.2.symm.trans hdesk)
  | refused settings fault fault' hready =>
    rw [hstart.2, hfinish.2] at hready
    exact .refused settings fault fault' hready

/-- A logger that takes all records takes one more. -/
theorem run_emit_logging {settings : LoggerSettings} (htakes : settings.threshold ≤ settings.level)
    (hmessage : substitute call.1 call.2 = .ok message) (t : Trail) :
    ((Backend.logging settings).emit host call.1 call.2).run.run t
      = (.ok (), { t with emitted := t.emitted ++ [.logged
          ⟨settings.level, if call.2.isEmpty then message else call.1, call.2, message⟩] }) := by
  unfold Backend.emit logRecord
  rw [hmessage]
  dsimp only [Except.map]
  rw [if_neg (Int.not_lt.mpr htakes)]
  rfl

/-- A journal works at its desk. -/
theorem run_emit_journal {settings : JournalSettings} (t : Trail) :
    ((Backend.journal settings).emit host call.1 call.2).run.run t
      = (((Journal.Step.emit call.1 call.2).run host.clock settings t.desk).1,
        { t with desk := ((Journal.Step.emit call.1 call.2).run host.clock settings t.desk).2 }) := rfl

/-- **A journal commits** the message of a record, or is refused. -/
theorem commits_journal {settings : JournalSettings} (hmessage : substitute call.1 call.2 = .ok message)
    {outcome : Except Fault Unit} {desk : Desk} (hfinish : t'.desk = desk)
    (hrun : (Journal.Step.emit call.1 call.2).run host.clock settings t.desk = (outcome, desk)) :
    Commits host t t' message (.journal settings) (outcome.map fun _ => true) := by
  have hcases := @Journal.emit_cases host.clock settings call.1 call.2 t.desk
  rcases hcases with ⟨_, _, hfail, -⟩ |
    ⟨other, hother, ⟨ready, hready, hwritten⟩ | ⟨fault, fault', ready, hready, hrefused⟩⟩
  · cases hfail.symm.trans hmessage
  · obtain rfl := Except.ok.inj (hother.symm.trans hmessage)
    cases hwritten.symm.trans hrun
    exact .written settings call.1 call.2 ready hready hfinish
  · cases hrefused.symm.trans hrun
    obtain rfl := hfinish
    exact .refused settings fault fault' hready

/-- **A backend that takes all records commits** the message of one. -/
theorem commits_emit (hmessage : substitute call.1 call.2 = .ok message) (htakes : backend.TakesAll)
    {outcome : Except Fault Unit}
    (hemit : (backend.emit host call.1 call.2).run.run t = (outcome, t')) :
    backend.Commits host t t' message (outcome.map fun _ => true) := by
  cases backend with
  | host sink => cases htakes
  | logging settings =>
    rw [run_emit_logging htakes hmessage] at hemit
    cases hemit
    refine .logged settings _ rfl ?_ rfl
    unfold LogRecord.formatted
    dsimp only
    split
    · rfl
    · exact hmessage
  | journal settings =>
    rw [run_emit_journal] at hemit
    obtain ⟨rfl, rfl⟩ := Prod.mk.inj hemit
    exact commits_journal hmessage rfl rfl

end Backend

namespace Turn

variable {turn : Turn} {start : Trail} {call : Call} {message : String}

/-- The filter leaves the records and the files. -/
theorem filtered_emitted : (turn.filtered start).emitted = start.emitted :=
  @keeps_evaluate _ Trail.emitted (fun _ _ _ => rfl) turn.pipeline turn.host turn.event start

theorem filtered_desk : (turn.filtered start).desk = start.desk :=
  @keeps_evaluate _ Trail.desk (fun _ _ _ => rfl) turn.pipeline turn.host turn.event start

/-- **An audited event with a record** goes to the backend. -/
theorem run_of_record (haudited : turn.IsAudited start)
    (hrecord : turn.pipeline.record turn.event = .ok call) :
    turn.run start = ((turn.reply start call).map fun _ => true, turn.emitted start call) := by
  obtain ⟨calls, hgoes, -⟩ := turn.exists_goes start
  generalize turn.run start = result at hgoes ⊢
  obtain ⟨outcome, finish⟩ := result
  dsimp only at hgoes ⊢
  cases hgoes with
  | unjudged fault hverdict => cases hverdict.symm.trans haudited
  | exempt hverdict => cases hverdict.symm.trans haudited
  | unrecorded fault micros _ hfail => cases hfail.symm.trans hrecord
  | called other _ hother =>
    cases hother.symm.trans hrecord
    rfl

/-- **An audited event without a record** leaves the records and the files. -/
theorem run_of_unrecorded {fault : Fault} (haudited : turn.IsAudited start)
    (hrecord : turn.pipeline.record turn.event = .error fault) : (turn.run start).1 = .error fault ∧
      (turn.run start).2.emitted = start.emitted ∧ (turn.run start).2.desk = start.desk := by
  obtain ⟨calls, hgoes, -⟩ := turn.exists_goes start
  generalize turn.run start = result at hgoes ⊢
  obtain ⟨outcome, finish⟩ := result
  dsimp only at hgoes ⊢
  cases hgoes with
  | unjudged fault hverdict => cases hverdict.symm.trans haudited
  | exempt hverdict => cases hverdict.symm.trans haudited
  | unrecorded other micros _ hfail =>
    cases hfail.symm.trans hrecord
    exact ⟨rfl, filtered_emitted, filtered_desk⟩
  | called other _ hother => cases hother.symm.trans hrecord

/-- What the backend does to the records and the files, the turn does. -/
theorem run_of_emit {outcome : Except Fault Unit} {finish : Trail} (haudited : turn.IsAudited start)
    (hrecord : turn.pipeline.record turn.event = .ok call)
    (hemit : (turn.emit call).run.run (turn.filtered start) = (outcome, finish)) :
    (turn.run start).1 = outcome.map (fun _ => true) ∧
      (turn.run start).2.emitted = finish.emitted ∧ (turn.run start).2.desk = finish.desk := by
  have hreply : turn.reply start call = outcome := congrArg Prod.fst hemit
  have hobserved : turn.emitted start call
      = Trail.observe .logging (finish.timer - (turn.filtered start).timer) finish :=
    congrArg (fun result : Except Fault Unit × Trail =>
      Trail.observe .logging (result.2.timer - (turn.filtered start).timer) result.2) hemit
  rw [run_of_record haudited hrecord, hreply, hobserved]
  exact ⟨rfl, rfl, rfl⟩

/-- **The message of a record is committed** for an audited event. -/
theorem commits_of_substitute (haudited : turn.IsAudited start)
    (hrecord : turn.pipeline.record turn.event = .ok call)
    (hmessage : substitute call.1 call.2 = .ok message) (htakes : turn.pipeline.backend.TakesAll) :
    turn.pipeline.backend.Commits turn.host start (turn.run start).2 message (turn.run start).1 := by
  obtain ⟨outcome, finish, hemit⟩ : ∃ outcome finish,
      (turn.emit call).run.run (turn.filtered start) = (outcome, finish) := ⟨_, _, rfl⟩
  obtain ⟨houtcome, hemitted, hdesk⟩ := run_of_emit haudited hrecord hemit
  rw [houtcome]
  exact (Backend.commits_emit hmessage htakes hemit).congr ⟨filtered_emitted, filtered_desk⟩
    ⟨hemitted.symm, hdesk.symm⟩

end Turn

end AuditTrail
