import Mathlib.Data.String.Basic
import AuditTrail.Proofs.LogFormat.Unescaped
import AuditTrail.Proofs.Pipeline.NakedOperation
import AuditTrail.Proofs.Pipeline.Passage

/-!
# Proofs/Pipeline/Acceptance — what an accepted template is good for

    template ──the anchor fits──▸ in force ──▸ its line is committed, where the literals are escaped
        └──does not fit──▸ the one before stays in force

A pipeline accepts a template by its anchor, and the template in force is the last one accepted
(`reloadedBy_eq`).  What is committed for an event is what substitution makes of the record
(`delivers_iff`): the line of the event where each percent sign of the literals is doubled, as by the
escape of the backend; and where there is no escape, exactly if no literal has a percent sign
(`template_in_force_delivers`).
-/

namespace AuditTrail

open AuditTrail.LogFormat AuditTrail.Substitution

/-! ## Escaped templates -/

/-- **The literals are escaped** in the template: each percent sign is doubled. -/
def Template.IsEscaped (t : Template) : Prop :=
  t.template.toList = joined t.head.toList (t.parts.map fun part => part.2.toList)

section Escaped

variable {c : Compiler} {format : String} {t : Template} {arguments : List String}

theorem isEscaped_iff (h : c.compile format = .ok t) : t.IsEscaped ↔
    t.template.toList = joined (scan format.toList).head (scan format.toList).following := by
  obtain ⟨-, -, -, -, -, hliterals, -⟩ := Compiler.compile_eq_ok h
  obtain ⟨hhead, htail⟩ := List.cons.inj hliterals
  have hfollowing : t.parts.map (fun part => part.2.toList) = (scan format.toList).following := by
    have hchars : String.toList ∘ String.ofList = id := funext fun literal => String.toList_ofList
    have hparts : t.parts.map (·.2) = (scan format.toList).following.map String.ofList := htail
    have hmap : (t.parts.map (·.2)).map String.toList = t.parts.map fun part => part.2.toList := List.map_map
    rw [← hmap, hparts, List.map_map, hchars, List.map_id]
  unfold Template.IsEscaped
  rw [hfollowing, hhead, String.toList_ofList]

/-- **The escape of the backends escapes** the literals. -/
theorem isEscaped_of_percent (h : c.compile format = .ok t) (hanchor : c.anchor = percentAnchor)
    (hescape : c.escape = some percentEscape) : t.IsEscaped := by
  obtain ⟨fields, anchor, escape, fallback⟩ := c
  obtain rfl : anchor = percentAnchor := hanchor
  obtain rfl : escape = some percentEscape := hescape
  exact (isEscaped_iff h).mpr (toList_template h)

theorem substitute_of_isEscaped (h : c.compile format = .ok t) (hescaped : t.IsEscaped)
    (hlength : arguments.length = t.extractors.length) :
    substitute t.template arguments = .ok (t.interleave arguments) := by
  rw [substitute_joined h ((isEscaped_iff h).mp hescaped), if_pos hlength]

end Escaped

/-! ## Committed messages -/

/-- The backend is a logger or a journal. -/
def Backend.IsOwn : Backend → Prop
  | .host _ => False
  | _ => True

/-- **Committing a message** with the template and the arguments that it is made of. -/
def Backend.commit (host : Host) (call : Call) (message : String) : Backend → Trail.Work Unit
  | .logging settings =>
    if settings.level < settings.threshold then return ()
    else Trail.handOver (.logged
      ⟨settings.level, if call.2.isEmpty then message else call.1, call.2, message⟩)
  | .journal settings => Trail.atDesk do
    let moment ← Journal.readClock host.clock
    Journal.telling "Failed to write audit record" (Journal.makeReady host.clock settings)
    Journal.append (Journal.recordLine moment message call.1 call.2)
  | .host _ => return ()

namespace Pipeline

variable {p : Pipeline} {host : Host} {e : Event} {call : Call} {message : String}

/-- **What substitution makes is committed.** -/
theorem emit_of_substitute {backend : Backend} (hown : backend.IsOwn)
    (h : substitute call.1 call.2 = .ok message) :
    backend.emit host call.1 call.2 = backend.commit host call message := by
  cases backend with
  | host sink => cases hown
  | logging settings =>
    unfold Backend.emit Backend.commit logRecord
    rw [h]
    dsimp only [Except.map]
    by_cases hbelow : settings.level < settings.threshold
    · simp only [if_pos hbelow]
    · simp only [if_neg hbelow]
  | journal settings =>
    unfold Backend.emit Backend.commit Journal.emit
    simp only [h]

/-- **A message is delivered for an event**: the event has a record, substitution makes the message of it,
and to process the event is to commit the message, unless the event is exempt. -/
def Delivers (p : Pipeline) (host : Host) (e : Event) (message : String) : Prop :=
  ∃ call, p.record e = .ok call ∧ substitute call.1 call.2 = .ok message ∧
    p.process host e = stages (m := Trail.Work) Trail.timed (p.evaluate host e) (.ok call) fun call =>
      p.backend.commit host call message

theorem delivers_iff (hown : p.backend.IsOwn) (hrecord : p.record e = .ok call) :
    p.Delivers host e message ↔ substitute call.1 call.2 = .ok message := by
  constructor
  · rintro ⟨other, hother, hmessage, -⟩
    obtain rfl := Except.ok.inj (hother.symm.trans hrecord)
    exact hmessage
  · intro hmessage
    have hprocess := Turn.process_eq_stages ⟨p, host, e⟩
    dsimp only at hprocess
    refine ⟨call, hrecord, hmessage, hprocess.trans ?_⟩
    rw [hrecord]
    unfold stages Turn.emit
    dsimp only
    rw [emit_of_substitute hown hmessage]

/-! ## Templates in force -/

theorem checkAnchor_eq_ok_iff {backend : Backend} {t : Template} :
    checkAnchor backend t = .ok () ↔ t.anchor = backend.anchor := by
  unfold checkAnchor
  split
  case isTrue hfits => exact iff_of_true rfl hfits
  case isFalse hmisfit => exact iff_of_false nofun hmisfit

/-- The pipeline after an attempt to give it another template. -/
def reloaded (p : Pipeline) (t : Template) : Pipeline :=
  match p.reload t with
  | .ok changed => changed
  | .error _ => p

/-- The pipeline after some attempts to give it another template. -/
def reloadedBy (p : Pipeline) (attempts : List Template) : Pipeline := attempts.foldl reloaded p

/-- **An attempt** gives the pipeline the template if the anchor fits, and is rejected otherwise. -/
theorem reload_cases (p : Pipeline) (t : Template) :
    t.anchor = p.backend.anchor ∧ p.reload t = .ok { p with template := t } ∨
      t.anchor ≠ p.backend.anchor ∧ ∃ fault, p.reload t = .error fault := by
  unfold reload checkAnchor
  split
  case isTrue hfits => exact .inl ⟨hfits, rfl⟩
  case isFalse hmisfit => exact .inr ⟨hmisfit, _, rfl⟩

/-- The last template accepted. -/
def inForce (p : Pipeline) (attempts : List Template) : Template :=
  (attempts.filter (·.anchor = p.backend.anchor)).getLastD p.template

/-- **After any attempts the last template accepted is in force**, and nothing else has changed. -/
theorem reloadedBy_eq (p : Pipeline) (attempts : List Template) :
    p.reloadedBy attempts = { p with template := p.inForce attempts } := by
  unfold reloadedBy
  induction attempts generalizing p with
  | nil => rfl
  | cons t rest ih =>
    rw [List.foldl_cons, ih]
    rcases reload_cases p t with ⟨hfits, hreload⟩ | ⟨hmisfit, fault, hreload⟩
    · have hchanged : p.reloaded t = { p with template := t } := by
        unfold reloaded
        rw [hreload]
      rw [hchanged]
      unfold inForce
      rw [List.filter_cons, if_pos (decide_eq_true hfits), List.getLastD_cons]
    · have hkept : p.reloaded t = p := by
        unfold reloaded
        rw [hreload]
      rw [hkept]
      unfold inForce
      rw [List.filter_cons, if_neg (mt of_decide_eq_true hmisfit)]

/-- A template in force fits. -/
theorem anchor_inForce (haccepted : checkAnchor p.backend p.template = .ok ()) (attempts : List Template) :
    (p.inForce attempts).anchor = p.backend.anchor := by
  have hmem : p.inForce attempts ∈ p.template :: attempts.filter (·.anchor = p.backend.anchor) :=
    List.getLastD_mem_cons
  rcases List.mem_cons.mp hmem with hfirst | hlater
  · rw [hfirst]
    exact checkAnchor_eq_ok_iff.mp haccepted
  · exact of_decide_eq_true (List.mem_filter.mp hlater).2

/-- The record of an event is made with the template in force. -/
theorem record_reloadedBy {redacted : Event} (hredact : p.redactor.redact e = .ok redacted)
    (attempts : List Template) : (p.reloadedBy attempts).record e
      = ((p.inForce attempts).arguments redacted).map ((p.inForce attempts).template, ·) := by
  rw [reloadedBy_eq]
  unfold record render
  rw [hredact]
  rfl

/-- **What an accepted template is good for.**  A pipeline that has been accepted with its template, for a
logger or a journal, has the last template accepted in force after any attempts to give it another one.  The
line of an event is delivered when the literals are escaped in the template.  They are with the escape of the
backend; without an escape, the line is delivered exactly when no literal has a percent sign.  An event has a
line when its fields have values that can be written, and where it has none its record fails as the line
does. -/
theorem template_in_force_delivers (hown : p.backend.IsOwn)
    (haccepted : checkAnchor p.backend p.template = .ok ()) (attempts : List Template) :
    p.reloadedBy attempts = { p with template := p.inForce attempts } ∧
    ∀ (c : Compiler) (format : String), c.compile format = .ok (p.inForce attempts) →
      ∀ (host : Host) (e redacted : Event), p.redactor.redact e = .ok redacted →
        (∀ line, (p.inForce attempts).line redacted = .ok line →
          ((p.inForce attempts).IsEscaped → (p.reloadedBy attempts).Delivers host e line) ∧
          (c.escape = p.backend.escape → (p.inForce attempts).IsEscaped) ∧
          (c.escape = none →
            ((p.reloadedBy attempts).Delivers host e line ↔ (p.inForce attempts).IsUnmarked))) ∧
        ((∃ line, (p.inForce attempts).line redacted = .ok line) ↔
          ∀ x ∈ (p.inForce attempts).extractors, x.Shows redacted) ∧
        ∀ fault, (p.inForce attempts).line redacted = .error fault →
          (p.reloadedBy attempts).record e = .error fault := by
  refine ⟨reloadedBy_eq p attempts, fun c format h host e redacted hredact =>
    ⟨fun line hline => ?_, Template.exists_line_iff, fun fault hfault => ?_⟩⟩
  · have hpercent : p.backend.anchor = percentAnchor ∧ p.backend.escape = some percentEscape := by
      cases hbackend : p.backend with
      | host sink =>
        rw [hbackend] at hown
        cases hown
      | logging settings => exact ⟨rfl, rfl⟩
      | journal settings => exact ⟨rfl, rfl⟩
    have hanchor : c.anchor = percentAnchor := by
      rw [← Compiler.anchor_of_compile_eq_ok h, anchor_inForce haccepted attempts, hpercent.1]
    obtain ⟨arguments, harguments, rfl⟩ := map_eq_ok_iff.mp hline
    have hlength : arguments.length = (p.inForce attempts).extractors.length :=
      length_of_mapM_eq_ok harguments
    have hrecord : (p.reloadedBy attempts).record e = .ok ((p.inForce attempts).template, arguments) := by
      rw [record_reloadedBy hredact, harguments]
      rfl
    have hown' : (p.reloadedBy attempts).backend.IsOwn := by
      rw [reloadedBy_eq]
      exact hown
    have hdelivers (message : String) : (p.reloadedBy attempts).Delivers host e message ↔
        substitute (p.inForce attempts).template arguments = .ok message := by
      rw [delivers_iff hown' hrecord]
    refine ⟨fun hescaped => ?_, fun hescape => ?_, fun hescape => ?_⟩
    · exact (hdelivers _).mpr (substitute_of_isEscaped h hescaped hlength)
    · exact isEscaped_of_percent h hanchor (hescape.trans hpercent.2)
    · exact (hdelivers _).trans (substitute_unescaped_iff h hescape hanchor hlength)
  · rw [record_reloadedBy hredact, map_eq_error_iff]
    exact map_eq_error_iff.mp hfault

/-- A template for another anchor. -/
def braceTemplate : Template := ⟨"", "", "\x7b\x7d", "", []⟩

/-- An event of `alice` without an operation. -/
def silentEvent : Event := { creatingBob "" with operation := none }

theorem userLine_delivered :
    checkAnchor operationLog.backend operationLog.template = .ok () ∧
    operationLog.reloadedBy [userTemplate, braceTemplate] = { operationLog with template := userTemplate } ∧
    (operationLog.reloadedBy [userTemplate, braceTemplate]).Delivers .still silentEvent "100%alice%d" := by
  have hinForce : operationLog.inForce [userTemplate, braceTemplate] = userTemplate := rfl
  obtain ⟨hreloaded, hlines⟩ :=
    template_in_force_delivers (p := operationLog) trivial rfl [userTemplate, braceTemplate]
  rw [hinForce] at hreloaded hlines
  have hline : userTemplate.line silentEvent = .ok "100%alice%d" := by decide +kernel
  obtain ⟨hdelivers, hescaped, -⟩ :=
    (hlines _ _ compile_user .still silentEvent silentEvent rfl).1 _ hline
  exact ⟨rfl, hreloaded, hdelivers (hescaped rfl)⟩

/-- The user behind a percent sign, compiled without an escape. -/
def bareTemplate : Template :=
  ⟨"100% ${USER}", "100% %s", "%s", "100% ",
    [(⟨⟨"USER".toList, none⟩, fun e => .ok (.text e.principal)⟩, "")]⟩

theorem compile_bare : (⟨userFields, percentAnchor, none, none⟩ : Compiler).compile "100% ${USER}"
    = .ok bareTemplate := by
  have hscan : scan "100% ${USER}".toList = ⟨"100% ".toList, [(⟨"USER".toList, none⟩, [])]⟩ := by
    decide +kernel
  rw [Compiler.compile, hscan]
  rfl

/-- **A template that cannot be substituted is accepted**: its anchor fits, the event has a line, and to
process the event is refused for the template. -/
theorem bareTemplate_accepted :
    (⟨userFields, percentAnchor, none, none⟩ : Compiler).compile "100% ${USER}" = .ok bareTemplate ∧
    operationLog.reload bareTemplate = .ok { operationLog with template := bareTemplate } ∧
    bareTemplate.line silentEvent = .ok "100% alice" ∧
    ((({ operationLog with template := bareTemplate } : Pipeline).process .still
      silentEvent).run.run (Trail.ofDesk (Desk.ofTree .empty))).1
        = .error (.emit ("Cannot substitute audit record into '100% %s': " ++
            "unsupported format character '%' (0x25) at index 5")) :=
  ⟨compile_bare, rfl, by decide +kernel, by decide +kernel⟩

end Pipeline

end AuditTrail
