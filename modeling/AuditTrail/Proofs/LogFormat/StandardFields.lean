import AuditTrail.Proofs.LogFormat.Rendering
import AuditTrail.Proofs.Time.Dating

/-!
# Proofs/LogFormat/StandardFields — which events can be shown by the standard fields

    client, user, batch, status, operation ──▸ a text for every event
    port                                   ──▸ a text where `PortShown`
    timestamp                              ──▸ a text where `TimestampShown`

Of the standard fields only the timestamp can fail, and only when it is written in a time format; as numbers the
timestamp and the port cannot be written when they have too many digits (`standardFieldsWith_cases`).  So a format
over them has arguments for an event exactly when those of the two that it shows can be shown
(`exists_arguments_iff_shown`).
-/

namespace AuditTrail

open AuditTrail.LogFormat AuditTrail.Time

variable {zones : Zones} {timeFormat timeZone : Option String} {timestamp : FieldFunction} {fields : Registry}
  {e : Event}

/-- **The timestamp can be shown**: as a number that can be written when there is no time format, and else in the
zone, which dates it. -/
def TimestampShown (zones : Zones) (timeFormat timeZone : Option String) (millis : Int) : Prop :=
  match timeFormat with
  | none => (FieldValue.integer millis).HasText
  | some _ => ∀ zone, zoneOf zones timeZone = .ok zone → zone.Dates millis

/-- **The port can be shown**: if it is known, it can be written. -/
def PortShown (port : Option Int) : Prop := ∀ number ∈ port, (FieldValue.integer number).HasText

/-- **Which timestamps have a value that can be written.** -/
theorem timestampField_shows_iff (h : timestampField zones timeFormat timeZone = .ok timestamp) (e : Event) :
    (∃ value, timestamp e = .ok value ∧ value.HasText) ↔
      TimestampShown zones timeFormat timeZone e.timestamp := by
  rw [timestampField] at h
  obtain ⟨zone, hzone, h⟩ := bind_eq_ok_iff.mp h
  cases timeFormat with
  | none =>
    obtain rfl := Except.ok.inj h
    refine ⟨?_, fun hfits => ⟨_, rfl, hfits⟩⟩
    rintro ⟨_, hvalue, hfits⟩
    obtain rfl := Except.ok.inj hvalue
    exact hfits
  | some text =>
    obtain ⟨format, hformat, h⟩ := bind_eq_ok_iff.mp h
    obtain rfl := Except.ok.inj h
    have hshown : TimestampShown zones (some text) timeZone e.timestamp ↔ zone.Dates e.timestamp :=
      ⟨fun h => h zone hzone, fun h other hother => Except.ok.inj (hzone.symm.trans hother) ▸ h⟩
    rw [hshown, ← apply_eq_ok_iff]
    dsimp only
    cases format.apply zone e.timestamp with
    | ok text => exact iff_of_true ⟨_, rfl, trivial⟩ ⟨_, rfl⟩
    | error error => exact iff_of_false (fun ⟨_, h, _⟩ => nomatch h) (fun ⟨_, h⟩ => nomatch h)

/-- A value of the timestamp field can be written if the timestamp can. -/
theorem hasText_of_timestampField (h : timestampField zones timeFormat timeZone = .ok timestamp)
    {value : FieldValue} (hvalue : timestamp e = .ok value) (hfits : (FieldValue.integer e.timestamp).HasText) :
    value.HasText := by
  rw [timestampField] at h
  obtain ⟨zone, -, h⟩ := bind_eq_ok_iff.mp h
  cases timeFormat with
  | none =>
    obtain rfl := Except.ok.inj h
    obtain rfl := Except.ok.inj hvalue
    exact hfits
  | some text =>
    obtain ⟨format, -, h⟩ := bind_eq_ok_iff.mp h
    obtain rfl := Except.ok.inj h
    dsimp only at hvalue
    split at hvalue <;> cases hvalue
    trivial

/-- **The standard fields**: the timestamp, the port, and those that have a text for every event. -/
theorem standardFieldsWith_cases {name : String} {function : FieldFunction}
    (h : (name, some function) ∈ standardFieldsWith timestamp) :
    name = "TIMESTAMP" ∧ function = timestamp ∨
    name = "CLIENT_PORT" ∧
      (∀ e, (∃ value, function e = .ok value ∧ value.HasText) ↔ PortShown e.clientPort) ∧
      (∀ e cause, function e ≠ .error cause) ∨
    name ≠ "TIMESTAMP" ∧ name ≠ "CLIENT_PORT" ∧ ∀ e, ∃ value, function e = .ok value ∧ value.HasText := by
  simp only [standardFieldsWith, List.mem_cons, List.not_mem_nil, or_false, Prod.mk.injEq,
    Option.some.injEq] at h
  rcases h with ⟨rfl, rfl⟩ | ⟨rfl, rfl⟩ | ⟨rfl, rfl⟩ | ⟨rfl, rfl⟩ | ⟨rfl, rfl⟩ | ⟨rfl, rfl⟩ | ⟨rfl, rfl⟩ |
    ⟨rfl, rfl⟩ | ⟨rfl, rfl⟩
  case inr.inl =>
    refine .inr (.inl ⟨rfl, fun e => ?_, fun e cause => nofun⟩)
    cases hport : e.clientPort <;> simp [PortShown, FieldValue.HasText, hport]
  case inr.inr.inr.inr.inr.inr.inr.inr => exact .inl ⟨rfl, rfl⟩
  -- Every other field is a text, or absent.
  case inr.inr.inr.inl => exact .inr (.inr ⟨by decide, by decide, fun e => ⟨_, rfl, trivial⟩⟩)
  case inr.inr.inr.inr.inr.inl => exact .inr (.inr ⟨by decide, by decide, fun e => ⟨_, rfl, trivial⟩⟩)
  all_goals
    refine .inr (.inr ⟨by decide, by decide, fun e => ⟨_, rfl, ?_⟩⟩)
    exact FieldValue.hasText_ofText? _

section Compiled

variable {anchor : String} {escape : Option (String × String)} {format : String} {t : Template}

/-- **When an extractor over the standard fields shows an event**, and how it fails otherwise. -/
theorem extractor_standardFields (hfields : standardFields zones timeFormat timeZone = .ok fields)
    (h : (⟨fields, anchor, escape, none⟩ : Compiler).compile format = .ok t) {x : Extractor}
    (hx : x ∈ t.extractors) (e : Event) :
    (x.Shows e ↔ (x.field = "TIMESTAMP" → TimestampShown zones timeFormat timeZone e.timestamp) ∧
      (x.field = "CLIENT_PORT" → PortShown e.clientPort)) ∧
    ∀ fault, x.Fails e fault → (∃ reason, fault = .render "TIMESTAMP" reason) ∨
      fault = FieldValue.tooLong ∧ (¬ (FieldValue.integer e.timestamp).HasText ∨ ¬ PortShown e.clientPort) := by
  obtain ⟨timestamp, htimestamp, rfl⟩ := map_eq_ok_iff.mp hfields
  have hmem := Registry.mem_of_resolve? (Compiler.resolve?_of_compile_eq_ok h x hx)
  rcases standardFieldsWith_cases hmem with ⟨hname, hfunction⟩ | ⟨hname, hshows, htotal⟩ | ⟨hname, hname', hshows⟩
  · have hnotPort : ¬ x.field = "CLIENT_PORT" := by rw [hname]; decide
    refine ⟨?_, ?_⟩
    · rw [Extractor.Shows, hfunction, timestampField_shows_iff htimestamp, imp_iff_right hname,
        and_iff_left fun heq => absurd heq hnotPort]
    · rintro fault (hfails | ⟨hvalue, hlong⟩)
      · exact .inl ⟨_, by rw [hname]⟩
      · rw [hfunction] at hvalue
        exact .inr ⟨rfl, .inl fun hfits => hlong (hasText_of_timestampField htimestamp hvalue hfits)⟩
  · have hnotTime : ¬ x.field = "TIMESTAMP" := by rw [hname]; decide
    refine ⟨?_, ?_⟩
    · rw [Extractor.Shows, hshows, imp_iff_right hname, and_iff_right fun heq => absurd heq hnotTime]
    · rintro fault (hfails | ⟨hvalue, hlong⟩)
      · exact absurd hfails (htotal e _)
      · have hfails := Extractor.Fails.writing hvalue hlong
        exact .inr ⟨rfl, .inr fun hport => hfails.not_shows ((hshows e).mpr hport)⟩
  · exact ⟨iff_of_true (hshows e) ⟨fun heq => absurd heq hname, fun heq => absurd heq hname'⟩,
      fun fault hfails => absurd (hshows e) hfails.not_shows⟩

/-- **Why there are no arguments** for a format over the standard fields: the timestamp has no date, or a number
is too long. -/
theorem fault_of_arguments (hfields : standardFields zones timeFormat timeZone = .ok fields)
    (h : (⟨fields, anchor, escape, none⟩ : Compiler).compile format = .ok t) {fault : Fault}
    (hfault : t.arguments e = .error fault) : (∃ reason, fault = .render "TIMESTAMP" reason) ∨
      fault = FieldValue.tooLong ∧ (¬ (FieldValue.integer e.timestamp).HasText ∨ ¬ PortShown e.clientPort) := by
  obtain ⟨before, x, after, hsplit, -, hfails⟩ := Template.arguments_eq_error_iff.mp hfault
  have hx : x ∈ t.extractors := hsplit ▸ List.mem_append_right before List.mem_cons_self
  exact (extractor_standardFields hfields h hx e).2 fault hfails

/-- **Which events have arguments** for a format over the standard fields: those of which the timestamp can be
shown, if the format shows it, and the port, if it shows that.  A failure tells the timestamp, or is that of a
number that cannot be written. -/
theorem exists_arguments_iff_shown (hfields : standardFields zones timeFormat timeZone = .ok fields)
    (h : (⟨fields, anchor, escape, none⟩ : Compiler).compile format = .ok t) (e : Event) :
    ((∃ arguments, t.arguments e = .ok arguments) ↔
      ("TIMESTAMP" ∈ t.fieldNames → TimestampShown zones timeFormat timeZone e.timestamp) ∧
      ("CLIENT_PORT" ∈ t.fieldNames → PortShown e.clientPort)) ∧
    ∀ fault, t.arguments e = .error fault →
      (∃ reason, fault = .render "TIMESTAMP" reason) ∨ fault = FieldValue.tooLong := by
  refine ⟨?_, fun fault hfault => (fault_of_arguments hfields h hfault).imp_right And.left⟩
  have hshows (x : Extractor) (hx : x ∈ t.extractors) := (extractor_standardFields hfields h hx e).1
  have hnamed (name : String) : name ∈ t.fieldNames ↔ ∃ x ∈ t.extractors, x.field = name := List.mem_map
  rw [Template.exists_arguments_iff]
  constructor
  · intro hall
    refine ⟨fun hname => ?_, fun hname => ?_⟩ <;> obtain ⟨x, hx, hfield⟩ := (hnamed _).mp hname
    · exact ((hshows x hx).mp (hall x hx)).1 hfield
    · exact ((hshows x hx).mp (hall x hx)).2 hfield
  · rintro ⟨htime, hport⟩ x hx
    exact (hshows x hx).mpr ⟨fun hfield => htime ((hnamed _).mpr ⟨x, hx, hfield⟩),
      fun hfield => hport ((hnamed _).mpr ⟨x, hx, hfield⟩)⟩

end Compiled

/-- The timestamp as a year, in universal time. -/
def yearField : FieldFunction := fun e =>
  match TimeFormat.apply [.directive .year] .utc e.timestamp with
  | .ok s => .ok (.text s)
  | .error error => .error (timeFault error)

/-- A line of the year. -/
def yearTemplate : Template :=
  ⟨"${TIMESTAMP}", "%s", "%s", "", [(⟨⟨"TIMESTAMP".toList, none⟩, yearField⟩, "")]⟩

theorem standardFields_year : standardFields .universal (some "%Y") none = .ok (standardFieldsWith yearField) :=
  rfl

theorem compile_year :
    (⟨standardFieldsWith yearField, "%s", none, none⟩ : Compiler).compile "${TIMESTAMP}" = .ok yearTemplate := by
  have hscan : scan "${TIMESTAMP}".toList = ⟨[], [(⟨"TIMESTAMP".toList, none⟩, [])]⟩ := by decide +kernel
  rw [Compiler.compile, hscan]
  rfl

/-- A connection at a time, of which nothing else is known. -/
def connectingAt (millis : Int) : Event :=
  ⟨"bob", none, none, none, none, .attempt, none, true, none, [], .connections, millis⟩

/-- The last millisecond of the year 9999 has a year, where the host is in universal time. -/
theorem year9999_shown :
    standardFields .universal (some "%Y") none = .ok (standardFieldsWith yearField) ∧
    (⟨standardFieldsWith yearField, "%s", none, none⟩ : Compiler).compile "${TIMESTAMP}" = .ok yearTemplate ∧
    ∃ arguments, yearTemplate.arguments (connectingAt 253402300799999) = .ok arguments := by
  refine ⟨standardFields_year, compile_year, ?_⟩
  refine (exists_arguments_iff_shown standardFields_year compile_year _).1.mpr
    ⟨fun _ zone hzone => ?_, fun _ => nofun⟩
  obtain rfl := Except.ok.inj hzone
  decide

/-- **The year 10000 fails**: a timestamp that the event may have is not rendered in an accepted time format. -/
theorem year10000_fails :
    ¬ (∀ (zones : Zones) (timeFormat timeZone : Option String) (fields : Registry) (anchor format : String)
      (escape : Option (String × String)) (t : Template) (e : Event),
      standardFields zones timeFormat timeZone = .ok fields →
      (⟨fields, anchor, escape, none⟩ : Compiler).compile format = .ok t →
      ∃ arguments, t.arguments e = .ok arguments) ∧
    yearTemplate.arguments (connectingAt 253402300800000)
      = .error (.render "TIMESTAMP" "year 10000 is out of range") := by
  have hfails : yearTemplate.arguments (connectingAt 253402300800000)
      = .error (.render "TIMESTAMP" "year 10000 is out of range") := by decide +kernel
  refine ⟨fun h => ?_, hfails⟩
  obtain ⟨arguments, harguments⟩ :=
    h _ _ _ _ _ _ _ _ (connectingAt 253402300800000) standardFields_year compile_year
  cases hfails.symm.trans harguments

end AuditTrail
