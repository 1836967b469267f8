import AuditTrail.Proofs.LogFormat.Resolution
import AuditTrail.Proofs.Pipeline.Commit

/-!
# Proofs/Pipeline/Refusals — how the log format of a configuration is refused

    anchor, escape ──▸ zone ──▸ time format ──▸ fields ──▸ template
          │             ├────────────┼─────────────┘
          └─────────────┼────────────┴──▸ configuration error
                        └───────────────▸ failure of looking the zone up

For a logger and a journal each check of a log format tells a configuration error, with one exception: the
host looks the zone up, and when that fails otherwise than for a name of no zone, the failure is told as it
is (`compile_isTold_iff`).
-/

namespace AuditTrail

open AuditTrail.LogFormat AuditTrail.Time

/-- **The outcome is a value or a configuration error.** -/
def IsTold {α : Type} (outcome : Except Fault α) : Prop :=
  (∃ a, outcome = .ok a) ∨ ∃ reason, outcome = .error (.configuration reason)

/-- **A refusal of the operating system to open a zone**: there is a directory, or the name is too long for a
file. -/
def IsZoneRefusal (fault : Fault) : Prop :=
  ∃ failure, fault = .system failure ∧ (failure.cause = .isDirectory ∨ failure.cause = .nameTooLong)

/-- **How hosts look zones up**: a name that gives no zone is unknown or malformed, or the operating system
refuses to open it. -/
def Time.Zones.FailsBySystem (zones : Zones) : Prop :=
  ∀ name fault, zones.find name = .error (.raised fault) → IsZoneRefusal fault

theorem IsZoneRefusal.ne_configuration {fault : Fault} (h : IsZoneRefusal fault) (reason : String) :
    fault ≠ .configuration reason := by
  obtain ⟨failure, rfl, -⟩ := h
  exact nofun

variable {platform : Platform} {zones : Zones} {format : String} {timeFormat timeZone : Option String}
  {name : String} {error : FormatError} {fault : Fault} {fallback : Option Fallback} {fields : Registry}

/-! ## Zones and time formats -/

/-- **What a zone that is not there is told as**: a configuration error, or as the failure to look it up. -/
theorem zoneOf_eq_error (h : zoneOf zones timeZone = .error error) : ∃ name, timeZone = some name ∧
    (error = .unknownZone name ∨
      ∃ fault, error = .unreadableZone fault ∧ zones.find name = .error (.raised fault)) := by
  cases timeZone with
  | none => cases h
  | some name =>
    refine ⟨name, rfl, ?_⟩
    unfold zoneOf at h
    dsimp only at h
    split at h <;> cases h
    case h_2 => exact .inl rfl
    case h_3 => exact .inl rfl
    case h_4 hfind => exact .inr ⟨_, rfl, hfind⟩

theorem zoneOf_of_raised (h : zones.find name = .error (.raised fault)) :
    zoneOf zones (some name) = .error (.unreadableZone fault) := by
  unfold zoneOf
  dsimp only
  rw [h]

theorem timeFormatOf_eq_error (h : timeFormatOf format = .error error) (words : PatternWords) :
    ∃ reason, error.fault words = .configuration reason := by
  unfold timeFormatOf at h
  split_ifs at h
  · cases h
    exact ⟨_, rfl⟩
  · rcases hread : TimeFormat.read format.toList with letter | read <;> rw [hread] at h <;> cases h
    exact ⟨_, rfl⟩

/-- **What the standard fields are refused for**: the zone, or else the time format. -/
theorem standardFields_eq_error (h : standardFields zones timeFormat timeZone = .error error)
    (words : PatternWords) : (∃ reason, error.fault words = .configuration reason) ∨
      ∃ name fault, timeZone = some name ∧ zones.find name = .error (.raised fault) ∧
        error = .unreadableZone fault := by
  rw [standardFields, map_eq_error_iff, timestampField] at h
  rcases bind_eq_error_iff.mp h with hzone | ⟨zone, -, h⟩
  · obtain ⟨name, rfl, rfl | ⟨fault, rfl, hfind⟩⟩ := zoneOf_eq_error hzone
    · exact .inl ⟨_, rfl⟩
    · exact .inr ⟨name, fault, rfl, hfind, rfl⟩
  · cases timeFormat with
    | none => cases h
    | some format =>
      rcases bind_eq_error_iff.mp h with hformat | ⟨_, -, hreturn⟩
      · exact .inl (timeFormatOf_eq_error hformat words)
      · cases hreturn

/-- The zone is looked up first. -/
theorem standardFields_of_raised (h : zones.find name = .error (.raised fault)) :
    standardFields zones timeFormat (some name) = .error (.unreadableZone fault) := by
  rw [standardFields, map_eq_error_iff, timestampField]
  exact bind_eq_error_iff.mpr (.inl (zoneOf_of_raised h))

/-! ## Formats -/

/-- **What a format is refused for** by a compiler for `%`: a field that is not known. -/
theorem Compiler.percent_compile_eq_error
    (h : (Compiler.percent fields fallback).compile format = .error error) :
    ∃ name, error = .unknownField name := by
  have hpattern : (Compiler.percent fields fallback).escapePattern = .ok (some (.ofChar '%', "%%")) := by
    rw [Compiler.escapePattern, Compiler.percent]
    simp only [percentEscape, parse?_percent]
  rcases compile_eq_error_iff.mp h with ⟨hempty, -⟩ | ⟨-, hescape | ⟨pattern, hfound, hfield | ⟨-, hescape⟩⟩⟩
  · cases hempty
  · cases hpattern.symm.trans hescape
  · obtain ⟨-, _, token, _, -, -, -, rfl⟩ := mapM_extractor_eq_error_iff.mp hfield
    exact ⟨_, rfl⟩
  · obtain rfl := Except.ok.inj (hpattern.symm.trans hfound)
    rw [Compiler.escaping, parse_percent] at hescape
    cases hescape

/-! ## The log format of a configuration -/

namespace LineSettings

variable {line : LineSettings} {backend : Backend}

/-- **The settings fit a backend that fills in with `%`**: they leave the anchor and the escape to it, or they
have its own.  An empty anchor is none. -/
structure FitsPercent (line : LineSettings) : Prop where
  anchor : line.anchor = none ∨ line.anchor = some "" ∨ line.anchor = some percentAnchor
  escape : line.escape = none ∨ line.escape = some percentEscape

theorem ownAnchor?_getD_eq_iff : line.ownAnchor?.getD percentAnchor = percentAnchor ↔
    line.anchor = none ∨ line.anchor = some "" ∨ line.anchor = some percentAnchor := by
  unfold ownAnchor?
  cases line.anchor with
  | none => simp
  | some anchor =>
    by_cases hempty : anchor = "" <;> simp [Option.filter, hempty]

theorem orElse_escape_eq_iff : (line.escape.orElse fun _ => some percentEscape) = some percentEscape ↔
    line.escape = none ∨ line.escape = some percentEscape := by
  cases line.escape <;> simp

theorem fitsPercent_iff : line.FitsPercent ↔ line.ownAnchor?.getD percentAnchor = percentAnchor ∧
    (line.escape.orElse fun _ => some percentEscape) = some percentEscape := by
  rw [ownAnchor?_getD_eq_iff, orElse_escape_eq_iff]
  exact ⟨fun h => ⟨h.anchor, h.escape⟩, fun h => ⟨h.1, h.2⟩⟩

/-- Settings that fit are compiled with the standard fields. -/
theorem compile_of_fitsPercent (hown : backend.IsOwn) (hfits : line.FitsPercent) :
    line.compile platform backend fallback = (do
      let fields ← standardFields platform.zones line.timeFormat line.timeZone
      (Compiler.percent fields fallback).compile line.format : Except FormatError Template).mapError
        (FormatError.fault platform.words) := by
  obtain ⟨hanchor, hescape⟩ := fitsPercent_iff.mp hfits
  unfold compile
  rw [hown.anchor_eq, hown.escape_eq]
  dsimp only
  rw [if_neg (not_not_intro hanchor), if_neg (not_not_intro hescape), hanchor, hescape]
  rfl

/-- Settings that do not fit are told. -/
theorem compile_of_not_fitsPercent (hown : backend.IsOwn) (hfits : ¬ line.FitsPercent) :
    ∃ reason, line.compile platform backend fallback = .error (.configuration reason) := by
  rw [fitsPercent_iff, not_and_or] at hfits
  unfold compile
  rw [hown.anchor_eq, hown.escape_eq]
  dsimp only
  by_cases hanchor : line.ownAnchor?.getD percentAnchor = percentAnchor
  · rw [if_neg (not_not_intro hanchor), if_pos (hfits.resolve_left (not_not_intro hanchor))]
    exact ⟨_, rfl⟩
  · rw [if_pos hanchor]
    exact ⟨_, rfl⟩

/-- **A failure to look the zone up** comes out as it is, whatever the format is. -/
theorem compile_of_raised (hown : backend.IsOwn) (hfits : line.FitsPercent)
    (hzone : line.timeZone = some name) (h : platform.zones.find name = .error (.raised fault)) :
    line.compile platform backend fallback = .error fault := by
  rw [compile_of_fitsPercent hown hfits, hzone, standardFields_of_raised h]
  rfl

/-- **Every other setting is told.** -/
theorem isTold_compile (hown : backend.IsOwn)
    (hfound : ∀ name fault, line.timeZone = some name → platform.zones.find name ≠ .error (.raised fault)) :
    IsTold (line.compile platform backend fallback) := by
  by_cases hfits : line.FitsPercent
  case neg => exact .inr (compile_of_not_fitsPercent hown hfits)
  rw [compile_of_fitsPercent hown hfits]
  rcases hfields : standardFields platform.zones line.timeFormat line.timeZone with error | fields
  case error =>
    rcases standardFields_eq_error hfields platform.words with ⟨reason, hfault⟩ | ⟨name, fault, hzone, hfind, -⟩
    · exact .inr ⟨reason, congrArg Except.error hfault⟩
    · exact absurd hfind (hfound name fault hzone)
  case ok =>
    show IsTold (((Compiler.percent fields fallback).compile line.format).mapError
      (FormatError.fault platform.words))
    rcases hcompile : (Compiler.percent fields fallback).compile line.format with error | t
    case error =>
      obtain ⟨name, rfl⟩ := Compiler.percent_compile_eq_error hcompile
      exact .inr ⟨_, rfl⟩
    case ok => exact .inl ⟨t, rfl⟩

/-- **How a log format is refused** for a logger or a journal.  It is compiled, or it is told as a configuration
error, unless its settings fit and its zone is one that the operating system refuses to open; then that refusal
comes out as it is. -/
theorem compile_isTold_iff (hzones : platform.zones.FailsBySystem) (hown : backend.IsOwn) :
    (IsTold (line.compile platform backend fallback) ↔
      ¬ (line.FitsPercent ∧ ∃ name fault, line.timeZone = some name ∧
        platform.zones.find name = .error (.raised fault))) ∧
    ∀ name fault, line.FitsPercent → line.timeZone = some name →
      platform.zones.find name = .error (.raised fault) →
      line.compile platform backend fallback = .error fault ∧ IsZoneRefusal fault := by
  refine ⟨⟨?_, ?_⟩, fun name fault hfits hzone h => ⟨compile_of_raised hown hfits hzone h, hzones name fault h⟩⟩
  · rintro htold ⟨hfits, name, fault, hzone, h⟩
    rw [compile_of_raised hown hfits hzone h] at htold
    rcases htold with ⟨t, ht⟩ | ⟨reason, hreason⟩
    · cases ht
    · exact (hzones name fault h).ne_configuration reason (Except.error.inj hreason)
  · intro h
    by_cases hfits : line.FitsPercent
    · exact isTold_compile hown fun name fault hzone hfind => h ⟨hfits, name, fault, hzone, hfind⟩
    · exact .inr (compile_of_not_fitsPercent hown hfits)

/-- A file name of 256 letters. -/
def longName : String := String.ofList (List.replicate 256 'a')

/-- A host in universal time, the zones of which are files: a continent is a directory, and no name may be too
long. -/
def filedZones : Zones where
  own := .utc
  find name :=
    if name = "UTC" then .ok .utc
    else if name = "Europe" then .error (.raised (.system ⟨.isDirectory, ["zoneinfo/Europe"]⟩))
    else if name = longName then .error (.raised (.system ⟨.nameTooLong, ["zoneinfo/" ++ longName]⟩))
    else .error .unknown

theorem filedZones_failsBySystem : filedZones.FailsBySystem := by
  intro name fault h
  unfold filedZones at h
  dsimp only at h
  split_ifs at h <;> cases h
  · exact ⟨_, rfl, .inl rfl⟩
  · exact ⟨_, rfl, .inr rfl⟩

/-- The user, with a continent for a zone. -/
def continental : LineSettings := ⟨"${USER}", none, none, none, some "Europe"⟩

/-- **A continent is no zone**, and this is not told as a configuration error. -/
theorem continental_not_told : filedZones.FailsBySystem ∧
    ¬ IsTold (continental.compile ⟨filedZones, .silent⟩ (.logging .default) none) := by
  refine ⟨filedZones_failsBySystem, ?_⟩
  have hown : (Backend.logging .default).IsOwn := trivial
  have hfind : filedZones.find "Europe"
      = .error (.raised (.system ⟨.isDirectory, ["zoneinfo/Europe"]⟩)) := rfl
  rw [compile_of_raised hown ⟨.inl rfl, .inl rfl⟩ rfl hfind]
  rintro (⟨t, ht⟩ | ⟨reason, hreason⟩)
  · cases ht
  · cases hreason

/-- A format with an unknown field and a bad time format, in a zone with too long a name. -/
def farOff : LineSettings := ⟨"${ROLE}", some "", some ("%", "%%"), some "%", some longName⟩

def ordinaryJournal : Backend := .journal ⟨Path.parse "audit.jsonl", 100, 2, true⟩

/-- The operating system is heard before the time format and the field are looked at, and not at all where the
anchor is another one. -/
theorem farOff_refused : filedZones.FailsBySystem ∧
    farOff.compile ⟨filedZones, .silent⟩ ordinaryJournal none
      = .error (.system ⟨.nameTooLong, ["zoneinfo/" ++ longName]⟩) ∧
    IsTold ({ farOff with anchor := some "?" }.compile ⟨filedZones, .silent⟩ ordinaryJournal none) := by
  have hown : ordinaryJournal.IsOwn := trivial
  have hfind : filedZones.find longName
      = .error (.raised (.system ⟨.nameTooLong, ["zoneinfo/" ++ longName]⟩)) := by
    unfold filedZones
    dsimp only
    rw [if_neg (by decide +kernel), if_neg (by decide +kernel), if_pos rfl]
  have hzones : (⟨filedZones, .silent⟩ : Platform).zones.FailsBySystem := filedZones_failsBySystem
  refine ⟨filedZones_failsBySystem,
    ((compile_isTold_iff hzones hown).2 _ _ ⟨.inr (.inl rfl), .inr rfl⟩ rfl hfind).1,
    (compile_isTold_iff hzones hown).1.mpr fun h => ?_⟩
  obtain hnone | hempty | hown := h.1.anchor
  · cases hnone
  · exact absurd (Option.some.inj hempty) (by decide)
  · exact absurd (Option.some.inj hown) (by decide)

end LineSettings

end AuditTrail
