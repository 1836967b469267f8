import AuditTrail.LogFormat.Field
import AuditTrail.Proofs.Time.DirectivePattern

/-!
# Proofs/LogFormat/TimeFormats — which time formats a timestamp field takes

    %H:%M%%       a field
    ""            empty format
    %H%%%Q        unsupported directive %Q
    100%          unsupported directive %

With a zone that there is, a time format makes a timestamp field exactly when it is not empty and a row of plain
characters and directives; else it is refused with a configuration error, which tells the first directive that
there is not (`timestampField_takes`).
-/

namespace AuditTrail

open AuditTrail.Time

variable {zones : Zones} {timeZone : Option String} {zone : Zone} {text : String} {letter : Option Char}

/-! ## Time formats -/

theorem timeFormatOf_of_ne (h : text ≠ "") :
    timeFormatOf text = (TimeFormat.read text.toList).mapError (.unsupportedDirective text) := by
  rw [timeFormatOf, if_neg (mt String.isEmpty_iff.mp h)]

/-- **The texts that are accepted** are the time formats that are not empty. -/
theorem exists_timeFormatOf_iff :
    (∃ format, timeFormatOf text = .ok format) ↔ text ≠ "" ∧ IsTimeFormat text.toList := by
  by_cases hempty : text = ""
  · subst hempty
    exact iff_of_false nofun fun h => h.1 rfl
  · rw [and_iff_right hempty, ← exists_read_iff, timeFormatOf_of_ne hempty]
    simp only [mapError_eq_ok_iff]

/-- **The first directive that there is not** is what a text is refused for. -/
theorem timeFormatOf_of_firstUnknown (h : FirstUnknown text.toList letter) :
    timeFormatOf text = .error (.unsupportedDirective text letter) := by
  have hne : text ≠ "" := by
    rintro rfl
    cases read_eq_error_iff.mpr h
  rw [timeFormatOf_of_ne hne, read_eq_error_iff.mpr h]
  rfl

/-! ## Timestamp fields -/

/-- With a zone the time format alone decides. -/
theorem timestampField_of_zone (h : zoneOf zones timeZone = .ok zone) :
    timestampField zones (some text) timeZone = (timeFormatOf text).map fun format e =>
      match format.apply zone e.timestamp with
      | .ok s => .ok (.text s)
      | .error error => .error (timeFault error) := by
  rw [timestampField, h]
  change (timeFormatOf text >>= _) = _
  cases timeFormatOf text <;> rfl

/-- **Which time formats make a timestamp field**, with a zone that there is: those that are not empty and are plain
characters and directives in a row.  The empty one is told as such.  In any other one there is exactly one directive
that is the first that there is not, and it is told, with no letter when the text ends behind its percent sign;
it is the first one that a search for directives refuses, and the search refuses none in a time format. -/
theorem timestampField_takes (hzone : zoneOf zones timeZone = .ok zone) (words : PatternWords) (text : String) :
    ((∃ field, timestampField zones (some text) timeZone = .ok field) ↔ text ≠ "" ∧ IsTimeFormat text.toList) ∧
    (text = "" → ∃ error, timestampField zones (some text) timeZone = .error error ∧
      error.fault words = .configuration "Invalid time format parameter: empty format") ∧
    (¬ IsTimeFormat text.toList → ∃! letter, FirstUnknown text.toList letter) ∧
    (∀ letter, FirstUnknown text.toList letter →
      (∃ error, timestampField zones (some text) timeZone = .error error ∧
        error.fault words = .configuration ("Invalid time format parameter: " ++ text ++
          " (unsupported directive %" ++ String.ofList letter.toList ++ ")")) ∧
      refusedLetter? text.toList = some letter.toList) ∧
    (refusedLetter? text.toList = none ↔ IsTimeFormat text.toList) := by
  rw [timestampField_of_zone hzone]
  refine ⟨?_, ?_, ?_, ?_, refusedLetter?_eq_none_iff⟩
  · rw [← exists_timeFormatOf_iff]
    simp only [map_eq_ok_iff]
    exact ⟨fun ⟨_, format, h, _⟩ => ⟨format, h⟩, fun ⟨format, h⟩ => ⟨_, format, h, rfl⟩⟩
  · rintro rfl
    exact ⟨.emptyTimeFormat, rfl, rfl⟩
  · intro hother
    obtain ⟨-, h⟩ | ⟨letter, hread, h⟩ := read_cases text.toList
    · exact absurd h hother
    · refine ⟨letter, h, fun other hfirst => ?_⟩
      exact Except.error.inj ((read_eq_error_iff.mpr hfirst).symm.trans hread)
  · intro letter h
    refine ⟨⟨.unsupportedDirective text letter, ?_, rfl⟩, refusedLetter?_of_firstUnknown h⟩
    rw [timeFormatOf_of_firstUnknown h]
    rfl

/-- Percent signs pair off: `%%%Y` is a sign and the year, and the `Q` behind a pair is plain.  A line break is
the letter of no directive, and neither is the end. -/
theorem universal_told :
    zoneOf .universal (some "UTC") = .ok .utc ∧
    (∃ field, timestampField .universal (some "%%%Y %%Q") (some "UTC") = .ok field) ∧
    (∃ error, timestampField .universal (some "%%%Y %%Q%\n%") (some "UTC") = .error error ∧
      error.fault .silent = .configuration
        "Invalid time format parameter: %%%Y %%Q%\n% (unsupported directive %\n)") ∧
    ∃ error, timestampField .universal (some "%%%Y %%Q%%%") (some "UTC") = .error error ∧
      error.fault .silent = .configuration
        "Invalid time format parameter: %%%Y %%Q%%% (unsupported directive %)" := by
  have hzone : zoneOf .universal (some "UTC") = .ok .utc := rfl
  have hpairs : IsTimeFormat "%%%Y %%Q".toList := by decide
  have hbreak : FirstUnknown "%%%Y %%Q%\n%".toList (some '\n') := .letter hpairs (by decide) ['%']
  have hpair : IsTimeFormat "%%%Y %%Q%%".toList := by decide
  have hend : FirstUnknown "%%%Y %%Q%%%".toList none := .cut hpair
  exact ⟨hzone, (timestampField_takes hzone .silent _).1.mpr ⟨by decide, hpairs⟩,
    ((timestampField_takes hzone .silent _).2.2.2.1 _ hbreak).1,
    ((timestampField_takes hzone .silent _).2.2.2.1 _ hend).1⟩

end AuditTrail
