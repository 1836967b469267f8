import AuditTrail.Proofs.LogFormat.Compile
import AuditTrail.Proofs.Pipeline.Noninterference

/-!
# Proofs/Pipeline/NakedOperation — the text without bound values is shown as it is

    operation        ──redact──▸ masked ──▸ OPERATION
    nakedOperation   ─────────────────────▸ OPERATION_NAKED

Redaction passes the text without bound values by (`redact_withNaked`), and of the standard fields
`OPERATION_NAKED` shows it.  So a secret in that text changes the arguments of a template exactly when
the template has this field and can be rendered at all (`arguments_quoting_eq_iff`).
-/

namespace AuditTrail

open AuditTrail.Text

/-- The event with another text without bound values. -/
def Event.withNaked (e : Event) (text : String) : Event := { e with nakedOperation := some text }

/-- **Redaction passes the text without bound values by.** -/
theorem Redactor.redact_withNaked (r : Redactor) (e : Event) (text : String) :
    r.redact (e.withNaked text) = (r.redact e).map (·.withNaked text) := by
  have hshould : r.shouldRedact (e.withNaked text) = r.shouldRedact e := rfl
  have hoperation : (e.withNaked text).operation = e.operation := rfl
  rw [redact, redact, redact?, redact?, hoperation, hshould]
  cases e.operation with
  | none => rfl
  | some operation =>
    by_cases h : r.shouldRedact e = true
    · simp only [h, if_true]
      cases r.redactText operation with
      | error fault => rfl
      | ok redacted =>
        by_cases hsame : redacted = operation
        · simp [Except.map, hsame]
        · simp only [Except.map, if_neg hsame]
          rfl
    · simp only [h]
      rfl

/-! ## The fields that show it -/

/-- The timestamp field reads the timestamp. -/
theorem timestampField_withNaked {zones : Time.Zones} {format zone : Option String}
    {timestamp : FieldFunction} (h : timestampField zones format zone = .ok timestamp) (e : Event)
    (text : String) :
    timestamp (e.withNaked text) = timestamp e := by
  rw [timestampField] at h
  obtain ⟨zone, -, h⟩ := bind_eq_ok_iff.mp h
  cases format with
  | none =>
    obtain rfl := Except.ok.inj h
    rfl
  | some format =>
    obtain ⟨format, -, h⟩ := bind_eq_ok_iff.mp h
    obtain rfl := Except.ok.inj h
    rfl

/-- **Of the standard fields one shows the text without bound values**, and the others do not depend on
it. -/
theorem standardFieldsWith_withNaked {timestamp : FieldFunction}
    (htimestamp : ∀ e text, timestamp (Event.withNaked e text) = timestamp e) :
    ∀ entry ∈ standardFieldsWith timestamp, ∀ function, entry.2 = some function → ∀ e text,
      function (Event.withNaked e text)
        = if entry.1 = "OPERATION_NAKED" then .ok (.text text) else function e := by
  intro entry hentry
  simp only [standardFieldsWith, List.mem_cons, List.not_mem_nil, or_false] at hentry
  rcases hentry with rfl | rfl | rfl | rfl | rfl | rfl | rfl | rfl | rfl <;>
    rintro function hfunction e text <;> obtain rfl := Option.some.inj hfunction
  -- The field itself, the timestamp, and the fields that read another fact.
  all_goals first
    | exact (if_pos rfl).symm
    | exact (htimestamp e text).trans (if_neg (show ¬"TIMESTAMP" = "OPERATION_NAKED" by decide)).symm
    | exact (if_neg (by decide)).symm

/-- A text with the sides of a field. -/
def Extractor.around (x : Extractor) (text : String) : String :=
  match x.token.sides with
  | none => text
  | some (left, right) => String.ofList left ++ text ++ String.ofList right

theorem Extractor.textFor_text (x : Extractor) (text : String) :
    x.textFor (.text text) = .ok (x.around text) := by
  unfold textFor around
  rcases x.token.sides with _ | ⟨left, right⟩ <;> rfl

/-- The text of a field tells the value. -/
theorem Extractor.around_inj (x : Extractor) {a b : String} (h : x.around a = x.around b) : a = b := by
  unfold around at h
  rcases hsides : x.token.sides with _ | ⟨left, right⟩ <;> simp only [hsides] at h
  · exact h
  · have hchars := congrArg String.toList h
    simp only [String.toList_append] at hchars
    exact String.toList_inj.mp (List.append_cancel_left (List.append_cancel_right hchars))

/-- **An extractor over the standard fields** shows the text without bound values, or does not depend
on it. -/
theorem render_withNaked {zones : Time.Zones} {timeFormat timeZone : Option String} {fields : Registry}
    {x : Extractor} (hfields : standardFields zones timeFormat timeZone = .ok fields)
    (hx : fields.resolve? none x.field = some x.function) (e : Event) (text : String) :
    x.render (e.withNaked text)
      = if x.field = "OPERATION_NAKED" then .ok (x.around text) else x.render e := by
  obtain ⟨timestamp, htimestamp, rfl⟩ := map_eq_ok_iff.mp hfields
  have hfunction := standardFieldsWith_withNaked (timestampField_withNaked htimestamp) _
    (Registry.mem_of_resolve? hx) x.function rfl e text
  rw [Extractor.render, Extractor.render, hfunction]
  by_cases hfield : x.field = "OPERATION_NAKED"
  · rw [if_pos hfield, if_pos hfield, ← x.textFor_text]
  · rw [if_neg hfield, if_neg hfield]

/-! ## What a secret in it changes -/

section Arguments

variable {t : Template}

/-- **Two texts give the same arguments** when they are the same, when no field shows them, or when
there are no arguments. -/
theorem arguments_withNaked_eq_iff
    (hrender : ∀ x ∈ t.extractors, ∀ e text, x.render (Event.withNaked e text)
      = if x.field = "OPERATION_NAKED" then .ok (x.around text) else x.render e)
    (e : Event) (a b : String) :
    t.arguments (e.withNaked a) = t.arguments (e.withNaked b) ↔
      a = b ∨ "OPERATION_NAKED" ∉ t.fieldNames ∨ ∃ fault, t.arguments (e.withNaked a) = .error fault := by
  constructor
  · intro h
    cases hargs : t.arguments (e.withNaked a) with
    | error fault => exact .inr (.inr ⟨fault, rfl⟩)
    | ok arguments =>
      by_cases hshown : "OPERATION_NAKED" ∈ t.fieldNames
      · obtain ⟨x, hx, hfield⟩ := List.mem_map.mp hshown
        have hsame := forall_eq_of_mapM_eq_ok hargs (h ▸ hargs) x hx
        rw [hrender x hx, hrender x hx, if_pos hfield, if_pos hfield] at hsame
        exact .inl (x.around_inj (Except.ok.inj hsame))
      · exact .inr (.inl hshown)
  · rintro (rfl | hshown | ⟨fault, hfault⟩)
    · rfl
    · refine mapM_congr fun x hx => ?_
      have hfield : x.field ≠ "OPERATION_NAKED" := fun h => hshown (List.mem_map.mpr ⟨x, hx, h⟩)
      rw [hrender x hx, hrender x hx, if_neg hfield, if_neg hfield]
    · refine hfault.trans (mapM_eq_error (fun x hx => ?_) hfault).symm
      rw [hrender x hx, hrender x hx]
      by_cases hfield : x.field = "OPERATION_NAKED"
      · exact .inr ⟨_, _, if_pos hfield, if_pos hfield⟩
      · exact .inl (by rw [if_neg hfield, if_neg hfield])

/-- The fields of a redacted event. -/
def redactedArguments (r : Redactor) (t : Template) (e : Event) : Except Fault (List String) :=
  r.redact e >>= t.arguments

/-- **A secret in the text without bound values is seen**: two of them give the same arguments exactly
when they are the same, the template does not show that text, or there are no arguments.  Redaction
makes no difference. -/
theorem arguments_quoting_eq_iff {zones : Time.Zones} {timeFormat timeZone : Option String}
    {fields : Registry} {anchor : String} {escape : Option (String × String)} {format : String} {t : Template}
    (hfields : standardFields zones timeFormat timeZone = .ok fields)
    (h : (⟨fields, anchor, escape, none⟩ : Compiler).compile format = .ok t)
    (r : Redactor) (e : Event) (o : Opening) (before s₁ s₂ after : List Char) :
    redactedArguments r t (e.withNaked (String.ofList (o.quoting before s₁ after)))
      = redactedArguments r t (e.withNaked (String.ofList (o.quoting before s₂ after))) ↔
      s₁ = s₂ ∨ "OPERATION_NAKED" ∉ t.fieldNames ∨ ∃ fault,
        redactedArguments r t (e.withNaked (String.ofList (o.quoting before s₁ after)))
          = .error fault := by
  have hsecret : String.ofList (o.quoting before s₁ after) = String.ofList (o.quoting before s₂ after)
      ↔ s₁ = s₂ := by
    rw [String.ofList_inj]
    simp only [Opening.quoting, List.append_cancel_right_eq, List.append_cancel_left_eq]
  have hrender := fun x hx =>
    render_withNaked hfields (Compiler.resolve?_of_compile_eq_ok h x hx)
  rw [redactedArguments, redactedArguments, Redactor.redact_withNaked, Redactor.redact_withNaked,
    ← hsecret]
  cases r.redact e with
  | error fault => exact ⟨fun _ => .inr (.inr ⟨fault, rfl⟩), fun _ => rfl⟩
  | ok redacted => exact arguments_withNaked_eq_iff hrender redacted _ _

end Arguments

/-- A template of the text without bound values. -/
def nakedTemplate : Template :=
  ⟨"${OPERATION_NAKED}", "%s", "%s", "", [(⟨⟨"OPERATION_NAKED".toList, none⟩,
    fun e => .ok (.ofText? (e.nakedOperation <|> e.operation))⟩, "")]⟩

/-- The standard fields with the milliseconds of the timestamp. -/
def plainFields : Registry := standardFieldsWith fun e => .ok (.integer e.timestamp)

theorem compile_naked :
    (⟨plainFields, percentAnchor, some percentEscape, none⟩ : Compiler).compile "${OPERATION_NAKED}"
      = .ok nakedTemplate := by
  have hscan : LogFormat.scan "${OPERATION_NAKED}".toList
      = ⟨[], [(⟨"OPERATION_NAKED".toList, none⟩, [])]⟩ := by decide +kernel
  rw [Compiler.compile, hscan]
  rfl

/-- The text is shown as it is. -/
theorem redactedArguments_naked (text : String) :
    redactedArguments .default nakedTemplate ((creatingBob "hunter2").withNaked text)
      = .ok [text] := by
  rw [redactedArguments, Redactor.redact_withNaked, Redactor.redact_default rfl (by decide)]
  rfl

/-- Two passwords give different arguments. -/
theorem arguments_naked_ne :
    standardFields .universal none none = .ok plainFields ∧
    redactedArguments .default nakedTemplate ((creatingBob "hunter2").withNaked
        (String.ofList (Opening.usual.quoting [] "hunter2".toList [])))
      ≠ redactedArguments .default nakedTemplate ((creatingBob "hunter2").withNaked
        (String.ofList (Opening.usual.quoting [] "swordfish".toList []))) := by
  have hfields : standardFields .universal none none = .ok plainFields := rfl
  refine ⟨hfields, fun h => ?_⟩
  rcases (arguments_quoting_eq_iff hfields compile_naked _ _ _ _ _ _ _).mp h with
    hsame | hhidden | ⟨fault, hfault⟩
  · exact absurd hsame (by decide)
  · exact hhidden (by decide)
  · rw [redactedArguments_naked] at hfault
    cases hfault

/-- The arguments after redaction depend on a secret in the text without bound values. -/
theorem exists_arguments_of_secret :
    ¬ ∀ (zones : Time.Zones) (fields : Registry) (format : String) (t : Template) (e : Event)
      (before s₁ s₂ after : List Char), standardFields zones none none = .ok fields →
      (⟨fields, percentAnchor, some percentEscape, none⟩ : Compiler).compile format = .ok t →
      Redactor.default.shouldRedact e = true → IsSecret s₁ → IsSecret s₂ → '\'' ∉ s₁ → '\'' ∉ s₂ →
      holdsPassword after = false →
      redactedArguments .default t (e.withNaked (String.ofList (Opening.usual.quoting before s₁ after)))
        = redactedArguments .default t
          (e.withNaked (String.ofList (Opening.usual.quoting before s₂ after))) := by
  intro h
  have hsame := h .universal plainFields _ _ (creatingBob "hunter2") [] "hunter2".toList "swordfish".toList [] rfl
    compile_naked (by decide) ⟨by decide, eq_false_of_all_not rfl, by decide +kernel⟩
    ⟨by decide, eq_false_of_all_not rfl, by decide +kernel⟩ (by decide) (by decide) rfl
  rw [redactedArguments_naked, redactedArguments_naked] at hsame
  exact absurd (Except.ok.inj hsame) (by decide +kernel)

end AuditTrail
