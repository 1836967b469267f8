import AuditTrail.Proofs.LogFormat.Compile
import AuditTrail.Proofs.Lookup

/-!
# Proofs/LogFormat/Resolution — where the functions of a compiled format come from

    token ──field──▸ name ──registry──▸ function
                       └───fallback, if there is one and the registry has no function

A compiler that can be built refuses a format as misconfigured for one reason: there is no fallback, and a
field of the format has no function (`compile_eq_configuration_iff`).  What it compiles or refuses depends on
which names have a function and on whether there is a fallback, and not on what any of these does
(`outline_compile`).
-/

namespace AuditTrail

open AuditTrail.LogFormat AuditTrail.Pattern

/-- **The name has a function**; a name that is taken without one has not. -/
def Registry.Knows (registry : Registry) (name : String) : Prop :=
  ∃ function, registry.lookup name = some (some function)

theorem Registry.resolve?_eq_none_iff {registry : Registry} {fallback : Option Fallback} {name : String} :
    registry.resolve? fallback name = none ↔ fallback = none ∧ ¬ registry.Knows name := by
  rw [resolve?]
  split
  case h_1 function hlookup =>
    exact iff_of_false (Option.some_ne_none function) fun h => h.2 ⟨function, hlookup⟩
  case h_2 hlookup =>
    rw [Option.map_eq_none_iff, and_iff_left]
    rintro ⟨function, hfunction⟩
    exact hlookup function hfunction

/-- **Where a function comes from**: from the registry, or from the fallback under the same name. -/
theorem Registry.resolve?_eq_some_iff {registry : Registry} {fallback : Option Fallback} {name : String}
    {function : FieldFunction} : registry.resolve? fallback name = some function ↔
      registry.lookup name = some (some function) ∨
      ¬ registry.Knows name ∧ ∃ other, fallback = some other ∧ function = other name := by
  rw [resolve?]
  split
  case h_1 known hlookup =>
    have hknows : registry.Knows name := ⟨known, hlookup⟩
    rw [hlookup, Option.some.injEq, Option.some.injEq, Option.some.injEq]
    exact (or_iff_left fun h => h.1 hknows).symm
  case h_2 hlookup =>
    have hnot : ¬ registry.Knows name := not_exists.mpr hlookup
    rw [or_iff_right (hlookup function), and_iff_right hnot, Option.map_eq_some_iff]
    exact exists_congr fun other => and_congr_right fun _ => eq_comm

/-- The template without its functions: the source, the text, the anchor and the pieces. -/
def Template.outline (t : Template) : String × String × String × Pieces :=
  (t.format, t.template, t.anchor, t.pieces)

namespace Compiler

variable {c c' : Compiler} {format : String} {t : Template} {token : Token} {error : FormatError}

/-- **The compiler can be built**: it has an anchor, and its escape is a pattern. -/
structure IsBuilt (c : Compiler) : Prop where
  anchor : c.anchor.isEmpty = false
  escape : ∃ pattern, c.escapePattern = .ok pattern

/-- The field of the token has a function. -/
def Knows (c : Compiler) (token : Token) : Prop := c.fields.Knows (String.ofList token.field)

/-! ## Refused formats -/

theorem extractor_eq_error_iff : c.extractor token = .error error ↔
    c.fallback = none ∧ ¬ c.Knows token ∧ error = .unknownField (String.ofList token.field) := by
  rw [Knows, ← and_assoc, ← Registry.resolve?_eq_none_iff, extractor]
  cases c.fields.resolve? c.fallback (String.ofList token.field) with
  | none => simp [eq_comm]
  | some function =>
    refine iff_of_false ?_ fun h => Option.some_ne_none function h.1
    rintro ⟨⟩

theorem exists_extractor_eq_ok_iff : (∃ x, c.extractor token = .ok x) ↔
    ¬ (c.fallback = none ∧ ¬ c.Knows token) := by
  rw [Knows, ← Registry.resolve?_eq_none_iff, extractor]
  cases c.fields.resolve? c.fallback (String.ofList token.field) with
  | none =>
    refine iff_of_false ?_ fun h => h rfl
    rintro ⟨_, ⟨⟩⟩
  | some function => exact iff_of_true ⟨_, rfl⟩ (Option.some_ne_none function)

/-- **The first field that has no function** is the one that is told. -/
theorem mapM_extractor_eq_error_iff {tokens : List Token} : tokens.mapM c.extractor = .error error ↔
    c.fallback = none ∧ ∃ before token after, tokens = before ++ token :: after ∧
      (∀ other ∈ before, c.Knows other) ∧ ¬ c.Knows token ∧
      error = .unknownField (String.ofList token.field) := by
  rw [mapM_eq_error_iff]
  constructor
  · rintro ⟨before, token, after, hsplit, hbefore, htoken⟩
    obtain ⟨hfallback, hunknown, herror⟩ := extractor_eq_error_iff.mp htoken
    refine ⟨hfallback, before, token, after, hsplit, fun other hother => ?_, hunknown, herror⟩
    exact by_contra fun h => exists_extractor_eq_ok_iff.mp (hbefore other hother) ⟨hfallback, h⟩
  · rintro ⟨hfallback, before, token, after, hsplit, hbefore, hunknown, herror⟩
    refine ⟨before, token, after, hsplit, fun other hother => ?_, ?_⟩
    · exact exists_extractor_eq_ok_iff.mpr fun h => h.2 (hbefore other hother)
    · exact extractor_eq_error_iff.mpr ⟨hfallback, hunknown, herror⟩

/-- **Why a format is refused**, in the order of the checks. -/
theorem compile_eq_error_iff : c.compile format = .error error ↔
    c.anchor.isEmpty = true ∧ error = .emptyAnchor ∨
    c.anchor.isEmpty = false ∧ (c.escapePattern = .error error ∨
      ∃ pattern, c.escapePattern = .ok pattern ∧
        ((scan format.toList).tokens.mapM c.extractor = .error error ∨
          (∃ extractors, (scan format.toList).tokens.mapM c.extractor = .ok extractors) ∧
            escaping pattern = .error error)) := by
  unfold compile
  cases hanchor : c.anchor.isEmpty with
  | true =>
    rw [if_pos rfl, and_iff_right rfl, or_iff_left fun h => Bool.noConfusion h.1]
    exact ⟨fun h => (Except.error.inj h).symm, fun h => by rw [h]; rfl⟩
  | false =>
    rw [if_neg Bool.false_ne_true, and_iff_right rfl, or_iff_right fun h => Bool.noConfusion h.1,
      bind_eq_error_iff]
    refine or_congr_right (exists_congr fun pattern => and_congr_right fun _ => ?_)
    rw [bind_eq_error_iff]
    refine or_congr_right ?_
    constructor
    · rintro ⟨extractors, hextractors, h⟩
      rcases bind_eq_error_iff.mp h with hescape | ⟨escape, -, hreturn⟩
      · exact ⟨⟨extractors, hextractors⟩, hescape⟩
      · cases hreturn
    · rintro ⟨⟨extractors, hextractors⟩, hescape⟩
      exact ⟨extractors, hextractors, bind_eq_error_iff.mpr (.inl hescape)⟩

/-- What does not fit as a replacement is not told as a configuration error. -/
theorem fault_of_escaping_eq_error {pattern : Option (Compiled × String)}
    (h : escaping pattern = .error error) (words : PatternWords) (message : String) :
    error.fault words ≠ .configuration message := by
  cases pattern with
  | none => cases h
  | some found =>
    obtain ⟨compiled, replacement⟩ := found
    rw [escaping] at h
    split at h
    case h_1 => cases h
    case h_2 cause _ =>
      obtain rfl := Except.error.inj h
      cases cause <;> exact nofun

/-- **What is told as a misconfigured format**: the first field that has no function, if there is no
fallback. -/
theorem compile_eq_configuration_iff (hc : c.IsBuilt) (words : PatternWords) (message : String) :
    (∃ error, c.compile format = .error error ∧ error.fault words = .configuration message) ↔
      c.fallback = none ∧ ∃ before token after, (scan format.toList).tokens = before ++ token :: after ∧
        (∀ other ∈ before, c.Knows other) ∧ ¬ c.Knows token ∧
        message = "Unknown log format field: " ++ String.ofList token.field := by
  obtain ⟨pattern, hpattern⟩ := hc.escape
  have hfields : ∀ error, (scan format.toList).tokens.mapM c.extractor = .error error →
      c.compile format = .error error := fun error h =>
    compile_eq_error_iff.mpr (.inr ⟨hc.anchor, .inr ⟨pattern, hpattern, .inl h⟩⟩)
  constructor
  · rintro ⟨error, herror, hfault⟩
    rcases compile_eq_error_iff.mp herror with ⟨hempty, -⟩ | ⟨-, hescape | ⟨pattern', -, hfield | ⟨-, hescape⟩⟩⟩
    · rw [hc.anchor] at hempty
      cases hempty
    · cases hpattern.symm.trans hescape
    · obtain ⟨hfallback, before, token, after, hsplit, hbefore, hunknown, rfl⟩ :=
        mapM_extractor_eq_error_iff.mp hfield
      refine ⟨hfallback, before, token, after, hsplit, hbefore, hunknown, ?_⟩
      exact (Fault.configuration.inj hfault).symm
    · exact absurd hfault (fault_of_escaping_eq_error hescape words message)
  · rintro ⟨hfallback, before, token, after, hsplit, hbefore, hunknown, rfl⟩
    refine ⟨.unknownField (String.ofList token.field), hfields _ ?_, rfl⟩
    exact mapM_extractor_eq_error_iff.mpr ⟨hfallback, before, token, after, hsplit, hbefore, hunknown, rfl⟩

/-- The source of a template is the format. -/
theorem format_of_compile_eq_ok (h : c.compile format = .ok t) : t.format = format := by
  rw [compile] at h
  split at h
  · cases h
  obtain ⟨pattern, -, h⟩ := bind_eq_ok_iff.mp h
  obtain ⟨extractors, -, h⟩ := bind_eq_ok_iff.mp h
  obtain ⟨escape, -, h⟩ := bind_eq_ok_iff.mp h
  obtain rfl := Except.ok.inj h
  rfl

/-! ## Functions that are not asked -/

/-- **The compilers differ in what their functions do** and in nothing else. -/
structure SameOutline (c c' : Compiler) : Prop where
  fields : c.fields.map (fun entry => (entry.1, entry.2.isSome))
    = c'.fields.map (fun entry => (entry.1, entry.2.isSome))
  anchor : c.anchor = c'.anchor
  escape : c.escape = c'.escape
  fallback : c.fallback.isSome = c'.fallback.isSome

theorem SameOutline.symm (h : c.SameOutline c') : c'.SameOutline c :=
  ⟨h.fields.symm, h.anchor.symm, h.escape.symm, h.fallback.symm⟩

/-- The same names have a function. -/
theorem SameOutline.knows (h : c.SameOutline c') (token : Token) : c.Knows token ↔ c'.Knows token := by
  have hknows : ∀ (registry : Registry) (name : String), registry.Knows name ↔
      (registry.map fun entry => (entry.1, entry.2.isSome)).lookup name = some true := by
    intro registry name
    rw [Registry.Knows, lookup_map_snd]
    rcases registry.lookup name with _ | _ | function
    · exact iff_of_false (fun ⟨_, h⟩ => nomatch h) nofun
    · exact iff_of_false (fun ⟨_, h⟩ => nomatch h) nofun
    · exact iff_of_true ⟨function, rfl⟩ rfl
  rw [Knows, Knows, hknows, hknows, h.fields]

theorem SameOutline.escapePattern (h : c.SameOutline c') : c.escapePattern = c'.escapePattern := by
  rw [Compiler.escapePattern, Compiler.escapePattern, h.escape]

theorem SameOutline.mapM_extractor (h : c.SameOutline c') {tokens : List Token}
    (herror : tokens.mapM c.extractor = .error error) : tokens.mapM c'.extractor = .error error := by
  obtain ⟨hfallback, before, token, after, hsplit, hbefore, hunknown, rfl⟩ :=
    mapM_extractor_eq_error_iff.mp herror
  refine mapM_extractor_eq_error_iff.mpr ⟨?_, before, token, after, hsplit,
    fun other hother => (h.knows other).mp (hbefore other hother), mt (h.knows token).mpr hunknown, rfl⟩
  rw [← Option.not_isSome_iff_eq_none, ← h.fallback, hfallback]
  exact nofun

/-- A refused format is refused for the same reason. -/
theorem SameOutline.compile_eq_error (h : c.SameOutline c') (herror : c.compile format = .error error) :
    c'.compile format = .error error := by
  rw [compile_eq_error_iff, h.anchor, h.escapePattern] at herror
  refine compile_eq_error_iff.mpr (herror.imp_right (And.imp_right (Or.imp_right ?_)))
  rintro ⟨pattern, hpattern, hfield | ⟨⟨extractors, hextractors⟩, hescape⟩⟩
  · exact ⟨pattern, hpattern, .inl (h.mapM_extractor hfield)⟩
  · refine ⟨pattern, hpattern, .inr ⟨?_, hescape⟩⟩
    cases hother : (scan format.toList).tokens.mapM c'.extractor with
    | ok others => exact ⟨others, rfl⟩
    | error error' => cases hextractors.symm.trans (h.symm.mapM_extractor hother)

/-- **Functions are not asked**: compilers of one outline give templates of one outline, or refuse a format for
the same reason. -/
theorem SameOutline.compile (h : c.SameOutline c') (format : String) :
    (c.compile format).map Template.outline = (c'.compile format).map Template.outline := by
  cases hc : c.compile format with
  | error error => rw [h.compile_eq_error hc]
  | ok t =>
    cases hc' : c'.compile format with
    | error error => cases hc.symm.trans (h.symm.compile_eq_error hc')
    | ok t' =>
      obtain ⟨pattern, escape, hpattern, hescape, -, -, htemplate⟩ := compile_eq_ok hc
      obtain ⟨pattern', escape', hpattern', hescape', -, -, htemplate'⟩ := compile_eq_ok hc'
      obtain rfl := Except.ok.inj (hpattern.symm.trans (h.escapePattern.trans hpattern'))
      obtain rfl := Except.ok.inj (hescape.symm.trans hescape')
      refine congrArg Except.ok ?_
      rw [Template.outline, Template.outline, format_of_compile_eq_ok hc, format_of_compile_eq_ok hc',
        anchor_of_compile_eq_ok hc, anchor_of_compile_eq_ok hc', pieces_of_compile_eq_ok hc,
        pieces_of_compile_eq_ok hc', htemplate, htemplate', h.anchor]

/-- **Where the functions of a format come from.**  A compiler that can be built tells a configuration error
exactly when it has no fallback and a field of the format, optional or not, has no function; it tells the first
such field.  A compiled format has an extractor for each field in its order, with the function that the
registry has for the name, else the one that the fallback has for just this name.  None of the functions is asked
meanwhile: others in their places make no difference but to what stands in the extractors. -/
theorem compile_resolves (hc : c.IsBuilt) (words : PatternWords) (format : String) :
    ((∃ error message, c.compile format = .error error ∧ error.fault words = .configuration message) ↔
      c.fallback = none ∧ ∃ token ∈ (scan format.toList).tokens, ¬ c.Knows token) ∧
    (∀ error message, c.compile format = .error error → error.fault words = .configuration message →
      ∃ before token after, (scan format.toList).tokens = before ++ token :: after ∧
        (∀ other ∈ before, c.Knows other) ∧ ¬ c.Knows token ∧
        message = "Unknown log format field: " ++ String.ofList token.field) ∧
    (∀ t, c.compile format = .ok t → t.extractors.map (·.token) = (scan format.toList).tokens ∧
      ∀ x ∈ t.extractors, c.fields.lookup x.field = some (some x.function) ∨
        ¬ c.fields.Knows x.field ∧ ∃ fallback, c.fallback = some fallback ∧ x.function = fallback x.field) ∧
    ∀ c', c.SameOutline c' →
      (c.compile format).map Template.outline = (c'.compile format).map Template.outline := by
  refine ⟨⟨?_, ?_⟩, ?_, ?_, fun c' h => h.compile format⟩
  · rintro ⟨error, message, herror⟩
    obtain ⟨hfallback, before, token, after, hsplit, -, hunknown, -⟩ :=
      (compile_eq_configuration_iff hc words message).mp ⟨error, herror⟩
    exact ⟨hfallback, token, hsplit ▸ List.mem_append_right before List.mem_cons_self, hunknown⟩
  · rintro ⟨hfallback, hunknown⟩
    obtain ⟨before, token, after, hsplit, hbefore, hfirst⟩ := exists_first hunknown
    obtain ⟨error, herror⟩ := (compile_eq_configuration_iff hc words _).mpr
      ⟨hfallback, before, token, after, hsplit, hbefore, hfirst, rfl⟩
    exact ⟨error, _, herror⟩
  · intro error message herror hfault
    exact ((compile_eq_configuration_iff hc words message).mp ⟨error, herror, hfault⟩).2
  · intro t ht
    exact ⟨tokens_of_compile_eq_ok ht,
      fun x hx => Registry.resolve?_eq_some_iff.mp (resolve?_of_compile_eq_ok ht x hx)⟩

/-- A compiler that knows the user and has the status without a function. -/
def userAndStatus (fallback : Option Fallback) : Compiler :=
  ⟨[("USER", some fun e => .ok (.text e.principal)), ("STATUS", none)], "%s", none, fallback⟩

/-- A format with known and unknown names, one of which comes twice and one with sides. -/
def fourFields : String := "${USER}\x7b?|${STATUS}?\x7d${USER}${ROLE}"

theorem scan_fourFields : scan fourFields.toList
    = ⟨[], [(⟨"USER".toList, none⟩, []), (⟨"STATUS".toList, some (['|'], [])⟩, []),
      (⟨"USER".toList, none⟩, []), (⟨"ROLE".toList, none⟩, [])]⟩ := by decide +kernel

/-- Without a fallback the status is told; with one, each unknown name is shown as it is. -/
theorem fourFields_resolved :
    (∀ fallback, (userAndStatus fallback).IsBuilt) ∧
    (userAndStatus none).compile fourFields = .error (.unknownField "STATUS") ∧
    (∃ before token after, (scan fourFields.toList).tokens = before ++ token :: after ∧
      (∀ other ∈ before, (userAndStatus none).Knows other) ∧ ¬ (userAndStatus none).Knows token ∧
      "Unknown log format field: STATUS"
        = "Unknown log format field: " ++ String.ofList token.field) ∧
    ∃ t, (userAndStatus (some fun name _ => .ok (.text name))).compile fourFields = .ok t ∧
      t.extractors.map (·.token) = (scan fourFields.toList).tokens ∧
      ∀ e, t.arguments e = .ok [e.principal, "|STATUS", e.principal, "ROLE"] := by
  have hbuilt : ∀ fallback, (userAndStatus fallback).IsBuilt := fun _ => ⟨rfl, none, rfl⟩
  have hrefused : (userAndStatus none).compile fourFields = .error (.unknownField "STATUS") := by
    rw [compile, scan_fourFields]
    rfl
  obtain ⟨t, ht, harguments⟩ : ∃ t,
      (userAndStatus (some fun name _ => .ok (.text name))).compile fourFields = .ok t ∧
      ∀ e, t.arguments e = .ok [e.principal, "|STATUS", e.principal, "ROLE"] := by
    rw [compile, scan_fourFields]
    exact ⟨_, rfl, fun e => rfl⟩
  exact ⟨hbuilt, hrefused, (compile_resolves (hbuilt none) .silent fourFields).2.1 _ _ hrefused rfl, t, ht,
    ((compile_resolves (hbuilt _) .silent fourFields).2.2.1 t ht).1, harguments⟩

end Compiler

end AuditTrail
