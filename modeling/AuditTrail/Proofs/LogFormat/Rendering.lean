import AuditTrail.Pipeline.Backend
import AuditTrail.Proofs.LogFormat.Compile
import AuditTrail.Proofs.Pattern.Replacement
import AuditTrail.Proofs.Substitution.Template

/-!
# Proofs/LogFormat/Rendering — two ways to the same line

    format ──compile──▸ template ──substitute──▸ line
       └───── literals ────── interleave ─────────┘

A format compiled for the anchor and the escape of the percent sign is a template of escaped literals
(`toList_template`).  Substitution of the arguments into it therefore gives the interleaved line, for
just as many arguments as there are fields, and whatever stands in the literals and the arguments
(`substitute_eq_interleave`).
-/

namespace AuditTrail

open AuditTrail.LogFormat AuditTrail.Pattern AuditTrail.Substitution AuditTrail.Text

/-! ## The arguments of an event -/

/-- **The value can be written**: it is no integer with more digits than can be. -/
def FieldValue.HasText : FieldValue → Prop
  | integer i => (Number.digitsOf i.natAbs).length ≤ mostDigits
  | _ => True

theorem FieldValue.hasText_ofText? (text : Option String) : (ofText? text).HasText := by
  cases text <;> exact trivial

theorem FieldValue.shown_cases (value : FieldValue) :
    (value.HasText ∧ ∃ text, value.shown = .ok text) ∨ (¬ value.HasText ∧ value.shown = .error tooLong) := by
  cases value with
  | integer i =>
    by_cases hfits : (Number.digitsOf i.natAbs).length ≤ mostDigits
    · exact .inl ⟨hfits, _, if_pos hfits⟩
    · exact .inr ⟨hfits, if_neg hfits⟩
  | _ => exact .inl ⟨trivial, _, rfl⟩

namespace Extractor

variable {x : Extractor} {e : Event} {fault : Fault}

theorem textFor_cases (x : Extractor) (value : FieldValue) :
    (value.HasText ∧ ∃ text, x.textFor value = .ok text) ∨
      (¬ value.HasText ∧ x.textFor value = .error FieldValue.tooLong) := by
  have hwrapped (left right : List Char) : (value.HasText ∧ ∃ text,
      value.shown.map (String.ofList left ++ · ++ String.ofList right) = .ok text) ∨ (¬ value.HasText ∧
        value.shown.map (String.ofList left ++ · ++ String.ofList right) = .error FieldValue.tooLong) := by
    rcases value.shown_cases with ⟨hfits, text, htext⟩ | ⟨hlong, hfails⟩
    · exact .inl ⟨hfits, _, by rw [htext]; rfl⟩
    · exact .inr ⟨hlong, by rw [hfails]; rfl⟩
  unfold textFor
  rcases x.token.sides with _ | ⟨left, right⟩
  · exact value.shown_cases
  · cases value with
    | absent => exact .inl ⟨trivial, _, rfl⟩
    | _ => exact hwrapped left right

/-- **The field has a value that can be written.** -/
def Shows (x : Extractor) (e : Event) : Prop := ∃ value, x.function e = .ok value ∧ value.HasText

/-- **How a field fails**: its function fails, and the failure tells the field, or there is a value that cannot
be written. -/
inductive Fails (x : Extractor) (e : Event) : Fault → Prop
  | extracting {cause : Fault} (h : x.function e = .error cause) : Fails x e (.render x.field cause.message)
  | writing {value : FieldValue} (h : x.function e = .ok value) (hlong : ¬ value.HasText) :
    Fails x e FieldValue.tooLong

/-- **A field is rendered or fails.** -/
theorem render_cases (x : Extractor) (e : Event) :
    (x.Shows e ∧ ∃ text, x.render e = .ok text) ∨ ∃ fault, x.Fails e fault ∧ x.render e = .error fault := by
  unfold render
  rcases hfunction : x.function e with cause | value
  · exact .inr ⟨_, .extracting hfunction, rfl⟩
  · rcases x.textFor_cases value with ⟨hfits, htext⟩ | ⟨hlong, hfails⟩
    · exact .inl ⟨⟨value, hfunction, hfits⟩, htext⟩
    · exact .inr ⟨_, .writing hfunction hlong, hfails⟩

theorem Fails.not_shows (h : x.Fails e fault) : ¬ x.Shows e := by
  rintro ⟨value, hvalue, hfits⟩
  cases h with
  | extracting h => cases hvalue.symm.trans h
  | writing h hlong =>
    obtain rfl := Except.ok.inj (hvalue.symm.trans h)
    exact hlong hfits

theorem Fails.unique {other : Fault} (h : x.Fails e fault) (hother : x.Fails e other) : other = fault := by
  cases h with
  | extracting h => cases hother with
    | extracting hother => rw [Except.error.inj (h.symm.trans hother)]
    | writing hother => cases h.symm.trans hother
  | writing h => cases hother with
    | extracting hother => cases h.symm.trans hother
    | writing => rfl

theorem render_eq_ok_iff : (∃ text, x.render e = .ok text) ↔ x.Shows e := by
  rcases x.render_cases e with ⟨hshows, htext⟩ | ⟨fault, hfails, herror⟩
  · exact iff_of_true htext hshows
  · exact iff_of_false (fun ⟨_, h⟩ => nomatch herror.symm.trans h) hfails.not_shows

theorem render_eq_error_iff : x.render e = .error fault ↔ x.Fails e fault := by
  rcases x.render_cases e with ⟨hshows, text, htext⟩ | ⟨other, hfails, herror⟩
  · exact iff_of_false (fun h => nomatch htext.symm.trans h) fun h => h.not_shows hshows
  · rw [herror]
    exact ⟨fun h => Except.error.inj h ▸ hfails, fun h => congrArg Except.error (h.unique hfails)⟩

end Extractor

/-- **The arguments fail with the first field that fails.** -/
theorem Template.arguments_eq_error_iff {t : Template} {e : Event} {fault : Fault} :
    t.arguments e = .error fault ↔ ∃ before x after, t.extractors = before ++ x :: after ∧
      (∀ y ∈ before, y.Shows e) ∧ x.Fails e fault := by
  unfold arguments
  rw [mapM_eq_error_iff]
  simp only [Extractor.render_eq_ok_iff, Extractor.render_eq_error_iff]

/-- **There are arguments** when every field has a value that can be written. -/
theorem Template.exists_arguments_iff {t : Template} {e : Event} :
    (∃ arguments, t.arguments e = .ok arguments) ↔ ∀ x ∈ t.extractors, x.Shows e := by
  constructor
  · rintro ⟨arguments, harguments⟩ x hx
    exact Extractor.render_eq_ok_iff.mp (exists_eq_ok_of_mapM_eq_ok harguments x hx)
  · intro h
    exact exists_mapM_eq_ok fun x hx => Extractor.render_eq_ok_iff.mpr (h x hx)

/-- There is a line when there are arguments. -/
theorem Template.exists_line_iff {t : Template} {e : Event} :
    (∃ text, t.line e = .ok text) ↔ ∀ x ∈ t.extractors, x.Shows e := by
  rw [← exists_arguments_iff]
  unfold line
  cases t.arguments e with
  | error fault => exact iff_of_false (fun ⟨_, h⟩ => nomatch h) fun ⟨_, h⟩ => nomatch h
  | ok arguments => exact iff_of_true ⟨_, rfl⟩ ⟨_, rfl⟩

/-! ## The escape of the percent sign -/

/-- The pattern of the escape. -/
theorem parse?_percent : Compiled.parse? ⟨false, false⟩ "%" = some (.ofChar '%') := rfl

/-- The replacement of the escape. -/
theorem parse_percent : Replacement.parse (.ofChar '%') "%%" = .ok (.ofText ['%', '%']) := rfl

/-- The compiler for templates that are filled in with `%`. -/
def Compiler.percent (fields : Registry) (fallback : Option Fallback) : Compiler :=
  ⟨fields, percentAnchor, some percentEscape, fallback⟩

/-- **The escape doubles the percent signs.** -/
theorem escaping_percent {fields : Registry} {fallback : Option Fallback}
    {pattern : Option (Compiled × String)} {escape : List Char → List Char}
    (hpattern : (Compiler.percent fields fallback).escapePattern = .ok pattern)
    (hescape : Compiler.escaping pattern = .ok escape) : escape = escaped := by
  have hparsed : (Compiler.percent fields fallback).escapePattern = .ok (some (.ofChar '%', "%%")) := by
    rw [Compiler.escapePattern, Compiler.percent]
    simp only [percentEscape, parse?_percent]
  obtain rfl := Except.ok.inj (hparsed.symm.trans hpattern)
  have hread : Compiler.escaping (some (.ofChar '%', "%%"))
      = .ok ((Compiled.ofChar '%').replaceAll (.ofText ['%', '%'])) := by
    rw [Compiler.escaping, parse_percent]
  obtain rfl := Except.ok.inj (hread.symm.trans hescape)
  exact funext (Compiled.replaceAll_ofChar '%' ['%', '%'])

/-! ## Texts as lists of characters -/

/-- Escaped texts with the anchor between them. -/
theorem intercalate_escaped (head : List Char) (tail : List (List Char)) :
    percentAnchor.toList.intercalate (escaped head :: tail.map escaped) = joined head tail := by
  induction tail generalizing head with
  | nil => exact List.intercalate_singleton
  | cons next tail ih =>
    rw [List.map_cons, List.intercalate_cons_cons, ih, joined]
    exact List.append_assoc _ _ _

/-- Joining texts joins their characters. -/
theorem toList_zipWith (arguments : List String) (tail : List (List Char)) :
    (List.zipWith (· ++ ·) arguments (tail.map String.ofList)).flatMap String.toList
      = (List.zipWith (· ++ ·) (arguments.map String.toList) tail).flatten := by
  induction arguments generalizing tail with
  | nil => rfl
  | cons a arguments ih =>
    cases tail with
    | nil => rfl
    | cons next tail =>
      simp only [List.map_cons, List.zipWith_cons_cons, List.flatMap_cons, List.flatten_cons, ih,
        String.toList_append, String.toList_ofList]

/-! ## The compiled template -/

/-- The literals after the tokens of a format. -/
def LogFormat.Pieces.following (p : Pieces) : List (List Char) := p.tail.map (·.2)

section Compiled

variable {c : Compiler} {format : String} {t : Template}

/-- There is an extractor for every literal after the first. -/
theorem length_following (h : c.compile format = .ok t) :
    (scan format.toList).following.length = t.extractors.length := by
  obtain ⟨-, -, -, -, hextractors, -, -⟩ := Compiler.compile_eq_ok h
  rw [length_of_mapM_eq_ok hextractors, Pieces.tokens, Pieces.following, List.length_map,
    List.length_map]

/-- **Interleaving** the literals of the scan with the arguments. -/
theorem interleave_eq (h : c.compile format = .ok t) (arguments : List String) :
    t.interleave arguments = String.ofList (interleaved (scan format.toList).head
      (scan format.toList).following (arguments.map String.toList)) := by
  obtain ⟨-, -, -, -, -, hliterals, -⟩ := Compiler.compile_eq_ok h
  obtain ⟨hhead, htail⟩ := List.cons.inj hliterals
  have hfollowing : t.parts.map (·.2) = (scan format.toList).following.map String.ofList := htail
  refine String.toList_inj.mp ?_
  rw [Template.interleave, hhead, hfollowing, String.toList_append, String.toList_ofList,
    String.toList_join, toList_zipWith, String.toList_ofList, interleaved]

/-- **Substituting into a template of escaped literals** interleaves the literals with the arguments, given
one for each field. -/
theorem substitute_joined (h : c.compile format = .ok t)
    (hjoined : t.template.toList = joined (scan format.toList).head (scan format.toList).following)
    (arguments : List String) :
    substitute t.template arguments
      = if arguments.length = t.extractors.length then .ok (t.interleave arguments)
        else .error ("Cannot substitute audit record into " ++ quote t.template ++ ": " ++
          (if arguments.length < t.extractors.length then Misfit.tooFewArguments
            else .tooManyArguments).message) := by
  rw [substitute, hjoined, substituteChars_joined, List.length_map, length_following h, interleave_eq h]
  by_cases hlength : arguments.length = t.extractors.length
  · rw [if_pos hlength, if_pos hlength]
  · rw [if_neg hlength, if_neg hlength]

end Compiled

section Percent

variable {fields : Registry} {fallback : Option Fallback} {format : String} {t : Template}

/-- **The template** is that of the literals of the scan. -/
theorem toList_template (h : (Compiler.percent fields fallback).compile format = .ok t) :
    t.template.toList = joined (scan format.toList).head (scan format.toList).following := by
  obtain ⟨pattern, escape, hpattern, hescape, -, -, htemplate⟩ := Compiler.compile_eq_ok h
  obtain rfl := escaping_percent hpattern hescape
  have hchars : String.toList ∘ (fun literal => String.ofList (escaped literal)) = escaped :=
    funext fun literal => String.toList_ofList
  rw [htemplate, String.toList_intercalate, List.map_map, hchars, Pieces.literals, List.map_cons]
  exact intercalate_escaped _ _

/-- **Substituting into the template** interleaves the literals with the arguments, given one for each
field. -/
theorem substitute_template (h : (Compiler.percent fields fallback).compile format = .ok t)
    (arguments : List String) :
    substitute t.template arguments
      = if arguments.length = t.extractors.length then .ok (t.interleave arguments)
        else .error ("Cannot substitute audit record into " ++ quote t.template ++ ": " ++
          (if arguments.length < t.extractors.length then Misfit.tooFewArguments
            else .tooManyArguments).message) :=
  substitute_joined h (toList_template h) arguments

/-- **Substitution and interleaving agree.**  For any registry and fallback, substituting into the
template of a format gives its literals with the arguments between them when there is an argument for
each field, and fails otherwise; so it gives the line of every event, or fails for the event as the line does.
There is a line where every field has a value that can be written. -/
theorem substitute_eq_interleave (h : (Compiler.percent fields fallback).compile format = .ok t) :
    t.literals = (scan format.toList).literals.map String.ofList ∧
    (∀ arguments, substitute t.template arguments
      = if arguments.length = t.extractors.length then .ok (t.interleave arguments)
        else .error ("Cannot substitute audit record into " ++ quote t.template ++ ": " ++
          (if arguments.length < t.extractors.length then Misfit.tooFewArguments
            else .tooManyArguments).message)) ∧
    ∀ e, (t.arguments e >>= fun arguments => (substitute t.template arguments).mapError .emit) = t.line e ∧
      ((∃ text, t.line e = .ok text) ↔ ∀ x ∈ t.extractors, x.Shows e) := by
  obtain ⟨-, -, -, -, -, hliterals, -⟩ := Compiler.compile_eq_ok h
  refine ⟨hliterals, substitute_template h, fun e => ⟨?_, Template.exists_line_iff⟩⟩
  unfold Template.line
  rcases harguments : t.arguments e with fault | arguments
  · rfl
  · dsimp only [bind, Except.bind, Except.map]
    rw [substitute_template h, if_pos (length_of_mapM_eq_ok harguments)]
    rfl

end Percent

/-- A registry that knows the user. -/
def userFields : Registry := [("USER", some fun e => .ok (.text e.principal))]

/-- The user among percent signs. -/
def userTemplate : Template :=
  ⟨"100%${USER}%d", "100%%%s%%d", "%s", "100%",
    [(⟨⟨"USER".toList, none⟩, fun e => .ok (.text e.principal)⟩, "%d")]⟩

theorem compile_user :
    (Compiler.percent userFields none).compile "100%${USER}%d" = .ok userTemplate := by
  have hscan : scan "100%${USER}%d".toList
      = ⟨"100%".toList, [(⟨"USER".toList, none⟩, "%d".toList)]⟩ := by decide +kernel
  rw [Compiler.compile, hscan]
  rfl

/-- Percent signs in the literals and in the argument stay as they are, and one argument is needed. -/
theorem substitute_user :
    (Compiler.percent userFields none).compile "100%${USER}%d" = .ok userTemplate ∧
    substitute userTemplate.template ["%s"] = .ok "100%%s%d" ∧
    substitute userTemplate.template [] = .error ("Cannot substitute audit record into " ++
      quote userTemplate.template ++ ": not enough arguments for format string") := by
  obtain ⟨-, hsubstitute, -⟩ := substitute_eq_interleave compile_user
  exact ⟨compile_user, hsubstitute ["%s"], hsubstitute []⟩

end AuditTrail
