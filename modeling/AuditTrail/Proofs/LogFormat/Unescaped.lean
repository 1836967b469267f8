import AuditTrail.Proofs.LogFormat.Rendering
import AuditTrail.Proofs.Substitution.Percent

/-!
# Proofs/LogFormat/Unescaped — formats compiled without an escape

    "user: ${USER}"  ──▸  "user: %s"   filled in as it reads
    "100% ${USER}"   ──▸  "100% %s"    never filled in as it reads

Without an escape the template has each percent sign of the literals once, and one for each field
(`count_template_unescaped`); a template that gives the line needs each of them twice.  So substitution
gives the interleaved line exactly when no literal has a percent sign, whatever the arguments are
(`substitute_unescaped_iff`).
-/

namespace AuditTrail

open AuditTrail.LogFormat AuditTrail.Substitution

/-! ## Texts without percent signs -/

theorem escaped_eq_self {text : List Char} (h : '%' ∉ text) : escaped text = text := by
  induction text with
  | nil => rfl
  | cons c text ih =>
    obtain ⟨hc, htext⟩ := List.ne_and_not_mem_of_not_mem_cons h
    have hcons : escaped (c :: text) = (if c = '%' then ['%', '%'] else [c]) ++ escaped text :=
      List.flatMap_cons
    rw [hcons, if_neg hc.symm, ih htext]
    rfl

theorem countAll_eq_zero_iff {texts : List (List Char)} :
    countAll texts = 0 ↔ ∀ text ∈ texts, '%' ∉ text := by
  induction texts with
  | nil => exact iff_of_true rfl nofun
  | cons text texts ih =>
    rw [countAll, List.map_cons, List.sum_cons, Nat.add_eq_zero_iff, List.count_eq_zero, List.forall_mem_cons,
      ← ih, countAll]

/-- The percent signs of texts with the anchor between them. -/
theorem count_intercalate (head : List Char) (tail : List (List Char)) :
    (percentAnchor.toList.intercalate (head :: tail)).count '%'
      = head.count '%' + countAll tail + tail.length := by
  induction tail generalizing head with
  | nil => rw [List.intercalate_singleton]; rfl
  | cons next tail ih =>
    have hanchor : percentAnchor.toList.count '%' = 1 := by decide
    rw [List.intercalate_cons_cons, List.count_append, List.count_append, hanchor, ih]
    simp only [countAll, List.map_cons, List.sum_cons, List.length_cons]
    omega

/-- What is substituted, in characters. -/
theorem substituteChars_of_substitute {template : String} {arguments : List String} {text : List Char}
    (h : substitute template arguments = .ok (String.ofList text)) :
    substituteChars template.toList (arguments.map String.toList) = .ok text := by
  unfold substitute at h
  split at h
  case h_1 filled hfilled =>
    rw [hfilled, String.ofList_injective (Except.ok.inj h)]
  case h_2 => cases h

/-! ## The template -/

variable {c : Compiler} {format : String} {t : Template} {arguments : List String}

/-- **No literal has a percent sign.** -/
def Template.IsUnmarked (t : Template) : Prop := ∀ literal ∈ t.literals, '%' ∉ literal.toList

instance (t : Template) : Decidable t.IsUnmarked :=
  inferInstanceAs (Decidable (∀ literal ∈ t.literals, '%' ∉ literal.toList))

theorem isUnmarked_iff (h : c.compile format = .ok t) : t.IsUnmarked ↔
    '%' ∉ (scan format.toList).head ∧ ∀ text ∈ (scan format.toList).following, '%' ∉ text := by
  obtain ⟨-, -, -, -, -, hliterals, -⟩ := Compiler.compile_eq_ok h
  unfold Template.IsUnmarked
  rw [hliterals, List.forall_mem_map, Pieces.literals, List.forall_mem_cons]
  simp only [String.toList_ofList]
  rfl

/-- **The template** has the literals as they are. -/
theorem toList_template_unescaped (h : c.compile format = .ok t) (hescape : c.escape = none)
    (hanchor : c.anchor = percentAnchor) : t.template.toList
      = percentAnchor.toList.intercalate ((scan format.toList).head :: (scan format.toList).following) := by
  obtain ⟨pattern, escape, hpattern, hread, -, -, htemplate⟩ := Compiler.compile_eq_ok h
  rw [Compiler.escapePattern, hescape] at hpattern
  obtain rfl := Except.ok.inj hpattern
  obtain rfl := Except.ok.inj hread
  have hchars : String.toList ∘ (fun literal => String.ofList (id literal)) = id :=
    funext fun literal => String.toList_ofList
  rw [htemplate, hanchor, String.toList_intercalate, List.map_map, hchars, List.map_id]
  rfl

theorem count_template_unescaped (h : c.compile format = .ok t) (hescape : c.escape = none)
    (hanchor : c.anchor = percentAnchor) : t.template.toList.count '%'
      = (scan format.toList).head.count '%' + countAll (scan format.toList).following
        + (scan format.toList).following.length := by
  rw [toList_template_unescaped h hescape hanchor, count_intercalate]

/-- **Without an escape, substitution gives the interleaved line exactly when no literal has a percent
sign.** -/
theorem substitute_unescaped_iff (h : c.compile format = .ok t) (hescape : c.escape = none)
    (hanchor : c.anchor = percentAnchor) (hlength : arguments.length = t.extractors.length) :
    substitute t.template arguments = .ok (t.interleave arguments) ↔ t.IsUnmarked := by
  constructor
  · intro hok
    have hchars := substituteChars_of_substitute (hok.trans (congrArg Except.ok (interleave_eq h arguments)))
    have hcount := count_of_interleaved
      ((List.length_map _).trans (hlength.trans (length_following h).symm)) hchars
    rw [count_template_unescaped h hescape hanchor] at hcount
    refine (isUnmarked_iff h).mpr ⟨List.count_eq_zero.mp ?_, countAll_eq_zero_iff.mp ?_⟩ <;> omega
  · intro hunmarked
    obtain ⟨hhead, hfollowing⟩ := (isUnmarked_iff h).mp hunmarked
    have hsame : (scan format.toList).following.map escaped = (scan format.toList).following :=
      (List.map_congr_left fun text htext => escaped_eq_self (hfollowing text htext)).trans (List.map_id _)
    have hjoined : t.template.toList = joined (scan format.toList).head (scan format.toList).following := by
      rw [toList_template_unescaped h hescape hanchor, ← intercalate_escaped, escaped_eq_self hhead, hsame]
    rw [substitute_joined h hjoined, if_pos hlength]

end AuditTrail
