import AuditTrail.Proofs.Pattern.Matching
import AuditTrail.Redaction

/-!
# Proofs/Redaction/Splicing — what redaction leaves of a text, with any rules

    before ++ secret ++ after   ──first rule that matches──▸   before ++ mask ++ after

The first rule that matches the whole text decides, and none behind it is asked (`redactChars_eq`).  What its
group captured lies in the text, so the mask takes its place and all around it stays (`spliced_of_secret`).
Where the group took no part in the match nothing is there to be masked, and yet the mask is written in front
of the last character: redaction is a splice exactly when that does not happen, or the mask is empty
(`redactText_spliced_iff`).  All that is asked of a rule is that its group is one of its groups, and that
what it captures lies in the text (`RedactionRule.IsSound`); the rules of patterns are so
(`isSound_ofPattern`).
-/

namespace AuditTrail

open AuditTrail.Pattern

/-! ## Rules -/

/-- **The group of a rule is there**, and what it captures lies in the text. -/
structure RedactionRule.IsSound (rule : RedactionRule) : Prop where
  exists_span {text : List Char} {groups : GroupSpans} (h : rule.fullMatch? text = some groups) :
    ∃ span, groups rule.group = .ok span
  inside {text : List Char} {groups : GroupSpans} {start finish : Nat} (h : rule.fullMatch? text = some groups)
    (hspan : groups rule.group = .ok (some (start, finish))) : start ≤ finish ∧ finish ≤ text.length

section Pattern

variable {p : Compiled} {group : String} {text : List Char}

/-- The rule of a pattern matches the texts that the pattern matches. -/
theorem fullMatch?_ofPattern_eq_none_iff :
    (RedactionRule.ofPattern p group).fullMatch? text = none ↔ ¬ p.Matches text := by
  rw [← Compiled.fullMatch?_eq_none_iff]
  exact Option.map_eq_none_iff

/-- **The rule of a pattern with its group** is sound. -/
theorem isSound_ofPattern (hgroup : (p.groupNamed? group).isSome) :
    (RedactionRule.ofPattern p group).IsSound := by
  obtain ⟨index, hindex⟩ := Option.isSome_iff_exists.mp hgroup
  have hgroups (found : Spot) : p.groups found group = .ok (found.span? index) := by
    simp only [Compiled.groups, hindex]
  constructor
  · intro text groups h
    obtain ⟨found, -, rfl⟩ := Option.map_eq_some_iff.mp h
    exact ⟨_, hgroups found⟩
  · intro text groups start finish h hspan
    obtain ⟨found, hfound, rfl⟩ := Option.map_eq_some_iff.mp h
    exact Compiled.span?_of_fullMatch? hfound (Except.ok.inj ((hgroups found).symm.trans hspan))

end Pattern

/-! ## The first rule that matches -/

/-- **The first of some rules that matches the whole text**, and the groups of its match. -/
def FirstMatch (rules : List RedactionRule) (text : List Char) (rule : RedactionRule) (groups : GroupSpans) :
    Prop :=
  ∃ earlier later, rules = earlier ++ rule :: later ∧
    (∀ other ∈ earlier, other.fullMatch? text = none) ∧ rule.fullMatch? text = some groups

/-- **The first match leaves its group out.** -/
def LeavesOut (rules : List RedactionRule) (text : List Char) : Prop :=
  ∃ rule groups, FirstMatch rules text rule groups ∧ groups rule.group = .ok none

/-- **A text is spliced** into another one: it stays when no rule matches it, or when the group of the first
one that does took no part; otherwise the mask takes the place of the secret. -/
inductive Spliced (mask : List Char) (rules : List RedactionRule) (text : List Char) : List Char → Prop
  | unmatched (hnone : ∀ rule ∈ rules, rule.fullMatch? text = none) : Spliced mask rules text text
  | apart {rule : RedactionRule} {groups : GroupSpans} (hfirst : FirstMatch rules text rule groups)
    (hsecret : groups rule.group = .ok none) : Spliced mask rules text text
  | masked {rule : RedactionRule} {groups : GroupSpans} {before secret after : List Char}
    (hfirst : FirstMatch rules text rule groups) (htext : text = before ++ secret ++ after)
    (hsecret : groups rule.group = .ok (some (before.length, before.length + secret.length))) :
    Spliced mask rules text (before ++ mask ++ after)

/-- The search for the first rule that matches. -/
def firstMatch? (rules : List RedactionRule) (text : List Char) : Option (RedactionRule × GroupSpans) :=
  rules.findSome? fun rule => (rule.fullMatch? text).map (rule, ·)

section FirstMatch

variable {rules : List RedactionRule} {text mask : List Char} {rule : RedactionRule} {groups : GroupSpans}

theorem firstMatch?_eq_none_iff :
    firstMatch? rules text = none ↔ ∀ rule ∈ rules, rule.fullMatch? text = none := by
  simp only [firstMatch?, List.findSome?_eq_none_iff, Option.map_eq_none_iff]

theorem firstMatch?_eq_some_iff :
    firstMatch? rules text = some (rule, groups) ↔ FirstMatch rules text rule groups := by
  simp only [firstMatch?, List.findSome?_eq_some_iff, Option.map_eq_none_iff, FirstMatch]
  constructor
  · rintro ⟨earlier, first, later, hrules, hfirst, hearlier⟩
    obtain ⟨found, hfound, hpair⟩ := Option.map_eq_some_iff.mp hfirst
    obtain ⟨rfl, rfl⟩ := Prod.mk.inj hpair
    exact ⟨earlier, later, hrules, hearlier, hfound⟩
  · rintro ⟨earlier, later, hrules, hearlier, hfound⟩
    exact ⟨earlier, rule, later, hrules, by rw [hfound]; rfl, hearlier⟩

theorem FirstMatch.mem (h : FirstMatch rules text rule groups) : rule ∈ rules := by
  obtain ⟨earlier, later, rfl, -⟩ := h
  simp

theorem FirstMatch.fullMatch?_eq (h : FirstMatch rules text rule groups) :
    rule.fullMatch? text = some groups :=
  h.choose_spec.choose_spec.2.2

/-- **The first match is one.** -/
theorem FirstMatch.unique {rule' : RedactionRule} {groups' : GroupSpans} (h : FirstMatch rules text rule groups)
    (h' : FirstMatch rules text rule' groups') : rule = rule' ∧ groups = groups' :=
  Prod.mk.inj (Option.some.inj ((firstMatch?_eq_some_iff.mpr h).symm.trans (firstMatch?_eq_some_iff.mpr h')))

theorem not_leavesOut_of_secret {span : Nat × Nat} (hfirst : FirstMatch rules text rule groups)
    (hsecret : groups rule.group = .ok (some span)) : ¬ LeavesOut rules text := by
  rintro ⟨rule', groups', hfirst', hnone⟩
  obtain ⟨rfl, rfl⟩ := hfirst.unique hfirst'
  cases hsecret.symm.trans hnone

theorem not_leavesOut_of_unmatched (hnone : ∀ rule ∈ rules, rule.fullMatch? text = none) :
    ¬ LeavesOut rules text := by
  rintro ⟨rule, groups, hfirst, -⟩
  cases (firstMatch?_eq_none_iff.mpr hnone).symm.trans (firstMatch?_eq_some_iff.mpr hfirst)

/-- A text that is left out is spliced into itself. -/
theorem Spliced.eq_of_leavesOut {redacted : List Char} (h : Spliced mask rules text redacted)
    (hout : LeavesOut rules text) : redacted = text := by
  cases h with
  | unmatched => rfl
  | apart => rfl
  | masked hfirst _ hsecret => exact absurd hout (not_leavesOut_of_secret hfirst hsecret)

/-! ## Redacted texts -/

namespace Redactor

/-- **The first rule that matches decides.** -/
theorem redactChars_eq (mask : List Char) (rules : List RedactionRule) (text : List Char) :
    redactChars mask rules text = match firstMatch? rules text with
      | none => .ok text
      | some (rule, groups) => (groups rule.group).map (splice mask text) := by
  induction rules with
  | nil => rfl
  | cons rule rest ih =>
    rw [redactChars, firstMatch?, List.findSome?_cons]
    cases rule.fullMatch? text with
    | none => exact ih
    | some groups => rfl

/-- Without a secret the mask is written in front of the last character. -/
theorem splice_none_eq_self_iff : splice mask text none = text ↔ mask = [] := by
  have htext : text.dropLast ++ text.drop (text.length - 1) = text := by
    rw [List.dropLast_eq_take, List.take_append_drop]
  constructor
  · intro h
    have hlength := congrArg List.length (h.trans htext.symm)
    simp only [splice, List.length_append] at hlength
    exact List.eq_nil_of_length_eq_zero (by omega)
  · rintro rfl
    rw [splice, List.append_nil, htext]

/-- **A captured secret is spliced out of the text.** -/
theorem spliced_of_secret {start finish : Nat} (hsound : rule.IsSound)
    (hfirst : FirstMatch rules text rule groups) (hsecret : groups rule.group = .ok (some (start, finish))) :
    Spliced mask rules text (splice mask text (some (start, finish))) := by
  obtain ⟨hle, hin⟩ := hsound.inside hfirst.fullMatch?_eq hsecret
  have hbefore : (text.take start).length = start := List.length_take_of_le (Nat.le_trans hle hin)
  have hinside : ((text.drop start).take (finish - start)).length = finish - start := by
    rw [List.length_take_of_le]
    rw [List.length_drop]
    omega
  have htext : text = text.take start ++ (text.drop start).take (finish - start) ++ text.drop finish := by
    have hafter : text.drop finish = (text.drop start).drop (finish - start) := by
      rw [List.drop_drop, Nat.add_sub_cancel' hle]
    rw [hafter, List.append_assoc, List.take_append_drop, List.take_append_drop]
  refine .masked hfirst htext ?_
  rw [hbefore, hinside, Nat.add_sub_cancel' hle, hsecret]

/-- **Redaction is a splice** exactly when the mask is empty or the first match does not leave its group
out.  Where it does, the mask is written in front of the last character. -/
theorem redactText_spliced_iff {r : Redactor} (hsound : ∀ rule ∈ r.rules, rule.IsSound) (text : String) :
    ∃ redacted, r.redactText text = .ok (String.ofList redacted) ∧
      (Spliced r.mask.toList r.rules text.toList redacted ↔
        r.mask = "" ∨ ¬ LeavesOut r.rules text.toList) ∧
      (LeavesOut r.rules text.toList → redacted
        = text.toList.dropLast ++ r.mask.toList ++ text.toList.drop (text.toList.length - 1)) := by
  rcases hmatch : firstMatch? r.rules text.toList with _ | ⟨rule, groups⟩
  · have hnone := firstMatch?_eq_none_iff.mp hmatch
    have hout := not_leavesOut_of_unmatched hnone
    refine ⟨text.toList, ?_, iff_of_true (.unmatched hnone) (.inr hout), fun h => absurd h hout⟩
    simp only [redactText, redactChars_eq, hmatch, Except.map]
  · have hfirst := firstMatch?_eq_some_iff.mp hmatch
    have hrule := hsound rule hfirst.mem
    obtain ⟨span, hspan⟩ := hrule.exists_span hfirst.fullMatch?_eq
    refine ⟨splice r.mask.toList text.toList span, ?_, ?_⟩
    · simp only [redactText, redactChars_eq, hmatch, hspan, Except.map]
    cases span with
    | none =>
      have hout : LeavesOut r.rules text.toList := ⟨rule, groups, hfirst, hspan⟩
      refine ⟨?_, fun _ => rfl⟩
      rw [or_iff_left (not_not_intro hout), ← String.toList_eq_nil_iff, ← splice_none_eq_self_iff]
      refine ⟨fun h => h.eq_of_leavesOut hout, fun h => ?_⟩
      rw [h]
      exact .apart hfirst hspan
    | some span =>
      have hout := not_leavesOut_of_secret hfirst hspan
      exact ⟨iff_of_true (spliced_of_secret hrule hfirst hspan) (.inr hout), fun h => absurd h hout⟩

/-- An optional group in front of a word, as `(?P<h>x)?abc` is read. -/
def optionalMark : Compiled where
  node := .all [.maybe (.group 1 (.atom (.char 'x'))), .word "abc".toList]
  modes := ⟨false, false⟩
  groupCount := 1
  names := [("h", 1)]

/-- Masks the optional group. -/
def marking : Redactor := ⟨"*****", true, [.ofPattern optionalMark "h"]⟩

theorem isSound_of_mem_marking : ∀ rule ∈ marking.rules, rule.IsSound :=
  List.forall_mem_singleton.mpr (isSound_ofPattern rfl)

/-- Where the group takes part, it is masked. -/
theorem redactText_marked :
    (∀ rule ∈ marking.rules, rule.IsSound) ∧
    ∃ redacted, marking.redactText "xabc" = .ok (String.ofList redacted) ∧
      redacted = "*****abc".toList ∧ Spliced "*****".toList marking.rules "xabc".toList redacted := by
  have hfirst : FirstMatch marking.rules "xabc".toList (.ofPattern optionalMark "h")
      (optionalMark.groups ⟨4, [], [(1, 0, 1)]⟩) :=
    ⟨[], [], rfl, nofun, rfl⟩
  have hout := not_leavesOut_of_secret hfirst rfl
  obtain ⟨redacted, hredact, hspliced, -⟩ := redactText_spliced_iff isSound_of_mem_marking "xabc"
  have hvalue : marking.redactText "xabc" = .ok (String.ofList "*****abc".toList) := rfl
  refine ⟨isSound_of_mem_marking, redacted, hredact, ?_, hspliced.mpr (.inr hout)⟩
  exact String.ofList_injective (Except.ok.inj (hredact.symm.trans hvalue))

/-- Where it does not, the word is cut. -/
theorem redactText_unmarked :
    ¬ ∀ (r : Redactor) (text : String), (∀ rule ∈ r.rules, rule.IsSound) →
      ∃ redacted, r.redactText text = .ok (String.ofList redacted) ∧
        Spliced r.mask.toList r.rules text.toList redacted := by
  intro h
  obtain ⟨redacted, hredact, hspliced⟩ := h marking "abc" isSound_of_mem_marking
  have hout : LeavesOut marking.rules "abc".toList :=
    ⟨.ofPattern optionalMark "h", optionalMark.groups ⟨3, [], []⟩, ⟨[], [], rfl, nofun, rfl⟩, rfl⟩
  obtain rfl := hspliced.eq_of_leavesOut hout
  have hvalue : marking.redactText "abc" = .ok "ab*****c" := rfl
  exact absurd (Except.ok.inj (hvalue.symm.trans hredact)) (by decide)

end Redactor

end FirstMatch

end AuditTrail
