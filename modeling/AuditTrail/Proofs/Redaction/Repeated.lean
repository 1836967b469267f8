import Mathlib.Data.List.Basic
import AuditTrail.Proofs.Redaction.LastHit
import AuditTrail.Proofs.Redaction.Masking

/-!
# Proofs/Redaction/Repeated — redacting twice

    before ++ ' ++ password ++ ' ++ rest   ──▸   before ++ ' ++ mask ++ ' ++ rest   ──▸   the same

Behind the last cut of a text there is no other, and no quote before the next blank
(`exists_of_lastCut?`).  A mask that could be a password adds none, whatever keyword is in it: the first
quote that could open a password is the closing one (`lastCut?_mask_append`).  So the masked text has its
last cut where the text had it, with the mask for its password (`maskPassword_maskPassword`), and a redacted
event is redacted to itself (`redact_redact`).
-/

namespace AuditTrail

open AuditTrail.Text

/-! ## What is behind the last cut -/

/-- What is behind a text without a cut has none either. -/
theorem lastCut?_of_append {front cs : List Char} (h : lastCut? (front ++ cs) = none) :
    lastCut? cs = none := by
  cases hcut : lastCut? cs with
  | none => rfl
  | some x => cases h.symm.trans (lastCut?_append hcut front)

/-- **A text with a last cut** has an opening there, and behind the closing quote neither a quote before the
next blank nor another cut. -/
theorem exists_of_lastCut? {cs : List Char} {x : PasswordCut} (h : lastCut? cs = some x) :
    ∃ (front : List Char) (o : Opening) (rest : List Char), x.before = front ++ o.text ∧
      x.after = '\'' :: rest ∧ '\'' ∉ solidRun rest ∧ lastCut? rest = none := by
  obtain ⟨position, y, hcut, rfl, hnone⟩ := lastCut?_eq_some h
  obtain ⟨o, c, behind, inside, after, hsplit, -, hclose, rfl⟩ := cutAt?_eq_some_iff.mp hcut
  obtain ⟨rest, rfl, hrun⟩ := not_mem_solidRun_of_closing? hclose
  obtain ⟨rfl, -, -⟩ := eq_of_closing? hclose
  refine ⟨cs.take position, o, rest, rfl, rfl, hrun, ?_⟩
  obtain ⟨k, tail, htext⟩ := List.exists_cons_of_ne_nil o.text_ne_nil
  have hbehind : cs.drop (position + 1) = tail ++ c :: inside ++ ['\''] ++ rest := by
    rw [← List.drop_drop, hsplit, htext]
    simp
  rw [hbehind] at hnone
  exact lastCut?_of_append hnone

/-! ## The mask -/

/-- A keyword has no character that is no letter of it. -/
theorem not_mem_of_startsFold {word k : List Char} {c : Char} (hc : ∀ x ∈ word, sameFold x c = false)
    (hlength : k.length = word.length) (hk : startsFold word k = true) : c ∉ k := by
  intro hmem
  obtain ⟨i, hi, rfl⟩ := List.getElem_of_mem hmem
  obtain ⟨d, hd, hsame⟩ := startsFold_getElem? hk (List.getElem?_eq_getElem (hlength ▸ hi))
  obtain rfl := Option.some.inj ((List.getElem?_eq_getElem hi).symm.trans hd)
  rw [hc _ (List.getElem_mem _)] at hsame
  cases hsame

/-- **The only quote of an opening** is its last character. -/
theorem Opening.quote_not_mem_lead (o : Opening) : '\'' ∉ o.lead := by
  have hword : ∀ x ∈ passwordWord, sameFold x '\'' = false := eq_false_of_all_not (by decide +kernel)
  have hkeyword := not_mem_of_startsFold hword o.length_keyword o.startsPassword_keyword
  have hblank {cs : List Char} (h : ∀ c ∈ cs, isBlank c = true) : '\'' ∉ cs :=
    fun hmem => absurd (h _ hmem) (by decide)
  have hequals : '\'' ∉ if o.equals then ['='] else [] := by
    cases o.equals <;> decide
  simp only [Opening.lead, List.mem_append, not_or]
  exact ⟨⟨⟨hkeyword, hblank o.isBlank_blanks⟩, hequals⟩, hblank o.isBlank_moreBlanks⟩

/-- Two texts behind the first quote of a text are the same. -/
theorem eq_of_quote_prefix {u v a b : List Char} (hu : '\'' ∉ u) (hv : '\'' ∉ v)
    (h : u ++ '\'' :: a = v ++ '\'' :: b) : a = b := by
  have hlength : u.length = v.length := by
    have hplace := congrArg (List.idxOf '\'') h
    rwa [List.idxOf_append_of_notMem hu, List.idxOf_append_of_notMem hv, List.idxOf_cons_self,
      List.idxOf_cons_self] at hplace
  exact (List.cons.inj (List.append_inj h hlength).2).2

/-- **A mask adds no cut**: what it may announce would be opened by the closing quote, and no quote follows
that before the next blank. -/
theorem lastCut?_mask_append {mask rest : List Char} (hmask : '\'' ∉ mask) (hrun : '\'' ∉ solidRun rest)
    (hrest : lastCut? rest = none) : lastCut? (mask ++ '\'' :: rest) = none := by
  -- No opening reaches over the closing quote, as it has no quote inside.
  have hcut (front : List Char) (hfront : '\'' ∉ front) : cutAt? (front ++ '\'' :: rest) = none := by
    cases hcut : cutAt? (front ++ '\'' :: rest) with
    | none => rfl
    | some x =>
      obtain ⟨o, c, behind, inside, after, hsplit, hc, hclose, -⟩ := cutAt?_eq_some_iff.mp hcut
      have hquotes : front ++ '\'' :: rest = o.lead ++ '\'' :: c :: behind := by
        rw [hsplit, Opening.text, List.append_assoc, List.singleton_append]
      obtain rfl := eq_of_quote_prefix hfront o.quote_not_mem_lead hquotes
      have hmem := List.mem_of_getElem? (getElem?_solidRun_of_closing? hclose).1
      rw [solidRun_cons hc] at hrun
      exact absurd (List.mem_cons_of_mem c hmem) hrun
  induction mask with
  | nil =>
    rw [List.nil_append, lastCut?, hrest]
    exact hcut [] List.not_mem_nil
  | cons c mask ih =>
    rw [List.cons_append, lastCut?, ih fun h => hmask (List.mem_cons_of_mem c h)]
    exact hcut (c :: mask) hmask

/-- **Masking twice is masking once**, with a mask that could be a password without a quote. -/
theorem maskPassword_maskPassword {mask : List Char} (hne : mask ≠ [])
    (hsolid : ∀ c ∈ mask, isBlank c = false) (hquote : '\'' ∉ mask) (text : List Char) :
    maskPassword mask (maskPassword mask text) = maskPassword mask text := by
  cases hcut : lastCut? text with
  | none =>
    have hsame : maskPassword mask text = text := by rw [maskPassword, hcut]
    rw [hsame, hsame]
  | some x =>
    obtain ⟨front, o, rest, hbefore, hafter, hrun, hrest⟩ := exists_of_lastCut? hcut
    have hmasked : maskPassword mask text = o.quoting front mask rest := by
      rw [maskPassword, hcut]
      dsimp only
      rw [PasswordCut.masked, hbefore, hafter]
      rfl
    have hclose : closing? ('\'' :: rest) = some ([], '\'' :: rest) := by
      rw [closing?, if_neg (by decide), closing?_eq_none_iff.mpr hrun]
      rfl
    rw [hmasked]
    exact maskPassword_opening o mask front hne hsolid hclose (lastCut?_mask_append hquote hrun hrest)

/-! ## Texts and events -/

namespace Redactor

/-- Whether to redact is not asked of the operation text, if there is one. -/
theorem shouldRedact_withOperation {r : Redactor} {e : Event} {text : String}
    (h : e.operation = some text) (other : String) :
    r.shouldRedact (e.withOperation other) = r.shouldRedact e := by
  have hknown : (e.withOperation other).hasKnownOperation = e.hasKnownOperation := by
    rw [Event.hasKnownOperation, Event.hasKnownOperation, h]
    rfl
  rw [shouldRedact, shouldRedact, hknown]
  rfl

/-- An event that is not to be redacted stays the event it is. -/
theorem redact?_of_not {r : Redactor} {e : Event}
    (h : e.operation = none ∨ r.shouldRedact e = false) : r.redact? e = .ok none := by
  rw [redact?]
  rcases h with h | h
  · rw [h]
  · rw [h]
    split
    · rfl
    · exact if_neg Bool.false_ne_true

/-- **What a password redactor does with an event**: it leaves one that is not to be redacted, and masks the
text of any other. -/
theorem redact_cases (mask : String) (redactUnknown : Bool) (e : Event) :
    ((forPasswords mask redactUnknown).redact? e = .ok none ∧
      (forPasswords mask redactUnknown).redact e = .ok e) ∨
    ∃ text, e.operation = some text ∧ (forPasswords mask redactUnknown).redact e
      = .ok (e.withOperation (String.ofList (maskPassword mask.toList text.toList))) := by
  by_cases hasked : e.operation = none ∨ (forPasswords mask redactUnknown).shouldRedact e = false
  · have hstays := redact?_of_not hasked
    exact .inl ⟨hstays, by rw [redact, hstays]; rfl⟩
  · obtain ⟨htext, hshould⟩ := not_or.mp hasked
    obtain ⟨text, htext⟩ := Option.ne_none_iff_exists'.mp htext
    rw [Bool.not_eq_false] at hshould
    have hoperation : e.operation = some (String.ofList text.toList) := by
      rw [htext, String.ofList_toList]
    exact .inr ⟨text, htext, redact_forPasswords hoperation hshould⟩

/-- An event whose text is redacted to itself stays the event it is. -/
theorem redact?_of_redactText {r : Redactor} {e : Event} {text : String} (h : e.operation = some text)
    (hsame : r.redactText text = .ok text) : r.redact? e = .ok none := by
  rw [redact?, h]
  dsimp only
  rw [hsame, Except.map, if_pos rfl, ite_self]

/-- **Redaction is idempotent**, with a mask that is not empty and has neither a blank nor a quote: a redacted
text is redacted to itself, and a redacted event stays the event it is, to be redacted as much as it was. -/
theorem redact_redact {mask : String} (hne : mask ≠ "")
    (hsolid : ∀ c ∈ mask.toList, isBlank c = false) (hquote : '\'' ∉ mask.toList)
    (redactUnknown : Bool) :
    (∀ text, ∃ redacted, (forPasswords mask redactUnknown).redactText text = .ok redacted ∧
      (forPasswords mask redactUnknown).redactText redacted = .ok redacted) ∧
    ∀ e, ∃ redacted, (forPasswords mask redactUnknown).redact e = .ok redacted ∧
      (forPasswords mask redactUnknown).redact? redacted = .ok none ∧
      (forPasswords mask redactUnknown).shouldRedact redacted
        = (forPasswords mask redactUnknown).shouldRedact e := by
  have htwice (text : List Char) : (forPasswords mask redactUnknown).redactText
      (String.ofList (maskPassword mask.toList text))
        = .ok (String.ofList (maskPassword mask.toList text)) := by
    rw [redactText_forPasswords, String.toList_ofList,
      maskPassword_maskPassword (mt String.toList_eq_nil_iff.mp hne) hsolid hquote]
  refine ⟨fun text => ⟨_, redactText_forPasswords mask redactUnknown text, htwice _⟩, fun e => ?_⟩
  rcases redact_cases mask redactUnknown e with ⟨hstays, hredact⟩ | ⟨text, htext, hredact⟩
  · exact ⟨e, hredact, hstays, rfl⟩
  · exact ⟨_, hredact, redact?_of_redactText rfl (htwice _), shouldRedact_withOperation htext _⟩

/-- A mask that announces a password itself makes no difference. -/
theorem redact_redact_announcing :
    "password=" ≠ "" ∧ (∀ c ∈ "password=".toList, isBlank c = false) ∧
    '\'' ∉ "password=".toList ∧
    (∃ redacted, (forPasswords "password=" true).redactText "PASSWORD 'old' 'new'" = .ok redacted ∧
      (forPasswords "password=" true).redactText redacted = .ok redacted) ∧
    ∃ redacted, (forPasswords "password=" true).redact (creatingBob "hunter2") = .ok redacted ∧
      (forPasswords "password=" true).redact? redacted = .ok none := by
  have hsolid : ∀ c ∈ "password=".toList, isBlank c = false := eq_false_of_all_not rfl
  have hmask : "password=" ≠ "" := by decide
  obtain ⟨htexts, hevents⟩ := redact_redact hmask hsolid (by decide) true
  obtain ⟨redacted, hredacted, hstays, -⟩ := hevents (creatingBob "hunter2")
  exact ⟨by decide, hsolid, by decide, htexts _, redacted, hredacted, hstays⟩

end Redactor

end AuditTrail
