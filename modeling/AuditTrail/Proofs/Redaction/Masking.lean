import AuditTrail.Proofs.Redaction.QuotedPassword

/-!
# Proofs/Redaction/Masking — which quoted secrets are masked

    CREATE ROLE bob WITH PASSWORD = 'my secret' AND LOGIN = true

An operation that creates or alters a role has its last quoted secret masked exactly when the secret
has no blank (`redact_quoting_eq_masked_iff`).  With a blank in it the quoted secret stays in the
redacted text as it is (`quoted_suffix_maskPassword`): the capture of the pattern ends at blanks.
-/

namespace AuditTrail

open AuditTrail.Text

/-! ## Secrets without blanks -/

/-- **A secret without blanks is masked**, and everything around it stays, when no quote comes after
the closing one. -/
theorem maskPassword_quoting (o : Opening) (mask before : List Char) {secret after : List Char}
    (hne : secret ≠ []) (hquote : '\'' ∉ secret) (hafter : '\'' ∉ after)
    (hsolid : ∀ c ∈ secret, isBlank c = false) :
    maskPassword mask (o.quoting before secret after) = before ++ o.text ++ mask ++ '\'' :: after := by
  have hclose : closing? ('\'' :: after) = some ([], '\'' :: after) := by
    rw [closing?, if_neg (by decide), closing?_of_not_mem hafter]
    rfl
  have hlast : lastCut? (secret ++ '\'' :: after) = none := by
    refine lastCut?_of_count_lt ?_
    rw [List.count_append, List.count_cons_self, List.count_eq_zero_of_not_mem hquote,
      List.count_eq_zero_of_not_mem hafter]
    decide
  exact maskPassword_opening o mask before hne hsolid hclose hlast

/-! ## Secrets with blanks -/

/-- Two texts behind the last quote of a text are the same. -/
theorem eq_of_quote_suffix {u v cs : List Char} (hu : '\'' ∉ u) (hv : '\'' ∉ v)
    (hcu : '\'' :: u <:+ cs) (hcv : '\'' :: v <:+ cs) : u = v := by
  rcases List.suffix_or_suffix_of_suffix hcu hcv with h | h <;>
    rcases List.suffix_cons_iff.mp h with heq | hsuffix
  · exact (List.cons.inj heq).2
  · exact absurd (hsuffix.mem List.mem_cons_self) hv
  · exact (List.cons.inj heq).2.symm
  · exact absurd (hsuffix.mem List.mem_cons_self) hu

/-- The quoted text stands between the last two quotes, so whatever starts with a quote and has another
one in it ends in the quoted text. -/
theorem quoted_suffix_of_mem {front secret rest after : List Char} (hquote : '\'' ∉ secret)
    (hafter : '\'' ∉ after) (hrest : '\'' ∈ rest)
    (h : '\'' :: rest <:+ front ++ '\'' :: (secret ++ '\'' :: after)) :
    '\'' :: (secret ++ '\'' :: after) <:+ '\'' :: rest := by
  rcases List.suffix_or_suffix_of_suffix (List.suffix_append front _) h with hsuffix | hsuffix
  · exact hsuffix
  · rcases List.suffix_cons_iff.mp hsuffix with heq | hshort
    · exact heq ▸ List.suffix_rfl
    · have hcount := hshort.sublist.count_le '\''
      rw [List.count_append, List.count_cons_self, List.count_cons_self,
        List.count_eq_zero_of_not_mem hquote, List.count_eq_zero_of_not_mem hafter] at hcount
      have hpos := List.count_pos_iff.mpr hrest
      omega

/-- Between the same ends, a text without quotes is part of whatever else can be quoted there. -/
theorem mem_of_quoted_eq {start front password secret : List Char} (hquote : '\'' ∉ secret)
    (h : start ++ '\'' :: password = front ++ '\'' :: secret) : ∀ c ∈ secret, c ∈ password := by
  -- The opening quotes agree, or the first one is further left and the text stands behind it.
  rcases List.suffix_or_suffix_of_suffix (List.suffix_append start ('\'' :: password))
    (h ▸ List.suffix_append front ('\'' :: secret)) with hsuffix | hsuffix <;>
    rcases List.suffix_cons_iff.mp hsuffix with heq | hshort
  · exact fun c hc => (List.cons.inj heq).2 ▸ hc
  · exact absurd (hshort.mem List.mem_cons_self) hquote
  · exact fun c hc => (List.cons.inj heq).2 ▸ hc
  · exact fun c hc => hshort.mem (List.mem_cons_of_mem _ hc)

/-- **A cut around a quoted text**: the quoted text lies in the password, where there is no blank, or it
comes after the password. -/
theorem PasswordCut.Sound.solid_or_suffix {x : PasswordCut} (hx : x.Sound)
    {front secret after : List Char} (hquote : '\'' ∉ secret) (hafter : '\'' ∉ after)
    (htext : x.text = front ++ '\'' :: (secret ++ '\'' :: after)) :
    (∀ c ∈ secret, isBlank c = false) ∨ '\'' :: (secret ++ '\'' :: after) <:+ x.after := by
  obtain ⟨⟨start, hopens⟩, ⟨rest, hcloses⟩, -, hsolid⟩ := hx
  have hsuffix : '\'' :: rest <:+ front ++ '\'' :: (secret ++ '\'' :: after) :=
    htext ▸ hcloses ▸ List.suffix_append _ _
  by_cases hrest : '\'' ∈ rest
  · right
    rw [hcloses]
    exact quoted_suffix_of_mem hquote hafter hrest hsuffix
  · left
    have hall : front ++ '\'' :: (secret ++ '\'' :: after) = front ++ '\'' :: secret ++ '\'' :: after := by
      simp
    obtain rfl : rest = after :=
      eq_of_quote_suffix hrest hafter hsuffix (hall ▸ List.suffix_append _ _)
    have hinside : start ++ '\'' :: x.password = front ++ '\'' :: secret := by
      refine (List.append_left_inj ('\'' :: rest)).mp ?_
      rw [← hall, ← htext, PasswordCut.text, hopens, hcloses]
      simp
    exact fun c hc => hsolid c (mem_of_quoted_eq hquote hinside c hc)

/-- **A quoted text with a blank in it is not masked**, whatever the mask. -/
theorem quoted_suffix_maskPassword (o : Opening) (mask before : List Char) {secret after : List Char}
    (hquote : '\'' ∉ secret) (hafter : '\'' ∉ after) (hblank : ∃ c ∈ secret, isBlank c = true) :
    '\'' :: (secret ++ '\'' :: after) <:+ maskPassword mask (o.quoting before secret after) := by
  have htext : o.quoting before secret after
      = before ++ o.lead ++ '\'' :: (secret ++ '\'' :: after) := by
    simp [Opening.quoting, Opening.text]
  rw [maskPassword]
  cases hcut : lastCut? (o.quoting before secret after) with
  | none => exact htext ▸ List.suffix_append _ _
  | some x =>
    obtain ⟨hx, hsound⟩ := lastCut?_sound hcut
    obtain ⟨c, hc, hblank⟩ := hblank
    rcases hsound.solid_or_suffix hquote hafter (hx.trans htext) with hsolid | hsuffix
    · rw [hsolid c hc] at hblank
      cases hblank
    · exact hsuffix.trans (List.suffix_append _ _)

/-- **Masking finds a secret exactly when it has no blank**, with a mask that could be a secret itself. -/
theorem maskPassword_quoting_iff (o : Opening) (mask before : List Char) {secret after : List Char}
    (hmask : '\'' ∉ mask) (hsolid : ∀ c ∈ mask, isBlank c = false) (hne : secret ≠ [])
    (hquote : '\'' ∉ secret) (hafter : '\'' ∉ after) :
    maskPassword mask (o.quoting before secret after) = before ++ o.text ++ mask ++ '\'' :: after
      ↔ ∀ c ∈ secret, isBlank c = false := by
  refine ⟨fun h c hc => ?_, maskPassword_quoting o mask before hne hquote hafter⟩
  refine Bool.eq_false_iff.mpr fun hblank => ?_
  obtain ⟨front, hfront⟩ := quoted_suffix_maskPassword o mask before hquote hafter ⟨c, hc, hblank⟩
  have hopen : front ++ '\'' :: secret = before ++ o.lead ++ '\'' :: mask := by
    refine (List.append_left_inj ('\'' :: after)).mp ?_
    simpa [Opening.text] using hfront.trans h
  have hsame : secret = mask :=
    eq_of_quote_suffix hquote hmask (List.suffix_append front _) (hopen ▸ List.suffix_append _ _)
  rw [hsolid c (hsame ▸ hc)] at hblank
  cases hblank

/-! ## Redacting role operations -/

/-- The default redactor looks into all operations that create or alter roles. -/
theorem shouldRedact_default {e : Event} (hrole : e.resource.isRole = true)
    (hsets : Permission.create ∈ e.permissions ∨ Permission.alter ∈ e.permissions) :
    Redactor.default.shouldRedact e = true := by
  have hany : e.permissions.any Redactor.setsPassword = true := by
    rcases hsets with h | h
    · exact List.any_eq_true.mpr ⟨_, h, by decide⟩
    · exact List.any_eq_true.mpr ⟨_, h, by decide⟩
  rw [Redactor.shouldRedact, hrole, hany, Bool.and_self, Bool.or_true]

/-- Events with other texts are other events. -/
theorem Event.withOperation_ofList_inj {e : Event} {u v : List Char}
    (h : (.ok (e.withOperation (String.ofList u)) : Except Fault Event)
      = .ok (e.withOperation (String.ofList v))) : u = v := by
  have htexts := congrArg Event.operation (Except.ok.inj h)
  exact String.ofList_injective (Option.some.inj htexts)

/-- **The default redactor masks a quoted secret exactly when it has no blank**, in the operations that
create or alter roles; a secret with a blank stays in its quotes. -/
theorem redact_quoting_eq_masked_iff {e : Event} {o : Opening} {before secret after : List Char}
    (hrole : e.resource.isRole = true)
    (hsets : Permission.create ∈ e.permissions ∨ Permission.alter ∈ e.permissions)
    (htext : e.operation = some (String.ofList (o.quoting before secret after)))
    (hne : secret ≠ []) (hquote : '\'' ∉ secret) (hafter : '\'' ∉ after) :
    (Redactor.default.redact e
        = .ok (e.withOperation (String.ofList (before ++ o.text ++ "*****".toList ++ '\'' :: after)))
      ↔ ∀ c ∈ secret, isBlank c = false) ∧
    ((∃ c ∈ secret, isBlank c = true) → ∃ front, Redactor.default.redact e
        = .ok (e.withOperation (String.ofList (front ++ '\'' :: (secret ++ '\'' :: after))))) := by
  have hredact := Redactor.redact_default htext (shouldRedact_default hrole hsets)
  have hiff := maskPassword_quoting_iff o "*****".toList before (by decide)
    (eq_false_of_all_not rfl) hne hquote hafter
  refine ⟨⟨fun h => ?_, fun hsolid => ?_⟩, fun hblank => ?_⟩
  · exact hiff.mp (Event.withOperation_ofList_inj (hredact.symm.trans h))
  · rw [hredact, hiff.mpr hsolid]
  · obtain ⟨front, hfront⟩ := quoted_suffix_maskPassword o "*****".toList before hquote hafter hblank
    exact ⟨front, by rw [hredact, hfront]⟩

/-- A statement of `alice` that creates the role `bob` with a password. -/
def creatingBob (secret : String) : Event where
  principal := "alice"
  clientAddress := none
  clientPort := none
  coordinatorAddress := none
  batchId := none
  status := .attempt
  operation := some (String.ofList
    (Opening.usual.quoting "CREATE ROLE bob WITH ".toList secret.toList " AND LOGIN = true".toList))
  operationKnown := true
  nakedOperation := none
  permissions := [.create]
  resource := .role "bob"
  timestamp := 0

/-- A secret without blanks is masked. -/
theorem redact_creatingBob_solid :
    (creatingBob "hunter2").resource.isRole = true ∧
    Permission.create ∈ (creatingBob "hunter2").permissions ∧ "hunter2".toList ≠ [] ∧
    '\'' ∉ "hunter2".toList ∧ '\'' ∉ " AND LOGIN = true".toList ∧
    Redactor.default.redact (creatingBob "hunter2") = .ok ((creatingBob "hunter2").withOperation
      "CREATE ROLE bob WITH PASSWORD = '*****' AND LOGIN = true") := by
  have hmasked := (redact_quoting_eq_masked_iff (e := creatingBob "hunter2") (by decide)
    (.inl (by decide)) rfl (by decide) (by decide) (by decide)).1.mpr (eq_false_of_all_not rfl)
  exact ⟨by decide, by decide, by decide, by decide, by decide, hmasked⟩

/-- A secret with a blank is not masked: the event stays as it is. -/
theorem redact_creatingBob_blank :
    ¬ ∀ (e : Event) (o : Opening) (before secret after : List Char), e.resource.isRole = true →
      (Permission.create ∈ e.permissions ∨ Permission.alter ∈ e.permissions) →
      e.operation = some (String.ofList (o.quoting before secret after)) →
      secret ≠ [] → '\'' ∉ secret → '\'' ∉ after → holdsPassword after = false →
      Redactor.default.redact e = .ok
        (e.withOperation (String.ofList (before ++ o.text ++ "*****".toList ++ '\'' :: after))) := by
  intro h
  have hmasked := h (creatingBob "my secret") .usual _ _ _ (by decide) (.inl (by decide)) rfl
    (by decide) (by decide) (by decide) (by decide +kernel)
  have hredact := Redactor.redact_default (e := creatingBob "my secret") rfl (by decide)
  exact absurd (Event.withOperation_ofList_inj (hredact.symm.trans hmasked)) (by decide +kernel)

end AuditTrail
