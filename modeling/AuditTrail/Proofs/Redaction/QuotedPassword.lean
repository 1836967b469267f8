import AuditTrail.Proofs.Redaction.PasswordMatch

/-!
# Proofs/Redaction/QuotedPassword — a password in its surroundings

    before ++ opening ++ secret ++ ' ++ after

An `Opening` is the keyword in any case with blanks, perhaps an equals sign, and the opening quote.
When nothing behind it can be a later password, and the secret has no blank, the last cut of the text
is the one at this opening, and where it ends depends on what follows the secret only
(`maskPassword_opening`).
-/

namespace AuditTrail

open AuditTrail.Text

/-- **How a quoted password is opened.** -/
structure Opening where
  keyword : List Char
  blanks : List Char
  equals : Bool
  moreBlanks : List Char
  length_keyword : keyword.length = 8
  startsPassword_keyword : startsPassword keyword = true
  isBlank_blanks : ∀ c ∈ blanks, isBlank c = true
  isBlank_moreBlanks : ∀ c ∈ moreBlanks, isBlank c = true

namespace Opening

/-- The keyword and what is between it and the quote. -/
def lead (o : Opening) : List Char :=
  o.keyword ++ o.blanks ++ (if o.equals then ['='] else []) ++ o.moreBlanks

/-- The opening as it is written. -/
def text (o : Opening) : List Char := o.lead ++ ['\'']

/-- A text with a quoted secret in it. -/
def quoting (o : Opening) (before secret after : List Char) : List Char :=
  before ++ o.text ++ secret ++ '\'' :: after

theorem text_ne_nil (o : Opening) : o.text ≠ [] := List.append_ne_nil_of_right_ne_nil _ (by simp)

/-- `PASSWORD = '`, as it is written in statements. -/
def usual : Opening where
  keyword := "PASSWORD".toList
  blanks := [' ']
  equals := true
  moreBlanks := [' ']
  length_keyword := rfl
  startsPassword_keyword := by decide +kernel
  isBlank_blanks := List.all_eq_true.mp rfl
  isBlank_moreBlanks := List.all_eq_true.mp rfl

end Opening

/-! ## The cut at an opening -/

theorem skipEquals_of_blanks {blanks more : List Char} (hblanks : ∀ c ∈ blanks, isBlank c = true)
    (hmore : ∀ c ∈ more, isBlank c = true) (equals : Bool) (rest : List Char) :
    skipEquals (blanks ++ (if equals then ['='] else []) ++ more ++ '\'' :: rest) = '\'' :: rest := by
  have hquote : (more ++ '\'' :: rest).dropWhile isBlank = '\'' :: rest := by
    rw [List.dropWhile_append_of_pos hmore]
    rfl
  rw [skipEquals, List.append_assoc, List.append_assoc, List.dropWhile_append_of_pos hblanks]
  cases equals with
  | true =>
    change (more ++ '\'' :: rest).dropWhile isBlank = '\'' :: rest
    exact hquote
  | false =>
    rw [if_neg Bool.false_ne_true, List.nil_append, hquote]
    rfl

/-- **At an opening** the password is one character and what `closing?` says of the rest. -/
theorem cutAt?_opening (o : Opening) (c : Char) (rest : List Char) :
    cutAt? (o.text ++ c :: rest) = if isBlank c then none
      else (closing? rest).map fun (inside, after) => ⟨o.text, c :: inside, after⟩ := by
  have hskip : skipEquals ((o.text ++ c :: rest).drop 8) = '\'' :: c :: rest := by
    have hdrop : (o.text ++ c :: rest).drop 8
        = o.blanks ++ (if o.equals then ['='] else []) ++ o.moreBlanks ++ '\'' :: c :: rest := by
      simp only [Opening.text, Opening.lead, List.append_assoc, ← o.length_keyword, List.drop_left]
      rfl
    rw [hdrop]
    exact skipEquals_of_blanks o.isBlank_blanks o.isBlank_moreBlanks o.equals (c :: rest)
  have hstart : startsPassword (o.text ++ c :: rest) = true := by
    simp only [Opening.text, Opening.lead, List.append_assoc]
    exact startsFold_append o.startsPassword_keyword _
  have htake : (o.text ++ c :: rest).take ((o.text ++ c :: rest).length - (rest.length + 1))
      = o.text := List.take_left' (by simp)
  rw [cutAt?, if_pos hstart, hskip]
  simp only [htake]

/-! ## Nothing but the last keyword counts -/

/-- What stands before the last keyword with a password is kept. -/
theorem lastCut?_append {cs : List Char} {x : PasswordCut} (h : lastCut? cs = some x)
    (before : List Char) :
    lastCut? (before ++ cs) = some { x with before := before ++ x.before } := by
  induction before with
  | nil => exact h
  | cons c before ih => rw [List.cons_append, lastCut?, ih]; rfl

/-- Characters with which no keyword starts can be skipped. -/
theorem lastCut?_append_of_none {cs skipped : List Char}
    (hskipped : ∀ c ∈ skipped, sameFold 'p' c = false) (h : lastCut? cs = none) :
    lastCut? (skipped ++ cs) = none := by
  induction skipped with
  | nil => exact h
  | cons c skipped ih =>
    obtain ⟨hc, hrest⟩ := List.forall_mem_cons.mp hskipped
    rw [List.cons_append, lastCut?, ih hrest]
    exact cutAt?_of_not_starts (startsPassword_cons_of_not hc _)

/-- A text without the keyword has no cut. -/
theorem lastCut?_of_not_holds {cs : List Char} (h : holdsPassword cs = false) :
    lastCut? cs = none := by
  induction cs with
  | nil => rfl
  | cons c rest ih =>
    rw [holdsPassword, Bool.or_eq_false_iff] at h
    rw [lastCut?, ih h.2]
    exact cutAt?_of_not_starts h.1

/-- A text with fewer than two quotes has no cut. -/
theorem lastCut?_of_count_lt {cs : List Char} (h : cs.count '\'' < 2) : lastCut? cs = none := by
  cases hcut : lastCut? cs with
  | none => rfl
  | some x =>
    obtain ⟨rfl, ⟨front, hopens⟩, ⟨rest, hcloses⟩, -, -⟩ := lastCut?_sound hcut
    rw [PasswordCut.text, hopens, hcloses] at h
    simp only [List.count_append, List.count_cons_self, List.count_nil] at h
    omega

/-- A quote is no part of a keyword, so none goes across one. -/
theorem startsFold_append_quote {word : List Char} (hword : ∀ x ∈ word, sameFold x '\'' = false)
    (cs after : List Char) : startsFold word (cs ++ '\'' :: after) = startsFold word cs := by
  induction word generalizing cs with
  | nil => rfl
  | cons x word ih =>
    obtain ⟨hx, hrest⟩ := List.forall_mem_cons.mp hword
    cases cs with
    | nil => simp only [List.nil_append, startsFold, hx, Bool.false_and]
    | cons c cs => rw [List.cons_append, startsFold, startsFold, ih hrest]

theorem holdsPassword_append_quote (cs after : List Char) :
    holdsPassword (cs ++ '\'' :: after) = (holdsPassword cs || holdsPassword after) := by
  have hword : ∀ x ∈ passwordWord, sameFold x '\'' = false :=
    eq_false_of_all_not (by decide +kernel)
  induction cs with
  | nil =>
    change (startsPassword ('\'' :: after) || holdsPassword after) = (false || holdsPassword after)
    rw [startsPassword_cons_of_not (hword 'p' List.mem_cons_self)]
  | cons c cs ih =>
    have hstarts : startsPassword (c :: cs ++ '\'' :: after) = startsPassword (c :: cs) :=
      startsFold_append_quote hword (c :: cs) after
    rw [List.cons_append, holdsPassword, ih, ← List.cons_append, hstarts, holdsPassword,
      Bool.or_assoc]

/-- A blank starts no keyword. -/
theorem sameFold_p_of_isBlank {c : Char} (h : isBlank c = true) : sameFold 'p' c = false := by
  have hfold : foldClass 'p' = ['p'] := by decide +kernel
  have hlower : lowerChar c = c := (lowerChar_eq_iff (isUncased_of_isBlank h) c).mpr rfl
  have hne : c ≠ 'p' := by
    rintro rfl
    exact absurd h (by decide)
  rw [sameFold, hfold, hlower]
  simpa using hne

/-- The letters of the keyword but the first start no keyword. -/
theorem sameFold_p_of_mem_tail {k : List Char} (hlength : k.length = 8)
    (hk : startsPassword k = true) : ∀ c ∈ k.tail, sameFold 'p' c = false := by
  have hfold : ∀ x ∈ passwordWord.tail, (foldClass x).contains 'p' = false :=
    eq_false_of_all_not (by decide +kernel)
  have hp : foldClass 'p' = ['p'] := by decide +kernel
  intro c hc
  obtain ⟨i, hi, rfl⟩ := List.getElem_of_mem hc
  rw [List.length_tail, hlength] at hi
  have hi' : i < passwordWord.tail.length := hi
  have hx : passwordWord[i + 1]? = some (passwordWord.tail.get ⟨i, hi'⟩) := by
    rw [← List.getElem?_tail, List.getElem?_eq_getElem hi']
    rfl
  obtain ⟨d, hd, hsame⟩ := startsFold_getElem? hk hx
  obtain rfl : k.tail[i] = d := by
    rw [List.getElem_tail]
    exact Option.some.inj ((List.getElem?_eq_getElem _).symm.trans hd)
  have hne : lowerChar k.tail[i] ≠ 'p' := by
    intro h
    rw [sameFold, h, hfold _ (List.get_mem _ _)] at hsame
    cases hsame
  rw [sameFold, hp]
  simpa using hne

/-- Behind its first letter nothing in an opening starts a keyword. -/
theorem Opening.sameFold_p_of_mem_tail (o : Opening) : ∀ c ∈ o.text.tail, sameFold 'p' c = false := by
  have hne : o.keyword ≠ [] := by
    intro h
    exact absurd o.length_keyword (by rw [h]; decide)
  have htail : o.text.tail
      = o.keyword.tail ++ o.blanks ++ (if o.equals then ['='] else []) ++ o.moreBlanks ++ ['\''] := by
    simp only [Opening.text, Opening.lead, List.append_assoc, List.tail_append_of_ne_nil hne]
  intro c hc
  rw [htail] at hc
  simp only [List.mem_append, List.mem_singleton] at hc
  rcases hc with (((hc | hc) | hc) | hc) | rfl
  · exact AuditTrail.sameFold_p_of_mem_tail o.length_keyword o.startsPassword_keyword c hc
  · exact sameFold_p_of_isBlank (o.isBlank_blanks c hc)
  · split at hc
    · obtain rfl := List.mem_singleton.mp hc
      decide +kernel
    · exact absurd hc List.not_mem_nil
  · exact sameFold_p_of_isBlank (o.isBlank_moreBlanks c hc)
  · decide +kernel

/-! ## The closing quote -/

/-- Characters that are no blanks come before the closing quote. -/
theorem closing?_append {cs inside after : List Char} (h : closing? cs = some (inside, after))
    {solid : List Char} (hsolid : ∀ c ∈ solid, isBlank c = false) :
    closing? (solid ++ cs) = some (solid ++ inside, after) := by
  induction solid with
  | nil => exact h
  | cons c solid ih =>
    obtain ⟨hc, hrest⟩ := List.forall_mem_cons.mp hsolid
    rw [List.cons_append, closing?, if_neg (by simp [hc]), ih hrest]
    rfl

/-- From a quote on there is a closing quote, if only that one. -/
theorem exists_closing?_quote (cs : List Char) :
    ∃ inside after, closing? ('\'' :: cs) = some (inside, after) := by
  rw [closing?, if_neg (by decide)]
  cases closing? cs with
  | none => exact ⟨[], '\'' :: cs, rfl⟩
  | some found => exact ⟨'\'' :: found.1, found.2, rfl⟩

/-- Without another quote the closing one is the first. -/
theorem closing?_of_not_mem {cs : List Char} (h : '\'' ∉ cs) : closing? cs = none := by
  cases hclose : closing? cs with
  | none => rfl
  | some found =>
    obtain ⟨rfl, -, rest, hrest⟩ := eq_of_closing? hclose
    refine absurd (List.mem_append_right _ ?_) h
    rw [hrest]
    exact List.mem_cons_self

/-- **A secret behind its opening is masked**, with whatever else stands before the closing quote, when
no later text has a cut. -/
theorem maskPassword_opening (o : Opening) (mask before : List Char)
    {secret rest inside after : List Char} (hne : secret ≠ []) (hsolid : ∀ c ∈ secret, isBlank c = false)
    (hclose : closing? ('\'' :: rest) = some (inside, after))
    (hlast : lastCut? (secret ++ '\'' :: rest) = none) :
    maskPassword mask (o.quoting before secret rest) = before ++ o.text ++ mask ++ after := by
  obtain ⟨c, solid, rfl⟩ := List.exists_cons_of_ne_nil hne
  obtain ⟨hc, hsolid⟩ := List.forall_mem_cons.mp hsolid
  have hcut : cutAt? (o.text ++ (c :: solid ++ '\'' :: rest))
      = some ⟨o.text, c :: (solid ++ inside), after⟩ := by
    rw [List.cons_append, cutAt?_opening, if_neg (by simp [hc]), closing?_append hclose hsolid]
    rfl
  have hopening : lastCut? (o.text ++ (c :: solid ++ '\'' :: rest))
      = some ⟨o.text, c :: (solid ++ inside), after⟩ := by
    obtain ⟨k, tail, htext⟩ := List.exists_cons_of_ne_nil o.text_ne_nil
    have htail := o.sameFold_p_of_mem_tail
    rw [htext] at hcut htail ⊢
    have hnone : lastCut? (tail ++ (c :: solid ++ '\'' :: rest)) = none :=
      lastCut?_append_of_none htail hlast
    rw [List.cons_append, lastCut?, hnone]
    exact hcut
  rw [maskPassword, Opening.quoting, List.append_assoc, List.append_assoc,
    lastCut?_append hopening]
  simp [PasswordCut.masked]

end AuditTrail
