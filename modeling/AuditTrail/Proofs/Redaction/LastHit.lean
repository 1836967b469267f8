import Mathlib.Data.List.TakeWhile
import AuditTrail.Proofs.Redaction.QuotedPassword

/-!
# Proofs/Redaction/LastHit — which quoted password is masked, by positions

    …  password  =  '  s e c r e t  '  …
       │            │ │             │
       position     │ start         finish
                    └ an opening    └ the last quote before a blank

A hit of a text is a position with an `Opening` behind which, before any blank, another quote stands
(`Hit`).  `cutAt?` finds the hit at one position (`Hit.exists_cut`) and `lastCut?` the last hit of the text
(`lastCut?_eq_some`), so redaction with the password pattern writes the mask between the opening and the
last quote of the last hit, and leaves a text without hits as it is (`redactText_eq_of_last_hit`).
-/

namespace AuditTrail

open AuditTrail.Text

/-! ## The run behind an opening -/

/-- **The characters before the first blank.** -/
def solidRun (cs : List Char) : List Char := cs.takeWhile fun c => !isBlank c

theorem solidRun_cons {c : Char} (h : isBlank c = false) (cs : List Char) :
    solidRun (c :: cs) = c :: solidRun cs := List.takeWhile_cons_of_pos (by rw [h]; rfl)

theorem solidRun_cons_of_blank {c : Char} (h : isBlank c = true) (cs : List Char) :
    solidRun (c :: cs) = [] := List.takeWhile_cons_of_neg (by rw [h]; decide)

theorem solidRun_append {solid : List Char} (h : ∀ c ∈ solid, isBlank c = false) (cs : List Char) :
    solidRun (solid ++ cs) = solid ++ solidRun cs :=
  List.takeWhile_append_of_pos fun c hc => by rw [h c hc]; rfl

/-- **There is a closing quote** when there is a quote before the first blank. -/
theorem closing?_eq_none_iff {cs : List Char} : closing? cs = none ↔ '\'' ∉ solidRun cs := by
  induction cs with
  | nil => exact iff_of_true rfl List.not_mem_nil
  | cons c rest ih =>
    rw [closing?]
    rcases hc : isBlank c with _ | _
    · rw [if_neg Bool.false_ne_true, solidRun_cons hc, List.mem_cons]
      cases hrest : closing? rest with
      | none =>
        have hnot : '\'' ∉ solidRun rest := ih.mp hrest
        by_cases hquote : c = '\''
        · simp [hquote]
        · simp [hquote, hnot, Ne.symm hquote]
      | some found =>
        have hmem : '\'' ∈ solidRun rest := by
          refine Decidable.of_not_not fun hnot => ?_
          rw [ih.mpr hnot] at hrest
          cases hrest
        simp [hmem]
    · rw [if_pos rfl, solidRun_cons_of_blank hc]
      exact iff_of_true rfl List.not_mem_nil

/-- **The closing quote is the last one** before the first blank. -/
theorem not_mem_solidRun_of_closing? {cs inside after : List Char}
    (h : closing? cs = some (inside, after)) :
    ∃ rest, after = '\'' :: rest ∧ '\'' ∉ solidRun rest := by
  induction cs generalizing inside with
  | nil => cases h
  | cons c cs ih =>
    rw [closing?] at h
    split at h
    · cases h
    split at h
    · rename_i i a hrest
      obtain ⟨-, rfl⟩ : c :: i = inside ∧ a = after := by simpa using h
      exact ih hrest
    · rename_i hrest
      split at h
      · rename_i hquote
        obtain ⟨-, rfl⟩ : [] = inside ∧ c :: cs = after := by simpa using h
        exact ⟨cs, congrArg (· :: cs) hquote, closing?_eq_none_iff.mp hrest⟩
      · cases h

/-- **What is cut off ends at the last quote** before the first blank. -/
theorem getElem?_solidRun_of_closing? {cs inside after : List Char}
    (h : closing? cs = some (inside, after)) : (solidRun cs)[inside.length]? = some '\'' ∧
      ∀ k : Nat, (solidRun cs)[k]? = some '\'' → k ≤ inside.length := by
  obtain ⟨rest, rfl, hnot⟩ := not_mem_solidRun_of_closing? h
  obtain ⟨rfl, hinside, -⟩ := eq_of_closing? h
  have hquote : isBlank '\'' = false := by decide
  rw [solidRun_append hinside, solidRun_cons hquote]
  refine ⟨by simp, fun k hk => Nat.le_of_not_lt fun hlt => hnot ?_⟩
  obtain ⟨j, rfl⟩ := Nat.exists_eq_add_of_lt hlt
  rw [Nat.add_assoc, List.getElem?_append_right (Nat.le_add_right _ _), Nat.add_sub_cancel_left,
    List.getElem?_cons_succ] at hk
  exact List.mem_of_getElem? hk

/-! ## Openings -/

/-- What a text starts with is as long as the word. -/
theorem startsFold_take {word cs : List Char} (h : startsFold word cs = true) :
    (cs.take word.length).length = word.length ∧ startsFold word (cs.take word.length) = true := by
  induction word generalizing cs with
  | nil => exact ⟨rfl, rfl⟩
  | cons x word ih =>
    cases cs with
    | nil => cases h
    | cons c cs =>
      simp only [startsFold, Bool.and_eq_true] at h
      obtain ⟨hlength, hstarts⟩ := ih h.2
      simp only [List.length_cons, List.take_succ_cons, hlength, startsFold, h.1, hstarts,
        Bool.and_self, and_self]

/-- What is skipped on the way to a quote. -/
theorem exists_skipped (cs : List Char) : ∃ (blanks : List Char) (equals : Bool) (more : List Char),
    (∀ c ∈ blanks, isBlank c = true) ∧ (∀ c ∈ more, isBlank c = true) ∧
      cs = blanks ++ (if equals then ['='] else []) ++ more ++ skipEquals cs := by
  have hblanks (cs : List Char) : ∀ c ∈ cs.takeWhile isBlank, isBlank c = true :=
    fun c hc => List.mem_takeWhile_imp hc
  have hsplit := (List.takeWhile_append_dropWhile (p := isBlank) (l := cs)).symm
  rw [skipEquals]
  split
  · rename_i rest hrest
    refine ⟨cs.takeWhile isBlank, true, rest.takeWhile isBlank, hblanks cs, hblanks rest, ?_⟩
    rw [hrest] at hsplit
    simpa using hsplit
  · refine ⟨cs.takeWhile isBlank, false, [], hblanks cs, fun c hc => absurd hc List.not_mem_nil, ?_⟩
    rwa [if_neg Bool.false_ne_true, List.append_nil, List.append_nil]

/-- **Where the keyword and a quote follow each other** there is an opening. -/
theorem exists_opening {cs rest : List Char} (hstart : startsPassword cs = true)
    (hskip : skipEquals (cs.drop 8) = '\'' :: rest) : ∃ o : Opening, cs = o.text ++ rest := by
  obtain ⟨hlength, hkeyword⟩ := startsFold_take hstart
  obtain ⟨blanks, equals, more, hblanks, hmore, hsplit⟩ := exists_skipped (cs.drop 8)
  refine ⟨⟨cs.take 8, blanks, equals, more, hlength, hkeyword, hblanks, hmore⟩, ?_⟩
  rw [hskip] at hsplit
  refine (List.take_append_drop 8 cs).symm.trans ?_
  rw [hsplit]
  simp [Opening.text, Opening.lead]

/-- **A cut in front of a text** is one behind an opening. -/
theorem cutAt?_eq_some_iff {cs : List Char} {x : PasswordCut} : cutAt? cs = some x ↔
    ∃ (o : Opening) (c : Char) (rest inside after : List Char), cs = o.text ++ c :: rest ∧
      isBlank c = false ∧ closing? rest = some (inside, after) ∧ x = ⟨o.text, c :: inside, after⟩ := by
  constructor
  · intro h
    have hstart : startsPassword cs = true := by
      refine Decidable.of_not_not fun hnot => ?_
      rw [cutAt?_of_not_starts (Bool.eq_false_iff.mpr hnot)] at h
      cases h
    obtain ⟨rest, hskip⟩ : ∃ rest, skipEquals (cs.drop 8) = '\'' :: rest := by
      rw [cutAt?, if_pos hstart] at h
      split at h
      · exact ⟨_, ‹_›⟩
      · cases h
    obtain ⟨o, rfl⟩ := exists_opening hstart hskip
    cases rest with
    | nil =>
      rw [cutAt?, if_pos hstart, hskip] at h
      cases h
    | cons c rest =>
      rw [cutAt?_opening] at h
      split at h
      · cases h
      obtain ⟨⟨inside, after⟩, hclose, rfl⟩ := Option.map_eq_some_iff.mp h
      exact ⟨o, c, rest, inside, after, rfl, Bool.eq_false_iff.mpr ‹_›, hclose, rfl⟩
  · rintro ⟨o, c, rest, inside, after, rfl, hc, hclose, rfl⟩
    rw [cutAt?_opening, if_neg (by rw [hc]; decide), hclose]
    rfl

/-! ## Hits -/

/-- **A password is opened** behind a position: the opening that stands there ends right before `start`. -/
def OpensAt (text : List Char) (position start : Nat) : Prop :=
  ∃ o : Opening, o.text <+: text.drop position ∧ start = position + o.text.length

/-- **A hit of a text**: a password is opened, and of the quotes before the next blank the last one is not
the first character of the password. -/
structure Hit (text : List Char) (position start finish : Nat) : Prop where
  opens : OpensAt text position start
  lt : start < finish
  closes : (solidRun (text.drop start))[finish - start]? = some '\''
  last : ∀ k, (solidRun (text.drop start))[k]? = some '\'' → start + k ≤ finish

/-- What follows an opening in a text. -/
theorem drop_opening {text tail : List Char} {position : Nat} {o : Opening}
    (h : text.drop position = o.text ++ tail) : text.drop (position + o.text.length) = tail := by
  rw [← List.drop_drop, h, List.drop_left]

/-- A run with a quote behind its first character begins with no blank, and there is a closing quote. -/
theorem exists_closing?_of_solidRun {tail : List Char} {k : Nat}
    (h : (solidRun tail)[k + 1]? = some '\'') : ∃ c rest inside after, tail = c :: rest ∧
      isBlank c = false ∧ closing? rest = some (inside, after) := by
  cases tail with
  | nil => simp [solidRun] at h
  | cons c rest =>
    have hc : isBlank c = false := by
      refine Bool.eq_false_iff.mpr fun hblank => ?_
      simp [solidRun_cons_of_blank hblank] at h
    rw [solidRun_cons hc, List.getElem?_cons_succ] at h
    cases hclose : closing? rest with
    | none => exact absurd (List.mem_of_getElem? h) (closing?_eq_none_iff.mp hclose)
    | some found => exact ⟨c, rest, found.1, found.2, rfl, hc, hclose⟩

/-- **A hit is cut**, between its opening and its last quote. -/
theorem Hit.exists_cut {text : List Char} {position start finish : Nat}
    (h : Hit text position start finish) : ∃ x, cutAt? (text.drop position) = some x ∧
      start = position + x.before.length ∧ finish = start + x.password.length := by
  obtain ⟨⟨o, ⟨tail, htail⟩, rfl⟩, hlt, hcloses, hlast⟩ := h
  obtain ⟨k, rfl⟩ := Nat.exists_eq_add_of_lt hlt
  rw [drop_opening htail.symm] at hcloses hlast
  rw [Nat.add_assoc, Nat.add_sub_cancel_left] at hcloses
  obtain ⟨c, rest, inside, after, rfl, hc, hclose⟩ := exists_closing?_of_solidRun hcloses
  obtain ⟨hthere, hmost⟩ := getElem?_solidRun_of_closing? hclose
  rw [solidRun_cons hc] at hcloses hlast
  have hle := hmost k hcloses
  have hge := hlast (inside.length + 1) (by rw [List.getElem?_cons_succ, hthere])
  refine ⟨_, cutAt?_eq_some_iff.mpr ⟨o, c, rest, inside, after, htail.symm, hc, hclose, rfl⟩, rfl, ?_⟩
  rw [List.length_cons]
  omega

/-- **What is cut is a hit.** -/
theorem hit_of_cutAt? {text : List Char} {position : Nat} {x : PasswordCut}
    (h : cutAt? (text.drop position) = some x) : Hit text position (position + x.before.length)
      (position + x.before.length + x.password.length) := by
  obtain ⟨o, c, rest, inside, after, hsplit, hc, hclose, rfl⟩ := cutAt?_eq_some_iff.mp h
  obtain ⟨hthere, hmost⟩ := getElem?_solidRun_of_closing? hclose
  refine ⟨⟨o, ⟨c :: rest, hsplit.symm⟩, rfl⟩, Nat.lt_add_of_pos_right (Nat.succ_pos _), ?_, ?_⟩
  · rw [drop_opening hsplit, solidRun_cons hc, Nat.add_sub_cancel_left, List.length_cons,
      List.getElem?_cons_succ, hthere]
  · intro k hk
    rw [drop_opening hsplit, solidRun_cons hc] at hk
    refine Nat.add_le_add_left ?_ _
    cases k with
    | zero => exact Nat.zero_le _
    | succ k => exact Nat.succ_le_succ (hmost k hk)

/-! ## The last hit -/

/-- **The last cut of a text** is one in front of what follows some position, and from there on there is no
other. -/
theorem lastCut?_eq_some {cs : List Char} {x : PasswordCut} (h : lastCut? cs = some x) :
    ∃ position y, cutAt? (cs.drop position) = some y ∧
      x = { y with before := cs.take position ++ y.before } ∧ lastCut? (cs.drop (position + 1)) = none := by
  induction cs generalizing x with
  | nil => cases h
  | cons c rest ih =>
    rw [lastCut?] at h
    split at h
    · rename_i z hz
      obtain ⟨position, y, hcut, rfl, hnone⟩ := ih hz
      exact ⟨position + 1, y, hcut, (Option.some.inj h).symm, hnone⟩
    · rename_i hnone
      exact ⟨0, x, h, rfl, hnone⟩

/-- A text without a cut has none at any position. -/
theorem cutAt?_drop_of_lastCut? {cs : List Char} (h : lastCut? cs = none) (position : Nat) :
    cutAt? (cs.drop position) = none := by
  induction cs generalizing position with
  | nil =>
    rw [List.drop_nil]
    rfl
  | cons c rest ih =>
    rw [lastCut?] at h
    split at h
    · cases h
    · cases position with
      | zero => exact h
      | succ position => exact ih ‹_› position

/-- **The last hit of a text.** -/
structure LastHit (text : List Char) (position start finish : Nat) : Prop where
  hit : Hit text position start finish
  last : ∀ position' start' finish', Hit text position' start' finish' → position' ≤ position

/-- **What is cut last is the last hit.** -/
theorem lastHit_of_lastCut? {text : List Char} {x : PasswordCut} (h : lastCut? text = some x) :
    ∃ position, LastHit text position x.before.length (x.before.length + x.password.length) := by
  obtain ⟨position, y, hcut, rfl, hnone⟩ := lastCut?_eq_some h
  have hinside : position ≤ text.length := by
    refine Nat.le_of_not_lt fun hlt => ?_
    rw [List.drop_eq_nil_of_le (Nat.le_of_lt hlt)] at hcut
    cases hcut
  have hlength : (text.take position ++ y.before).length = position + y.before.length := by
    rw [List.length_append, List.length_take, Nat.min_eq_left hinside]
  refine ⟨position, hlength ▸ hit_of_cutAt? hcut, fun position' _ _ hhit => ?_⟩
  refine Nat.le_of_not_lt fun hlt => ?_
  obtain ⟨_, hother, -, -⟩ := hhit.exists_cut
  obtain ⟨k, rfl⟩ := Nat.exists_eq_add_of_lt hlt
  have hlater := cutAt?_drop_of_lastCut? hnone k
  rw [List.drop_drop, Nat.add_right_comm] at hlater
  cases hother.symm.trans hlater

/-- There is one last hit. -/
theorem LastHit.unique {text : List Char} {i s e i' s' e' : Nat} (h : LastHit text i s e)
    (h' : LastHit text i' s' e') : s = s' ∧ e = e' := by
  obtain rfl := Nat.le_antisymm (h'.last i s e h.hit) (h.last i' s' e' h'.hit)
  obtain ⟨x, hx, rfl, rfl⟩ := h.hit.exists_cut
  obtain ⟨x', hx', rfl, rfl⟩ := h'.hit.exists_cut
  obtain rfl := Option.some.inj (hx.symm.trans hx')
  exact ⟨rfl, rfl⟩

/-- A text without hits has no cut. -/
theorem lastCut?_eq_none_iff {text : List Char} :
    lastCut? text = none ↔ ∀ position start finish, ¬ Hit text position start finish := by
  constructor
  · intro h position start finish hhit
    obtain ⟨_, hcut, -, -⟩ := hhit.exists_cut
    cases hcut.symm.trans (cutAt?_drop_of_lastCut? h position)
  · intro h
    cases hcut : lastCut? text with
    | none => rfl
    | some x =>
      obtain ⟨position, hlast⟩ := lastHit_of_lastCut? hcut
      exact absurd hlast.hit (h _ _ _)

/-! ## Redaction -/

/-- The mask goes between the opening and the last quote of the last hit. -/
theorem maskPassword_of_lastHit {text : List Char} {position start finish : Nat}
    (h : LastHit text position start finish) (mask : List Char) :
    maskPassword mask text = text.take start ++ mask ++ text.drop finish := by
  cases hcut : lastCut? text with
  | none => exact absurd h.hit (lastCut?_eq_none_iff.mp hcut _ _ _)
  | some x =>
    obtain ⟨position', hlast⟩ := lastHit_of_lastCut? hcut
    obtain ⟨rfl, rfl⟩ := h.unique hlast
    rw [maskPassword, hcut]
    obtain ⟨rfl, -⟩ := lastCut?_sound hcut
    exact (splice_text mask x).symm

/-- **What the password pattern means**, for every mask and text.  A text without hits stays as it is; a
text with hits has a last one, and its redaction is the text before the password of that one, the mask, and
the text from its last quote on. -/
theorem redactText_eq_of_last_hit (mask : String) (redactUnknown : Bool) (text : String) :
    ((∀ position start finish, ¬ Hit text.toList position start finish) →
      (Redactor.forPasswords mask redactUnknown).redactText text = .ok text) ∧
    ((∃ position start finish, Hit text.toList position start finish) →
      ∃ position start finish, LastHit text.toList position start finish) ∧
    ∀ position start finish, LastHit text.toList position start finish →
      (Redactor.forPasswords mask redactUnknown).redactText text = .ok
        (String.ofList (text.toList.take start ++ mask.toList ++ text.toList.drop finish)) := by
  have hredact := Redactor.redactText_forPasswords mask redactUnknown text
  refine ⟨fun hno => ?_, fun hhit => ?_, fun position start finish hlast => ?_⟩
  · rw [hredact, maskPassword, lastCut?_eq_none_iff.mpr hno]
    exact congrArg Except.ok String.ofList_toList
  · obtain ⟨position, start, finish, hhit⟩ := hhit
    cases hcut : lastCut? text.toList with
    | none => exact absurd hhit (lastCut?_eq_none_iff.mp hcut _ _ _)
    | some x =>
      obtain ⟨position', hlast⟩ := lastHit_of_lastCut? hcut
      exact ⟨position', _, _, hlast⟩
  · rw [hredact, maskPassword_of_lastHit hlast]

/-- Of two passwords the last one is masked, up to the last quote before a blank; nothing is masked between
two quotes that follow each other. -/
theorem redactText_two_keywords :
    (∃ position, LastHit "password 'old' PASSWORD = 'it's' 'x'".toList position 27 31) ∧
    Redactor.default.redactText "password 'old' PASSWORD = 'it's' 'x'"
      = .ok "password 'old' PASSWORD = '*****' 'x'" ∧
    (∀ position start finish, ¬ Hit "PASSWORD = ''".toList position start finish) ∧
    Redactor.default.redactText "PASSWORD = ''" = .ok "PASSWORD = ''" := by
  have hcut : lastCut? "password 'old' PASSWORD = 'it's' 'x'".toList
      = some ⟨"password 'old' PASSWORD = '".toList, "it's".toList, "' 'x'".toList⟩ := by decide +kernel
  obtain ⟨position, hlast⟩ := lastHit_of_lastCut? hcut
  have hno := lastCut?_eq_none_iff.mp (show lastCut? "PASSWORD = ''".toList = none by decide +kernel)
  exact ⟨⟨position, hlast⟩, (redactText_eq_of_last_hit "*****" true _).2.2 _ _ _ hlast, hno,
    (redactText_eq_of_last_hit "*****" true _).1 hno⟩

end AuditTrail
