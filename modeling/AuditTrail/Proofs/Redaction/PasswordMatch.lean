import AuditTrail.Proofs.Pattern.Repetition
import AuditTrail.Proofs.Redaction.PasswordCut
import AuditTrail.Proofs.Text.Uncased

/-!
# Proofs/Redaction/PasswordMatch — what the password pattern matches

`passwordPattern` matches a text exactly when the text has a last cut, and captures its password
(`fullMatch?_passwordPattern`); hence redaction with that pattern writes the mask between `before` and
`after` of the cut (`Redactor.redact_forPasswords`).

The pattern is settled from its end backwards: the tail from the opening quote on is `closing?`, the
two repetitions of blanks around the equals sign leave one spot only, and the prefix counts down from
the end of the text.
-/

namespace AuditTrail

open AuditTrail.Text AuditTrail.Pattern

/-- The modes of the password pattern. -/
abbrev foldModes : Modes := ⟨true, true⟩

/-- No white space. -/
abbrev solidAtom : Atom := .set true [.category .blank false]

/-- A single quote. -/
abbrev quoteNode : Node := .atom (.char '\'')

/-- A match ends at the end of the text. -/
def atEnd : Next := fun s => if s.rest.isEmpty then some s else none

/-! ## What the characters of the pattern accept -/

theorem accepts_any (c : Char) : Atom.any.accepts foldModes c = true := rfl

theorem accepts_blank (c : Char) : blankAtom.accepts foldModes c = isBlank c := by
  simp [blankAtom, Atom.accepts, SetItem.holds, Category.holds, isBlank_lowerChar]

theorem accepts_solid (c : Char) : solidAtom.accepts foldModes c = !isBlank c := by
  simp [Atom.accepts, SetItem.holds, Category.holds, isBlank_lowerChar]

theorem accepts_quote (c : Char) : (Atom.char '\'').accepts foldModes c = (c == '\'') :=
  sameFold_quote c

theorem accepts_equals (c : Char) : (Atom.char '=').accepts foldModes c = (c == '=') :=
  sameFold_equals c

/-! ## The last character class: up to the end -/

variable {s : Spot} {next : Next}

theorem countDown_of_eq_some {α : Type} {f : Nat → Option α} {n : Nat} {x : α} (h : f n = some x) :
    countDown f n = some x := by
  cases n with
  | zero => exact h
  | succ n => rw [countDown, h]; rfl

/-- The rest of the text matches, whatever it is. -/
theorem run_many_any :
    (Node.many .any).run foldModes s atEnd = some (s.advance s.rest.length) := by
  rw [run_many, runLength_eq_length fun c _ => accepts_any c]
  exact countDown_of_eq_some (by simp [atEnd])

/-- The closing quote and the rest of the text. -/
theorem run_quote_many_any :
    (Node.all [quoteNode, .many .any]).run foldModes s atEnd
      = if s.rest.head? = some '\'' then some (s.advance s.rest.length) else none := by
  rw [run_all_cons]
  cases hs : s.rest with
  | nil => rw [run_atom_nil hs]; rfl
  | cons c rest =>
    rw [run_atom_cons hs, accepts_quote]
    by_cases hc : c = '\''
    · subst hc
      rw [if_pos (by simp), if_pos (by simp), Node.all, run_many_any]
      simp [hs, Nat.add_comm]
    · rw [if_neg (by simpa using hc), if_neg (by simpa using hc)]

/-- **Counting down from the end of a run of non-blanks** finds its last quote. -/
theorem countDown_closing {α : Type} (f : Nat → α) (cs : List Char) :
    countDown (fun k => if (cs.drop k).head? = some '\'' then some (f k) else none)
        (runLength foldModes solidAtom cs)
      = (closing? cs).map fun (inside, _) => f inside.length := by
  induction cs generalizing f with
  | nil => rfl
  | cons c rest ih =>
    rw [closing?]
    by_cases hc : isBlank c = true
    · have hquote : c ≠ '\'' := by
        rintro rfl
        exact absurd hc (by decide)
      rw [if_pos hc, runLength_cons_of_not_accepts (by rw [accepts_solid]; simp [hc]), countDown,
        List.drop_zero, List.head?_cons, if_neg (by simpa using hquote)]
      rfl
    · rw [if_neg hc, runLength_cons_of_accepts (by rw [accepts_solid]; simpa using hc),
        countDown_succ]
      simp only [List.drop_succ_cons, List.drop_zero, List.head?_cons, Option.some.injEq]
      rw [ih fun k => f (k + 1)]
      cases hrest : closing? rest with
      | some found => rfl
      | none => by_cases hq : c = '\'' <;> simp [hq]

/-- **From behind the opening quote on**: one character, and what `closing?` says of the rest. -/
theorem run_secret :
    (Node.all [.group 1 (.some solidAtom), quoteNode, .many .any]).run foldModes s atEnd
      = match s.rest with
        | [] => none
        | c :: rest =>
          if isBlank c then none
          else (closing? rest).map fun (inside, _) =>
            ⟨s.position + s.rest.length, [],
              (1, s.position, s.position + (inside.length + 1)) :: s.captures⟩ := by
  rw [run_all_cons]
  change (Node.some solidAtom).run foldModes s _ = _
  cases hs : s.rest with
  | nil => exact run_some_nil hs
  | cons c rest =>
    rw [run_some_cons hs, accepts_solid]
    by_cases hc : isBlank c = true
    · simp [hc]
    · rw [if_pos (by simpa using hc)]
      simp only [if_neg hc]
      rw [← countDown_closing (fun n => (⟨s.position + (c :: rest).length, [],
        (1, s.position, s.position + (n + 1)) :: s.captures⟩ : Spot)) rest]
      refine congrArg (countDown · _) (funext fun k => ?_)
      rw [run_quote_many_any]
      simp only [Spot.advance_rest, hs, List.drop_succ_cons]
      split
      · rename_i hhead
        have hk : k < rest.length := by
          refine Nat.lt_of_not_le fun hle => ?_
          rw [List.drop_eq_nil_of_le hle] at hhead
          simp at hhead
        simp only [Spot.advance, List.length_drop, List.length_cons, Option.some.injEq, Spot.mk.injEq]
        refine ⟨by omega, ?_, trivial⟩
        rw [← List.length_drop, List.drop_length]
      · rfl

/-! ## The blanks around the equals sign -/

variable {ns : List Node}

/-- A quote has to stand right here. -/
theorem run_quote : (Node.all (quoteNode :: ns)).run foldModes s next
    = if s.rest.head? = some '\'' then (Node.all ns).run foldModes (s.advance 1) next else none := by
  rw [run_all_cons]
  cases hs : s.rest with
  | nil => rw [run_atom_nil hs]; rfl
  | cons c rest =>
    rw [run_atom_cons hs, accepts_quote]
    by_cases hc : c = '\'' <;> simp [hc]

/-- Dropping part of a run of blanks leaves the rest of the run. -/
theorem runLength_drop {cs : List Char} {k : Nat} (hk : k ≤ runLength foldModes blankAtom cs) :
    k + runLength foldModes blankAtom (cs.drop k) = runLength foldModes blankAtom cs := by
  induction cs generalizing k with
  | nil =>
    obtain rfl : k = 0 := by simpa using hk
    rfl
  | cons c rest ih =>
    cases k with
    | zero => simp
    | succ k =>
      by_cases hc : blankAtom.accepts foldModes c = true
      · rw [runLength_cons_of_accepts hc] at hk ⊢
        have := ih (Nat.le_of_succ_le_succ hk)
        rw [List.drop_succ_cons]
        omega
      · rw [runLength_cons_of_not_accepts hc] at hk
        omega

/-- Inside a run of blanks the next character is a blank. -/
theorem head?_drop_of_lt {cs : List Char} {k : Nat} (hk : k < runLength foldModes blankAtom cs) :
    ∃ c, (cs.drop k).head? = some c ∧ isBlank c = true := by
  have hrun := runLength_drop (Nat.le_of_lt hk)
  cases hd : cs.drop k with
  | nil =>
    rw [hd, runLength_nil] at hrun
    omega
  | cons c rest =>
    refine ⟨c, rfl, ?_⟩
    by_cases hc : blankAtom.accepts foldModes c = true
    · rwa [accepts_blank] at hc
    · rw [hd, runLength_cons_of_not_accepts hc] at hrun
      omega

/-- **Blanks before a quote** are all passed: after fewer of them no quote can follow. -/
theorem run_blanks_quote :
    (Node.all (.many blankAtom :: quoteNode :: ns)).run foldModes s next
      = (Node.all (quoteNode :: ns)).run foldModes
          (s.advance (runLength foldModes blankAtom s.rest)) next := by
  rw [run_all_cons, run_many]
  refine countDown_eq_of_forall _ rfl fun k hk => Or.inl ?_
  obtain ⟨c, hhead, hblank⟩ := head?_drop_of_lt hk
  rw [run_quote, Spot.advance_rest, hhead, if_neg]
  rintro hc
  obtain rfl : c = '\'' := by simpa using hc
  exact absurd hblank (by decide)

/-- Where an equals sign stands, the pattern goes on after it: without it a quote would have to stand
there. -/
theorem run_equals_blanks_quote :
    (Node.all (.maybe (.atom (.char '=')) :: .many blankAtom :: quoteNode :: ns)).run foldModes s next
      = (Node.all (.many blankAtom :: quoteNode :: ns)).run foldModes
          (if s.rest.head? = some '=' then s.advance 1 else s) next := by
  rw [run_all_cons, run_maybe_atom]
  cases hs : s.rest with
  | nil =>
    rw [run_atom_nil hs]
    rfl
  | cons c rest =>
    rw [run_atom_cons hs, accepts_equals]
    by_cases hc : c = '='
    · subst hc
      have hlen : runLength foldModes blankAtom ('=' :: rest) = 0 :=
        runLength_cons_of_not_accepts (by rw [accepts_blank]; decide)
      have hnone : (Node.all (.many blankAtom :: quoteNode :: ns)).run foldModes s next = none := by
        rw [run_blanks_quote, hs, hlen, Spot.advance_zero, run_quote, hs]
        rfl
      rw [hnone]
      simp
    · simp [hc]

theorem drop_runLength_blank (cs : List Char) :
    cs.drop (runLength foldModes blankAtom cs) = cs.dropWhile isBlank :=
  (drop_runLength cs).trans (congrArg (List.dropWhile · cs) (funext accepts_blank))

/-- After all the blanks, an equals sign and the blanks behind it, a quote has to stand where
`skipEquals` leads. -/
theorem run_equals_of_skipEquals (s : Spot) (next : Next) (ns : List Node) :
    ∃ m, s.rest.drop m = skipEquals s.rest ∧
      (Node.all (.maybe (.atom (.char '=')) :: .many blankAtom :: quoteNode :: ns)).run foldModes
          (s.advance (runLength foldModes blankAtom s.rest)) next
        = (Node.all (quoteNode :: ns)).run foldModes (s.advance m) next := by
  have hdrop := drop_runLength_blank s.rest
  rw [run_equals_blanks_quote, run_blanks_quote, Spot.advance_rest, skipEquals]
  split
  · rename_i rest hrest
    refine ⟨runLength foldModes blankAtom s.rest + (1 + runLength foldModes blankAtom rest), ?_, ?_⟩
    · rw [← List.drop_drop, hdrop, hrest, Nat.add_comm 1, List.drop_succ_cons, drop_runLength_blank]
    · have hnext : s.rest.drop (runLength foldModes blankAtom s.rest + 1) = rest := by
        rw [← List.drop_drop, hdrop, hrest, List.drop_succ_cons, List.drop_zero]
      rw [hdrop, hrest, List.head?_cons, if_pos rfl, Spot.advance_advance, Spot.advance_rest,
        Spot.advance_rest, List.drop_drop, hnext, Spot.advance_advance]
  · rename_i hne
    have hhead : (s.rest.drop (runLength foldModes blankAtom s.rest)).head? ≠ some '=' := by
      rw [hdrop]
      intro h
      obtain ⟨rest, hrest⟩ := List.head?_eq_some_iff.mp h
      exact hne rest hrest
    refine ⟨runLength foldModes blankAtom s.rest, hdrop, ?_⟩
    rw [if_neg hhead, Spot.advance_advance, Spot.advance_rest, runLength_drop (Nat.le_refl _)]

/-- **Blanks before an equals sign or a quote** are all passed by the first repetition: what it leaves of
them the second one takes, and no equals sign stands among them. -/
theorem run_blanks_equals_blanks_quote :
    (Node.all (.many blankAtom :: .maybe (.atom (.char '=')) :: .many blankAtom :: quoteNode :: ns)).run
        foldModes s next
      = (Node.all (.maybe (.atom (.char '=')) :: .many blankAtom :: quoteNode :: ns)).run foldModes
          (s.advance (runLength foldModes blankAtom s.rest)) next := by
  rw [run_all_cons, run_many]
  refine countDown_eq_of_forall _ rfl fun k hk => ?_
  obtain ⟨c, hhead, hblank⟩ := head?_drop_of_lt hk
  have hne : (s.rest.drop k).head? ≠ some '=' := by
    rw [hhead]
    intro h
    obtain rfl : c = '=' := Option.some.inj h
    exact absurd hblank (by decide)
  -- Fewer blanks lead to the spot after all of them, where an equals sign is no quote.
  rw [run_equals_blanks_quote, Spot.advance_rest, if_neg hne, run_blanks_quote,
    Spot.advance_advance, Spot.advance_rest, runLength_drop (Nat.le_of_lt hk)]
  rw [run_equals_blanks_quote, Spot.advance_rest]
  split
  · rename_i heq
    rw [run_quote, Spot.advance_rest, heq]
    exact Or.inl (if_neg (by decide))
  · rw [run_blanks_quote, Spot.advance_advance, Spot.advance_rest, runLength_drop (Nat.le_refl _)]
    exact Or.inr rfl

/-- **Blanks, an equals sign, blanks and a quote** leave the spot after the quote that follows
`skipEquals`, whichever of the two repetitions the blanks are counted to. -/
theorem run_gap :
    (Node.all (.many blankAtom :: .maybe (.atom (.char '=')) :: .many blankAtom :: quoteNode :: ns)).run
        foldModes s next
      = match skipEquals s.rest with
        | '\'' :: rest =>
          (Node.all ns).run foldModes (s.advance (s.rest.length - rest.length)) next
        | _ => none := by
  obtain ⟨m, hm, hrun⟩ := run_equals_of_skipEquals s next ns
  rw [run_blanks_equals_blanks_quote, hrun, run_quote, Spot.advance_rest, hm]
  cases hskip : skipEquals s.rest with
  | nil => rfl
  | cons c rest =>
    by_cases hc : c = '\''
    · subst hc
      have hlen := congrArg List.length (hm.trans hskip)
      simp only [List.length_drop, List.length_cons] at hlen
      rw [List.head?_cons, if_pos rfl, Spot.advance_advance,
        show m + 1 = s.rest.length - rest.length by omega]
      rfl
    · rw [List.head?_cons, if_neg (by simpa using hc)]
      simp [hc]

/-! ## The keyword -/

/-- A word matches where the text starts with it, regardless of case. -/
theorem run_word (word : List Char) :
    (Node.word word).run foldModes s next
      = if startsFold word s.rest then next (s.advance word.length) else none := by
  induction word generalizing s with
  | nil => rfl
  | cons x word ih =>
    have hall : Node.word (x :: word) = Node.all (.atom (.char x) :: word.map fun c => .atom (.char c)) :=
      rfl
    rw [hall, run_all_cons]
    cases hs : s.rest with
    | nil =>
      rw [run_atom_nil hs]
      rfl
    | cons c rest =>
      have hacc : (Atom.char x).accepts foldModes c = sameFold x c := rfl
      rw [run_atom_cons hs, startsFold, hacc]
      by_cases hc : sameFold x c = true
      · have hword := ih (s := s.advance 1)
        rw [Node.word, Spot.advance_rest, hs, List.drop_succ_cons, List.drop_zero,
          Spot.advance_advance] at hword
        rw [if_pos hc, hword, hc, Bool.true_and, List.length_cons, Nat.add_comm 1]
      · rw [if_neg hc, Bool.eq_false_iff.mpr hc, Bool.false_and, if_neg Bool.false_ne_true]

/-- What the pattern looks for behind its prefix. -/
def passwordTail : Node := .all [
  .word passwordWord, .many blankAtom, .maybe (.atom (.char '=')), .many blankAtom, quoteNode,
  .group 1 (.some solidAtom), quoteNode, .many .any]

/-- The spot at the end of the text, with the password of a cut captured. -/
def PasswordCut.spot (s : Spot) (x : PasswordCut) : Spot :=
  ⟨s.position + s.rest.length, [],
    (1, s.position + x.before.length, s.position + x.before.length + x.password.length) :: s.captures⟩

/-- **At one spot** the pattern without its prefix matches what `cutAt?` cuts. -/
theorem run_passwordTail :
    passwordTail.run foldModes s atEnd = (cutAt? s.rest).map (·.spot s) := by
  rw [passwordTail, run_all_cons, run_word, cutAt?, ← startsPassword]
  by_cases hword : startsPassword s.rest = true
  · rw [if_pos hword, if_pos hword, run_gap, Spot.advance_rest, show passwordWord.length = 8 from rfl]
    have hsuffix := skipEquals_suffix (s.rest.drop 8)
    cases hskip : skipEquals (s.rest.drop 8) with
    | nil => rfl
    | cons q rest =>
      by_cases hq : q = '\''
      · subst hq
        rw [hskip] at hsuffix
        have hlen := hsuffix.length_le
        have hrest : (s.rest.drop 8).drop ((s.rest.drop 8).length - rest.length) = rest :=
          (List.suffix_iff_eq_drop.mp ((List.suffix_cons _ _).trans hsuffix)).symm
        change (Node.all _).run foldModes _ atEnd = _
        rw [run_secret, Spot.advance_rest, Spot.advance_rest, hrest]
        cases rest with
        | nil => rfl
        | cons c rest =>
          by_cases hc : isBlank c = true
          · simp [hc]
          · simp only [if_neg hc, Option.map_map]
            refine congrArg (Option.map · (closing? rest)) (funext fun found => ?_)
            simp only [List.length_cons, List.length_drop] at hlen
            simp only [PasswordCut.spot, Function.comp_apply, Spot.advance_position,
              Spot.advance_captures, List.length_cons, List.length_drop, List.length_take, Spot.mk.injEq,
              List.cons.injEq, Prod.mk.injEq, true_and, and_true]
            omega
      · simp [hq]
  · rw [if_neg hword, if_neg hword]
    rfl

/-- **Counting down from the end of a text** finds its last cut. -/
theorem countDown_passwordTail (n : Nat) (s : Spot) (hn : s.rest.length = n) :
    countDown (fun k => passwordTail.run foldModes (s.advance k) atEnd) n
      = (lastCut? s.rest).map (·.spot s) := by
  induction n generalizing s with
  | zero =>
    rw [countDown, Spot.advance_zero, run_passwordTail, List.eq_nil_of_length_eq_zero hn]
    rfl
  | succ n ih =>
    obtain ⟨c, rest, hs⟩ := List.exists_cons_of_length_eq_add_one hn
    have hrest : (s.advance 1).rest = rest := by
      rw [Spot.advance_rest, hs, List.drop_succ_cons, List.drop_zero]
    have hlen : rest.length = n := by
      rw [hs, List.length_cons] at hn
      omega
    have hmore := ih (s.advance 1) (hrest ▸ hlen)
    simp only [Spot.advance_advance, Nat.add_comm 1, hrest] at hmore
    rw [countDown_succ, hmore, hs, lastCut?]
    cases hcut : lastCut? rest with
    | none =>
      rw [Spot.advance_zero, run_passwordTail, hs]
      rfl
    | some x =>
      simp only [Option.map_some, Option.orElse_some, PasswordCut.spot, hs, hrest,
        Spot.advance_position, Spot.advance_captures, List.length_cons, Option.some.injEq, Spot.mk.injEq,
        List.cons.injEq, Prod.mk.injEq, true_and, and_true]
      omega

/-- **The password pattern matches the texts that have a last cut**, and its group captures the
password of that cut. -/
theorem fullMatch?_passwordPattern (text : List Char) :
    passwordPattern.fullMatch? text = (lastCut? text).map (·.spot (.before text)) := by
  have hnode : passwordPattern.fullMatch? text
      = countDown (fun k => passwordTail.run foldModes ((Spot.before text).advance k) atEnd)
          (runLength foldModes .any text) := run_many
  rw [hnode, runLength_eq_length fun c _ => accepts_any c]
  exact countDown_passwordTail _ _ rfl

/-! ## Redaction with the password pattern -/

/-- The rule of the password pattern. -/
def passwordRule : RedactionRule := .ofPattern passwordPattern "password"

/-- **The text with its last quoted password masked**, or as it is when it has none. -/
def maskPassword (mask text : List Char) : List Char :=
  match lastCut? text with
  | some x => x.masked mask
  | none => text

theorem span?_spot (text : List Char) (x : PasswordCut) :
    (x.spot (.before text)).span? 1
      = some (x.before.length, x.before.length + x.password.length) := by
  simp [Spot.span?, PasswordCut.spot, Spot.before]

theorem splice_text (mask : List Char) (x : PasswordCut) :
    Redactor.splice mask x.text (some (x.before.length, x.before.length + x.password.length))
      = x.masked mask := by
  rw [Redactor.splice, PasswordCut.masked, PasswordCut.text, ← List.length_append, List.drop_left,
    List.append_assoc x.before, List.take_left]

/-- **Redacting with the password pattern** masks the last quoted password. -/
theorem redactChars_passwordRule (mask text : List Char) :
    Redactor.redactChars mask [passwordRule] text = .ok (maskPassword mask text) := by
  rw [maskPassword, Redactor.redactChars, passwordRule, RedactionRule.ofPattern]
  dsimp only
  rw [fullMatch?_passwordPattern]
  cases hcut : lastCut? text with
  | none => rfl
  | some x =>
    have hsplice := splice_text mask x
    rw [(lastCut?_sound hcut).1, ← span?_spot text x] at hsplice
    exact congrArg Except.ok hsplice

namespace Redactor

/-- A redactor with the password pattern, for any mask. -/
def forPasswords (mask : String) (redactUnknown : Bool) : Redactor :=
  ⟨mask, redactUnknown, [passwordRule]⟩

/-- **The redacted text** is the masked one. -/
theorem redactText_forPasswords (mask : String) (redactUnknown : Bool) (text : String) :
    (forPasswords mask redactUnknown).redactText text
      = .ok (String.ofList (maskPassword mask.toList text.toList)) := by
  rw [redactText, forPasswords, redactChars_passwordRule]
  rfl

/-- **The redacted event** carries the masked text, also where that is the text it had. -/
theorem redact_forPasswords {mask : String} {redactUnknown : Bool} {e : Event} {text : List Char}
    (htext : e.operation = some (String.ofList text))
    (hshould : (forPasswords mask redactUnknown).shouldRedact e = true) :
    (forPasswords mask redactUnknown).redact e
      = .ok (e.withOperation (String.ofList (maskPassword mask.toList text))) := by
  have hredact := redactText_forPasswords mask redactUnknown (String.ofList text)
  rw [String.toList_ofList] at hredact
  rw [redact, redact?, htext]
  simp only [hshould, hredact, if_true, Except.map]
  split
  · rename_i heq
    rw [heq, Event.withOperation, ← htext]
    rfl
  · rfl

/-- The default redactor masks with five stars. -/
theorem redact_default {e : Event} {text : List Char} (htext : e.operation = some (String.ofList text))
    (hshould : Redactor.default.shouldRedact e = true) :
    Redactor.default.redact e
      = .ok (e.withOperation (String.ofList (maskPassword "*****".toList text))) :=
  redact_forPasswords htext (show (forPasswords "*****" true).shouldRedact e = true from hshould)

end Redactor

end AuditTrail
