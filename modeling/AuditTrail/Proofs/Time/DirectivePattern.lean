import AuditTrail.Pattern.Replacement
import AuditTrail.Proofs.Time.Directives

/-!
# Proofs/Time/DirectivePattern — the pattern of the directives

    %(.|$)      on   %H%%Q%      at   %H, %%, %   with the letters   H, %, none

The directives of a text can be searched for by a pattern (`directivePattern`).  A match takes the character
behind a percent sign with it, so the next one is searched for behind both.  The first match with a
letter of no directive is then the first directive that there is not (`refusedLetter?_of_firstUnknown`).
-/

namespace AuditTrail.Time

open AuditTrail.Pattern

/-- **The pattern of a directive**: a percent sign with any character behind it, or at the end. -/
def directivePattern : Compiled where
  node := .sequence (.atom (.char '%')) (.group 1 (.choice (.atom .any) .finish))
  modes := ⟨false, true⟩
  groupCount := 1
  names := []

example : Compiled.parse? ⟨false, true⟩ "%(.|$)" = some directivePattern := by
  cbv

/-- What the first group has captured at each match from a spot of a text on, from left to right; `fuel` bounds
the number of matches. -/
def firstGroups (p : Compiled) (text : List Char) :
    (fuel : Nat) → (advance : Bool) → (position : Nat) → List Char → List (List Char)
  | 0, _, _, _ => []
  | fuel + 1, advance, position, rest =>
    match p.find? advance position rest with
    | none => []
    | some (_, start, found) => Replacement.fill text start found [.group 1] ::
        firstGroups p text fuel (found.position == start) found.position found.rest

/-- **The letters of a text**: what is behind the percent sign at each match of the pattern. -/
def lettersFound (text : List Char) : List (List Char) :=
  firstGroups directivePattern text (2 * text.length + 2) false 0 text

/-- What is found is the letter of no directive. -/
def isUnknownLetter (found : List Char) : Bool := found ∉ directiveLetters.map fun c => [c]

/-- The first of the letters of a text that is that of no directive. -/
def refusedLetter? (text : List Char) : Option (List Char) := (lettersFound text).find? isUnknownLetter

theorem isUnknownLetter_singleton {c : Char} : isUnknownLetter [c] = decide (c ∉ directiveLetters) := by
  simp [isUnknownLetter]

/-! ## One match -/

section Match

variable {c : Char} {rest : List Char}

/-- A percent sign is matched with the character behind it. -/
theorem find?_percent (advance : Bool) (position : Nat) (c : Char) (rest : List Char) :
    directivePattern.find? advance position ('%' :: c :: rest)
      = some ([], position, ⟨position + 2, rest, [(1, position + 1, position + 2)]⟩) := by
  have hmatch : directivePattern.matchAt? advance position ('%' :: c :: rest)
      = some ⟨position + 2, rest, [(1, position + 1, position + 2)]⟩ := by
    simp [Compiled.matchAt?, directivePattern, Node.run, Atom.accepts]
    omega
  rw [Compiled.find?, hmatch]

/-- At the end it is matched alone. -/
theorem find?_lonePercent (advance : Bool) (position : Nat) : directivePattern.find? advance position ['%']
    = some ([], position, ⟨position + 1, [], [(1, position + 1, position + 1)]⟩) := by
  have hmatch : directivePattern.matchAt? advance position ['%']
      = some ⟨position + 1, [], [(1, position + 1, position + 1)]⟩ := by
    simp [Compiled.matchAt?, directivePattern, Node.run, Atom.accepts]
  rw [Compiled.find?, hmatch]

/-- Another character is passed over. -/
theorem find?_plain (hc : c ≠ '%') (advance : Bool) (position : Nat) (rest : List Char) :
    directivePattern.find? advance position (c :: rest)
      = (directivePattern.find? false (position + 1) rest).map fun (passed, found) => (c :: passed, found) := by
  have hmatch : directivePattern.matchAt? advance position (c :: rest) = none := by
    simp [Compiled.matchAt?, directivePattern, Node.run, Atom.accepts, hc.symm]
  rw [Compiled.find?, hmatch]

end Match

/-! ## All matches -/

section Search

variable {text rest : List Char} {c : Char} {fuel position : Nat}

theorem firstGroups_nil (fuel : Nat) (advance : Bool) (position : Nat) :
    firstGroups directivePattern text fuel advance position [] = [] := by
  cases fuel <;> rfl

theorem firstGroups_plain (hc : c ≠ '%') :
    firstGroups directivePattern text (fuel + 1) false position (c :: rest)
      = firstGroups directivePattern text (fuel + 1) false (position + 1) rest := by
  rw [firstGroups, find?_plain hc, firstGroups]
  cases directivePattern.find? false (position + 1) rest <;> rfl

theorem firstGroups_percent (h : text.drop position = '%' :: c :: rest) :
    firstGroups directivePattern text (fuel + 1) false position ('%' :: c :: rest)
      = [c] :: firstGroups directivePattern text fuel false (position + 2) rest := by
  have hletter : text.drop (position + 1) = c :: rest := by
    rw [← List.drop_drop, h]
    rfl
  have hadvance : (position + 2 == position) = false := beq_eq_false_iff_ne.mpr (by omega)
  rw [firstGroups, find?_percent]
  simp [Replacement.fill, Spot.span?, Replacement.between, hletter, hadvance]

theorem firstGroups_lonePercent :
    firstGroups directivePattern text (fuel + 1) false position ['%'] = [[]] := by
  rw [firstGroups, find?_lonePercent]
  simp [Replacement.fill, Spot.span?, Replacement.between, firstGroups_nil]

/-- **From any spot on**, with fuel for every character, the search refuses what reading tells. -/
theorem find?_firstGroups (hrest : text.drop position = rest) (hfuel : rest.length ≤ fuel) :
    (firstGroups directivePattern text (fuel + 1) false position rest).find? isUnknownLetter
      = match TimeFormat.read rest with
        | .ok _ => none
        | .error letter => some letter.toList := by
  fun_induction TimeFormat.read rest generalizing fuel position with
  | case1 => rw [firstGroups_nil, List.find?_nil]
  | case2 =>
    rw [firstGroups_lonePercent]
    rfl
  | case3 c rest d hd ih =>
    have hknown : isUnknownLetter [c] = false :=
      isUnknownLetter_singleton.trans
        (decide_eq_false (not_not_intro (Directive.exists_ofChar?_iff.mp ⟨d, hd⟩)))
    have hbehind : text.drop (position + 2) = rest := by
      rw [← List.drop_drop, hrest]
      rfl
    simp only [List.length_cons] at hfuel
    obtain ⟨fuel, rfl⟩ : ∃ k, fuel = k + 1 := ⟨fuel - 1, by omega⟩
    rw [firstGroups_percent hrest, List.find?_cons, hknown, ih hbehind (by omega)]
    cases TimeFormat.read rest <;> rfl
  | case4 c rest hd =>
    have hunknown : isUnknownLetter [c] = true :=
      isUnknownLetter_singleton.trans (decide_eq_true (Directive.ofChar?_eq_none_iff.mp hd))
    rw [firstGroups_percent hrest, List.find?_cons, hunknown]
    rfl
  | case5 c rest hend hfront ih =>
    have hbehind : text.drop (position + 1) = rest := by
      rw [← List.drop_drop, hrest]
      rfl
    rw [firstGroups_plain (ne_percent hend hfront), ih hbehind (Nat.le_of_succ_le hfuel)]
    cases TimeFormat.read rest <;> rfl

theorem refusedLetter?_eq (text : List Char) : refusedLetter? text = match TimeFormat.read text with
    | .ok _ => none
    | .error letter => some letter.toList :=
  find?_firstGroups List.drop_zero (by omega)

/-- **The search refuses nothing in the time formats.** -/
theorem refusedLetter?_eq_none_iff : refusedLetter? text = none ↔ IsTimeFormat text := by
  rw [refusedLetter?_eq, ← exists_read_iff]
  cases TimeFormat.read text with
  | ok format => exact iff_of_true rfl ⟨format, rfl⟩
  | error letter => exact iff_of_false nofun fun ⟨_, h⟩ => nomatch h

/-- **The search refuses the first directive that there is not.** -/
theorem refusedLetter?_of_firstUnknown {letter : Option Char} (h : FirstUnknown text letter) :
    refusedLetter? text = some letter.toList := by
  rw [refusedLetter?_eq, read_eq_error_iff.mpr h]

end Search

end AuditTrail.Time
