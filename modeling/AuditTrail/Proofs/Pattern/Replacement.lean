import AuditTrail.Pattern.Replacement
import AuditTrail.Proofs.Pattern.Repetition

/-!
# Proofs/Pattern/Replacement — replacing a single character

    a % b % c   ──▸   a %% b %% c

A pattern that is one character matches just where the character stands, so replacing its matches by a
text without references maps the characters one by one (`replaceAll_ofChar`).
-/

namespace AuditTrail.Pattern

/-- The pattern that is one character, in its case. -/
def Compiled.ofChar (x : Char) : Compiled := ⟨.atom (.char x), ⟨false, false⟩, 0, []⟩

/-- A replacement without references. -/
def Replacement.ofText (text : List Char) : Replacement := text.map .char

/-- A replacement without references gives its text for every match. -/
theorem Replacement.fill_ofText (replaced text : List Char) (start : Nat) (found : Spot) :
    (ofText replaced).fill text start found = replaced := by
  rw [fill, ofText, List.flatMap_map]
  exact List.flatMap_singleton' replaced

namespace Compiled

variable {x : Char} {replaced text : List Char}

/-- The character matches itself. -/
theorem find?_ofChar_self (advance : Bool) (position : Nat) (rest : List Char) :
    (ofChar x).find? advance position (x :: rest)
      = some ([], position, ⟨position + 1, rest, []⟩) := by
  have hrun : (ofChar x).matchAt? advance position (x :: rest) = some ⟨position + 1, rest, []⟩ := by
    rw [matchAt?, ofChar, run_atom_cons rfl]
    simp [Atom.accepts, Spot.advance]
  rw [find?, hrun]

/-- Another character is passed over. -/
theorem find?_ofChar_cons {c : Char} (hc : c ≠ x) (advance : Bool) (position : Nat) (rest : List Char) :
    (ofChar x).find? advance position (c :: rest)
      = ((ofChar x).find? false (position + 1) rest).map
          fun (passed, found) => (c :: passed, found) := by
  have hrun : (ofChar x).matchAt? advance position (c :: rest) = none := by
    rw [matchAt?, ofChar, run_atom_cons rfl]
    simp [Atom.accepts, Ne.symm hc]
  rw [find?, hrun]

/-- **From any spot on**, with fuel for every character, the character is replaced where it stands. -/
theorem replaceFrom_ofChar (cs : List Char) (fuel : Nat) (hfuel : cs.length ≤ fuel) (advance : Bool)
    (position : Nat) :
    (ofChar x).replaceFrom (.ofText replaced) text fuel advance position cs
      = cs.flatMap fun c => if c = x then replaced else [c] := by
  induction cs generalizing fuel advance position with
  | nil =>
    cases fuel with
    | zero => rfl
    | succ fuel => rfl
  | cons c rest ih =>
    cases fuel with
    | zero => simp at hfuel
    | succ fuel =>
      have hrest : rest.length ≤ fuel := Nat.le_of_succ_le_succ hfuel
      rw [List.flatMap_cons]
      by_cases hc : c = x
      · subst hc
        rw [if_pos rfl, replaceFrom, find?_ofChar_self]
        simp only [Replacement.fill_ofText, List.nil_append, ih fuel hrest]
      · -- Passing over a character commutes with replacing what follows it.
        have hmore := ih (fuel + 1) (Nat.le_succ_of_le hrest) false (position + 1)
        rw [if_neg hc, ← hmore, replaceFrom, find?_ofChar_cons hc, replaceFrom]
        cases (ofChar x).find? false (position + 1) rest with
        | none => rfl
        | some found => rfl

/-- **Replacing every match of a character** replaces the character. -/
theorem replaceAll_ofChar (x : Char) (replaced text : List Char) :
    (ofChar x).replaceAll (.ofText replaced) text
      = text.flatMap fun c => if c = x then replaced else [c] :=
  replaceFrom_ofChar text (2 * text.length + 2) (by omega) false 0

end Compiled

end AuditTrail.Pattern
