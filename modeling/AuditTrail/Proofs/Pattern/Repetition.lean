import AuditTrail.Pattern.Match

/-!
# Proofs/Pattern/Repetition — repetitions of one character

    (many a).run s next  =  next (s + n), else next (s + (n - 1)), …, else next s

A greedy repetition of a one character pattern tries what comes next at every spot of the run of
accepted characters, the farthest first (`run_many`, `run_some_cons`).  `countDown` is that search; it is
settled by its first try when no shorter run gives anything else (`countDown_eq_of_forall`).  A lazy
repetition tries the same spots, the nearest first (`run_manyLazy`).
-/

namespace AuditTrail.Pattern

/-! ## Counting down -/

section CountDown

variable {α : Type}

/-- **The first success counting down** from a number to zero. -/
def countDown (f : Nat → Option α) : Nat → Option α
  | 0 => f 0
  | n + 1 => (f (n + 1)).orElse fun _ => countDown f n

/-- Zero is tried last. -/
theorem countDown_succ (f : Nat → Option α) (n : Nat) :
    countDown f (n + 1) = (countDown (fun k => f (k + 1)) n).orElse fun _ => f 0 := by
  induction n with
  | zero => rfl
  | succ n ih =>
    rw [countDown, ih, countDown]
    cases f (n + 1 + 1) <;> rfl

/-- **The first try settles the search** when every other one fails or agrees with it. -/
theorem countDown_eq_of_forall {f : Nat → Option α} {n : Nat} (b : Option α)
    (hn : f n = b) (h : ∀ k < n, f k = none ∨ f k = b) : countDown f n = b := by
  induction n with
  | zero => exact hn
  | succ n ih =>
    rw [countDown, hn]
    cases b with
    | some x => rfl
    | none =>
      refine ih ?_ fun k hk => h k (by omega)
      exact (h n (by omega)).elim id id

end CountDown

/-! ## Spots -/

namespace Spot

/-- The spot some characters further on. -/
def advance (s : Spot) (n : Nat) : Spot := ⟨s.position + n, s.rest.drop n, s.captures⟩

@[simp] theorem advance_position (s : Spot) (n : Nat) :
    (s.advance n).position = s.position + n := rfl

@[simp] theorem advance_rest (s : Spot) (n : Nat) : (s.advance n).rest = s.rest.drop n := rfl

@[simp] theorem advance_captures (s : Spot) (n : Nat) : (s.advance n).captures = s.captures := rfl

@[simp] theorem advance_zero (s : Spot) : s.advance 0 = s := rfl

@[simp] theorem advance_advance (s : Spot) (m n : Nat) :
    (s.advance m).advance n = s.advance (m + n) := by
  simp only [advance, List.drop_drop, Nat.add_assoc]

end Spot

/-! ## One character -/

variable {modes : Modes} {a : Atom} {s : Spot} {next : Next}

theorem run_atom_nil (h : s.rest = []) : (Node.atom a).run modes s next = none := by
  rw [Node.run, h]

theorem run_atom_cons {c : Char} {rest : List Char} (h : s.rest = c :: rest) :
    (Node.atom a).run modes s next
      = if a.accepts modes c then next (s.advance 1) else none := by
  rw [Node.run, Spot.advance, h]
  rfl

/-- The number of characters in front of a text that a one character pattern accepts. -/
def runLength (modes : Modes) (a : Atom) (cs : List Char) : Nat :=
  (cs.takeWhile (a.accepts modes ·)).length

@[simp] theorem runLength_nil : runLength modes a [] = 0 := rfl

theorem runLength_cons_of_accepts {c : Char} {rest : List Char} (h : a.accepts modes c = true) :
    runLength modes a (c :: rest) = runLength modes a rest + 1 := by
  simp only [runLength, List.takeWhile_cons, h, if_true, List.length_cons]

theorem runLength_cons_of_not_accepts {c : Char} {rest : List Char}
    (h : ¬ a.accepts modes c = true) : runLength modes a (c :: rest) = 0 := by
  simp only [runLength, List.takeWhile_cons, h, Bool.false_eq_true, if_false, List.length_nil]

theorem runLength_eq_length {cs : List Char} (h : ∀ c ∈ cs, a.accepts modes c = true) :
    runLength modes a cs = cs.length := by
  have htake : (cs ++ []).takeWhile (a.accepts modes ·) = cs ++ [] := List.takeWhile_append_of_pos h
  simpa [runLength] using congrArg List.length htake

theorem drop_runLength (cs : List Char) :
    cs.drop (runLength modes a cs) = cs.dropWhile (a.accepts modes ·) := by
  calc cs.drop (runLength modes a cs)
      = (cs.takeWhile (a.accepts modes ·) ++ cs.dropWhile (a.accepts modes ·)).drop
          (cs.takeWhile (a.accepts modes ·)).length := by
        rw [List.takeWhile_append_dropWhile, runLength]
    _ = cs.dropWhile (a.accepts modes ·) := List.drop_left

/-! ## Repetitions -/

theorem run_repetition (lazy : Bool) (least : Nat) (most : Option Nat) (body : Node) :
    (Node.repetition lazy least most body).run modes s next
      = repeatRun (body.run modes) lazy least most next (least + s.rest.length + 2) 0 none s := rfl

/-- Past the least number, a repetition goes on as long as characters are accepted and then comes
back.  The spot it stands at is not the one where the round before started, so no round is refused,
and there is fuel for every character that is left. -/
theorem repeatRun_eq_countDown {least : Nat} (fuel count : Nat) (last : Option Nat) (s : Spot)
    (hcount : least ≤ count) (hlast : last ≠ some s.position) (hfuel : s.rest.length < fuel) :
    repeatRun ((Node.atom a).run modes) false least none next fuel count last s
      = countDown (fun k => next (s.advance k)) (runLength modes a s.rest) := by
  induction fuel generalizing count last s with
  | zero => omega
  | succ fuel ih =>
    have hgo : (last != some s.position) = true := by simpa using hlast
    simp only [repeatRun, if_neg (show ¬ count < least by omega), Option.all_none, hgo,
      Bool.and_self, if_true, Bool.false_eq_true, if_false]
    cases hs : s.rest with
    | nil =>
      rw [run_atom_nil hs]
      rfl
    | cons c rest =>
      rw [run_atom_cons hs]
      by_cases hc : a.accepts modes c = true
      · have hlen : (s.advance 1).rest.length < fuel := by
          rw [hs, List.length_cons] at hfuel
          rw [Spot.advance_rest, hs, List.drop_succ_cons, List.drop_zero]
          omega
        have hpos : some s.position ≠ some (s.advance 1).position := by
          rw [Spot.advance_position]
          simp
        rw [if_pos hc, ih (count + 1) (some s.position) (s.advance 1) (by omega) hpos hlen,
          runLength_cons_of_accepts hc, countDown_succ]
        simp only [Spot.advance_advance, Spot.advance_rest, hs, List.drop_succ_cons,
          List.drop_zero, Nat.add_comm 1]
        rfl
      · rw [if_neg hc, runLength_cons_of_not_accepts hc]
        rfl

/-- **As many as there are, or fewer, or none.** -/
theorem run_many : (Node.many a).run modes s next
    = countDown (fun k => next (s.advance k)) (runLength modes a s.rest) := by
  rw [Node.many, run_repetition]
  exact repeatRun_eq_countDown _ _ _ _ (by omega) (by simp) (by omega)

/-- Nothing accepted is left to repeat. -/
theorem run_some_nil (h : s.rest = []) : (Node.some a).run modes s next = none := by
  rw [Node.some, run_repetition, repeatRun, if_pos Nat.zero_lt_one, run_atom_nil h]

/-- **As many as there are, or fewer, but one.** -/
theorem run_some_cons {c : Char} {rest : List Char} (h : s.rest = c :: rest) :
    (Node.some a).run modes s next
      = if a.accepts modes c then
          countDown (fun k => next (s.advance (k + 1))) (runLength modes a rest)
        else none := by
  rw [Node.some, run_repetition, repeatRun, if_pos Nat.zero_lt_one, run_atom_cons h]
  by_cases hc : a.accepts modes c = true
  · rw [if_pos hc, if_pos hc, repeatRun_eq_countDown _ _ _ _ (by omega) (by simp)]
    · simp only [Spot.advance_advance, Spot.advance_rest, h, List.drop_succ_cons, List.drop_zero,
        Nat.add_comm 1]
    · simp only [Spot.advance_rest, h, List.length_drop, List.length_cons]
      omega
  · rw [if_neg hc, if_neg hc]

/-- After its greatest number of rounds a repetition only comes back. -/
theorem repeatRun_of_full (fuel : Nat) (last : Option Nat) (t : Spot) :
    repeatRun ((Node.atom a).run modes) false 0 (some 1) next (fuel + 1) 1 last t = next t := by
  simp [repeatRun]

/-- **One, or none.** -/
theorem run_maybe_atom : (Node.maybe (.atom a)).run modes s next
    = ((Node.atom a).run modes s next).orElse fun _ => next s := by
  rw [Node.maybe, run_repetition, repeatRun]
  simp only [Nat.not_lt_zero, if_false, Option.all_some, Nat.zero_lt_one, decide_true, Bool.true_and,
    Bool.false_eq_true]
  cases hs : s.rest with
  | nil =>
    rw [run_atom_nil hs, run_atom_nil hs]
    exact congrArg (Option.orElse · _) (if_pos rfl)
  | cons c rest =>
    rw [run_atom_cons hs, run_atom_cons hs, repeatRun_of_full]
    exact congrArg (Option.orElse · _) (if_pos rfl)

/-- **A lazy repetition** tries what comes next before it goes on. -/
theorem repeatRun_lazy_eq_findSome? (fuel count : Nat) (last : Option Nat) (s : Spot)
    (hlast : last ≠ some s.position) (hfuel : s.rest.length < fuel) :
    repeatRun ((Node.atom a).run modes) true 0 none next fuel count last s
      = (List.range (runLength modes a s.rest + 1)).findSome? fun k => next (s.advance k) := by
  induction fuel generalizing count last s with
  | zero => omega
  | succ fuel ih =>
    have hgo : (last != some s.position) = true := by simpa using hlast
    simp only [repeatRun, Nat.not_lt_zero, if_false, Option.all_none, hgo, Bool.and_self, if_true]
    rw [List.range_succ_eq_map, List.findSome?_cons, List.findSome?_map]
    cases hs : s.rest with
    | nil =>
      rw [run_atom_nil hs]
      cases hnext : next s <;> simp [hnext]
    | cons c rest =>
      rw [run_atom_cons hs]
      by_cases hc : a.accepts modes c = true
      · have hrest : (s.advance 1).rest = rest := by simp [hs]
        have hpos : some s.position ≠ some (s.advance 1).position := by simp
        rw [if_pos hc, ih (count + 1) (some s.position) (s.advance 1) hpos (by
          rw [hrest]
          rw [hs, List.length_cons] at hfuel
          omega), runLength_cons_of_accepts hc, hrest]
        cases hnext : next s <;> simp [hnext, Function.comp_def, Nat.add_comm 1]
      · rw [if_neg hc, runLength_cons_of_not_accepts hc]
        cases hnext : next s <;> simp [hnext]

/-- **None, or one, or more, up to as many as there are.** -/
theorem run_manyLazy : (Node.repetition true 0 none (.atom a)).run modes s next
    = (List.range (runLength modes a s.rest + 1)).findSome? fun k => next (s.advance k) := by
  rw [run_repetition]
  exact repeatRun_lazy_eq_findSome? _ _ _ _ nofun (by omega)

/-! ## Sequences -/

/-- A sequence matches its first pattern and then the others. -/
theorem run_all_cons (n : Node) (ns : List Node) :
    (Node.all (n :: ns)).run modes s next
      = n.run modes s fun t => (Node.all ns).run modes t next := by
  cases ns with
  | nil => rfl
  | cons m ns => rfl

end AuditTrail.Pattern
