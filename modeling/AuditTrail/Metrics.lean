import AuditTrail.Number.Decimal

/-!
# Metrics — how long the two phases of an audit take

A `Histogram` counts the durations in seconds that were measured, and for every bound of `latencyBounds`
those that are not above it.
-/

namespace AuditTrail

open AuditTrail.Number

/-- The first number is not above the second; nothing compares with an undefined number. -/
def atMost (x bound : Binary64) : Bool :=
  match x, bound with
  | .undefined, _ => false
  | _, .undefined => false
  | .infinite true, _ => true
  | _, .infinite negative => !negative
  | .infinite false, _ => false
  | x, y => match x.toRat?, y.toRat? with
    | some a, some b => a ≤ b
    | _, _ => false

/-- The bounds in seconds, from ten microseconds to one second. -/
def latencyBounds : List Binary64 := [
  .ofDecimal false 1 (-5), .ofDecimal false 25 (-6), .ofDecimal false 5 (-5),
  .ofDecimal false 1 (-4), .ofDecimal false 25 (-5), .ofDecimal false 5 (-4),
  .ofDecimal false 1 (-3), .ofDecimal false 25 (-4), .ofDecimal false 5 (-3),
  .ofDecimal false 1 (-2), .ofDecimal false 25 (-3), .ofDecimal false 5 (-2),
  .ofDecimal false 1 (-1), .ofDecimal false 5 (-1), .ofDecimal false 1 0]

/-- **Counts of durations**: one for each bound, and of all of them. -/
structure Histogram where
  within : List Nat
  count : Nat
  deriving DecidableEq, Repr

namespace Histogram

/-- The histogram without observations. -/
def empty : Histogram := ⟨latencyBounds.map fun _ => 0, 0⟩

/-- The count with one more, if it is counted. -/
def tally (counted : Bool) (n : Nat) : Nat := if counted then n + 1 else n

/-- **One more duration.** -/
def observe (h : Histogram) (seconds : Binary64) : Histogram :=
  ⟨List.zipWith (fun bound n => tally (atMost seconds bound) n) latencyBounds h.within,
    tally (atMost seconds (.infinite false)) h.count⟩

/-- The counts of some durations. -/
def ofTimes (times : List Binary64) : Histogram := times.foldl observe empty

/-- The bounds as texts with their counts, and at the end the count of all. -/
def rows (h : Histogram) : List (String × Nat) :=
  List.zipWith (fun bound n => (String.ofList bound.shortest, n)) latencyBounds h.within ++
    [("+Inf", h.count)]

end Histogram

end AuditTrail
