import AuditTrail.Number.Rounding

/-!
# Number/Binary64 — floating point numbers with 53 significant bits

A finite `Binary64` is a sign with `significand · 2 ^ exponent`.  `ofRatio` is the number nearest a
quotient, ties to even; every other operation computes its exact value as a quotient and rounds it
with `ofRatio`.
-/

namespace AuditTrail.Number

/-- **A floating point number.**  `finite` holds `(-1)^negative · significand · 2 ^ exponent`, with
the significand below `2 ^ 53`. -/
inductive Binary64
  | finite (negative : Bool) (significand : Nat) (exponent : Int)
  | infinite (negative : Bool)
  | undefined
  deriving DecidableEq, Repr, Inhabited

namespace Binary64

/-- The exponent of the last bit of the smallest numbers. -/
def lowestExponent : Int := -1074

/-- The largest `k` with `2 ^ k ≤ n / d`, for positive `n` and `d`. -/
def floorLog2 (n d : Nat) : Int :=
  let k : Int := (n.log2 : Int) - d.log2
  let fits : Bool := if 0 ≤ k then d * twoTo k.toNat ≤ n else d ≤ n * twoTo (-k).toNat
  if fits then k else k - 1

/-- **The number nearest `n / d`**, ties to even, beyond the range an infinity. -/
def ofRatio (negative : Bool) (n d : Nat) : Binary64 :=
  if n = 0 then .finite negative 0 0
  else
    let exponent := max (floorLog2 n d - 52) lowestExponent
    let significand :=
      if 0 ≤ exponent then roundDiv n (d * twoTo exponent.toNat)
      else roundDiv (n * twoTo (-exponent).toNat) d
    let (significand, exponent) :=
      if significand = twoTo 53 then (twoTo 52, exponent + 1) else (significand, exponent)
    if 971 < exponent then .infinite negative else .finite negative significand exponent

/-- The number nearest an integer. -/
def ofInt (i : Int) : Binary64 := ofRatio (i < 0) i.natAbs 1

/-- The number nearest the decimal `digits · 10 ^ scale`.  Decimals far outside the range are decided
by their number of digits, without computing the power. -/
def ofDecimal (negative : Bool) (digits : Nat) (scale : Int) : Binary64 :=
  let size : Int := (digits.log2 : Int) * 30103 / 100000 + scale
  if digits = 0 then .finite negative 0 0
  else if 320 < size then .infinite negative
  else if size < -340 then .finite negative 0 0
  else if 0 ≤ scale then ofRatio negative (digits * tenTo scale.toNat) 1
  else ofRatio negative digits (tenTo (-scale).toNat)

/-- The exact value as a quotient of natural numbers, for a significand and an exponent. -/
def ratio (significand : Nat) (exponent : Int) : Nat × Nat :=
  if 0 ≤ exponent then (significand * twoTo exponent.toNat, 1) else (significand, twoTo (-exponent).toNat)

/-- The size of a finite number to the nearest natural number. -/
def toNat : Binary64 → Nat
  | .finite _ significand exponent =>
    let (n, d) := ratio significand exponent
    roundDiv n d
  | _ => 0

/-- The sign bit. -/
def isNegative : Binary64 → Bool
  | .finite negative _ _ => negative
  | .infinite negative => negative
  | .undefined => false

/-- The exact value of a finite number. -/
def toRat? : Binary64 → Option Rat
  | .finite negative significand exponent =>
    let (n, d) := ratio significand exponent
    some (if negative then -((n : Rat) / d) else (n : Rat) / d)
  | _ => none

/-- The number nearest an exact value. -/
def ofRat (r : Rat) : Binary64 := ofRatio (r < 0) r.num.natAbs r.den

/-- The number is below zero. -/
def isBelowZero : Binary64 → Bool
  | .finite negative significand _ => negative && significand != 0
  | .infinite negative => negative
  | .undefined => false

/-- The number is above zero. -/
def isAboveZero : Binary64 → Bool
  | .finite negative significand _ => !negative && significand != 0
  | .infinite negative => !negative
  | .undefined => false

/-- One number is below another; a number that is undefined is neither below nor above any. -/
def isBelow (x y : Binary64) : Bool :=
  match x.toRat?, y.toRat? with
  | some a, some b => a < b
  | some _, none => y == .infinite false
  | none, some _ => x == .infinite true
  | none, none => x == .infinite true && y == .infinite false

/-- The number with the sign turned. -/
def negate : Binary64 → Binary64
  | .finite negative significand exponent => .finite (!negative) significand exponent
  | .infinite negative => .infinite (!negative)
  | .undefined => .undefined

/-- The integer a finite number is, if it is one. -/
def toInt? : Binary64 → Option Int
  | .finite negative significand exponent =>
    let (n, d) := ratio significand exponent
    if n % d = 0 then some (if negative then -((n / d : Nat) : Int) else ((n / d : Nat) : Int))
    else none
  | _ => none

end Binary64

end AuditTrail.Number
