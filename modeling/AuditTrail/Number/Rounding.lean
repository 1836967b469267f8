/-!
# Number/Rounding — quotients rounded to the nearest integer, ties to even

`roundDiv` rounds a quotient; `twoTo` and `tenTo` are the powers by which numbers are scaled before.
-/

namespace AuditTrail.Number

/-- Two to a power. -/
def twoTo (k : Nat) : Nat := Nat.pow 2 k

/-- Ten to a power. -/
def tenTo (k : Nat) : Nat := Nat.pow 10 k

/-- **The quotient `n / d` to the nearest natural number**; a half goes to the even neighbour. -/
def roundDiv (n d : Nat) : Nat :=
  let q := n / d
  let r := n % d
  if 2 * r > d ∨ (2 * r = d ∧ q % 2 = 1) then q + 1 else q

/-- Rounding moves a quotient by at most one half. -/
theorem roundDiv_near (n d : Nat) (hd : 0 < d) :
    2 * (roundDiv n d * d) ≤ 2 * n + d ∧ 2 * n ≤ 2 * (roundDiv n d * d) + d := by
  have hr := Nat.mod_lt n hd
  have hq : d * (n / d) + n % d = n := Nat.div_add_mod n d
  have hc : n / d * d = d * (n / d) := Nat.mul_comm _ _
  unfold roundDiv
  dsimp only
  split
  · rw [Nat.add_mul, Nat.one_mul]; omega
  · omega

end AuditTrail.Number
