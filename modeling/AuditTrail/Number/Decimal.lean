import AuditTrail.Number.Binary64

/-!
# Number/Decimal — decimal texts of floating point numbers

`Binary64.shortest` is the shortest decimal that reads back as the number, `Binary64.fixed` a decimal
with a given number of places.  `readPlainNumber?` reads the text of a number.
-/

namespace AuditTrail.Number

/-- The decimal digits of a number. -/
def digitsOf (n : Nat) : List Char := (Nat.toDigits 10 n)

/-- The digits of a number, with zeros in front up to `width`. -/
def padded (width n : Nat) : List Char :=
  let digits := digitsOf n
  List.replicate (width - digits.length) '0' ++ digits

/-- The decimal text of an integer. -/
def integerText (i : Int) : List Char :=
  if i < 0 then '-' :: digitsOf i.natAbs else digitsOf i.natAbs

namespace Binary64

/-- **The text with `places` digits after the point**: the exact value is rounded, ties to even. -/
def fixed (places : Nat) : Binary64 → List Char
  | .finite negative significand exponent =>
    let (n, d) := ratio significand exponent
    let scaled := roundDiv (n * tenTo places) d
    let body := digitsOf (scaled / tenTo places) ++ '.' :: padded places (scaled % tenTo places)
    if negative then '-' :: body else body
  | .infinite negative => if negative then "-inf".toList else "inf".toList
  | .undefined => "nan".toList

/-- The decimal exponent of the first digit of `n / d`: the largest `k` with `10 ^ k ≤ n / d`. -/
def floorLog10 (n d : Nat) : Int :=
  let guess : Int := (floorLog2 n d) * 30103 / 100000
  let atLeast (k : Int) : Bool :=
    if 0 ≤ k then d * tenTo k.toNat ≤ n else d ≤ n * tenTo (-k).toNat
  if atLeast (guess + 1) then guess + 1 else if atLeast guess then guess else guess - 1

/-- The digits `m` with `m · 10 ^ scale` nearest `n / d` among those that read back as `x`, of the
two neighbours of `n / d` on that grid. -/
def candidate? (x : Binary64) (n d : Nat) (scale : Int) : Option Nat :=
  let (n, d) := if 0 ≤ scale then (n, d * tenTo scale.toNat) else (n * tenTo (-scale).toNat, d)
  let below := n / d
  let above := below + 1
  let readsBack (m : Nat) : Bool := ofDecimal x.isNegative m scale == x
  let nearer := roundDiv n d
  let farther := if nearer = below then above else below
  if readsBack nearer then some nearer
  else if readsBack farther then some farther
  else none

/-- The first grid, from `count` digits on, that has a decimal reading back as `x`. -/
def shortestFrom (x : Binary64) (n d : Nat) (first : Int) : (fuel : Nat) → (count : Nat) → Nat × Int
  | 0, _ => (n / d, 0)
  | fuel + 1, count =>
    let scale := first - (count : Int) + 1
    match candidate? x n d scale with
    | some m => (m, scale)
    | none => shortestFrom x n d first fuel (count + 1)

/-- The digits without the zeros at the end, and the scale that goes with them. -/
def trimZeros : (fuel : Nat) → Nat → Int → Nat × Int
  | 0, m, scale => (m, scale)
  | fuel + 1, m, scale =>
    if m ≠ 0 ∧ m % 10 = 0 then trimZeros fuel (m / 10) (scale + 1) else (m, scale)

/-- **The shortest decimal that reads back**: positional from `1e-4` up to below `1e16`, with at least
one digit after the point, otherwise with an exponent of at least two digits. -/
def shortest (x : Binary64) : List Char :=
  match x with
  | .finite negative significand exponent =>
    let body :=
      if significand = 0 then "0.0".toList
      else
        let (n, d) := ratio significand exponent
        let (m, scale) := shortestFrom x n d (floorLog10 n d) 17 1
        let (m, scale) := trimZeros 20 m scale
        let digits := digitsOf m
        let point : Int := digits.length + scale
        if -4 < point ∧ point ≤ 16 then
          if point ≤ 0 then "0.".toList ++ List.replicate (-point).toNat '0' ++ digits
          else if digits.length ≤ point.toNat then
            digits ++ List.replicate (point.toNat - digits.length) '0' ++ ".0".toList
          else digits.take point.toNat ++ '.' :: digits.drop point.toNat
        else
          let fraction := digits.drop 1
          let power := point - 1
          digits.take 1 ++ (if fraction.isEmpty then [] else '.' :: fraction) ++
            'e' :: (if power < 0 then '-' else '+') :: padded 2 power.natAbs
    if negative then '-' :: body else body
  | .infinite negative => if negative then "-inf".toList else "inf".toList
  | .undefined => "nan".toList

end Binary64

/-! ## Reading -/

/-- The value of a run of digits read after `sofar`. -/
def foldDigits (sofar : Nat) (digits : List Char) : Nat :=
  digits.foldl (fun n c => 10 * n + (c.toNat - 48)) sofar

/-- The ASCII digits at the front of a text, and the rest. -/
def spanDigits (cs : List Char) : List Char × List Char :=
  cs.span fun c => 48 ≤ c.toNat && c.toNat ≤ 57

/-- The exponent at the front of what follows the digits: `e` or `E`, a sign, digits, then the end. -/
def parseExponent? : List Char → Option Int
  | [] => some 0
  | c :: rest =>
    if c = 'e' ∨ c = 'E' then
      let (negative, rest) := match rest with
        | '+' :: r => (false, r)
        | '-' :: r => (true, r)
        | r => (false, r)
      match spanDigits rest with
      | (d :: ds, []) =>
        let magnitude : Int := foldDigits 0 (d :: ds)
        some (if negative then -magnitude else magnitude)
      | _ => none
    else none

/-- **Reading an unsigned decimal**: digits with an optional point among or around them, then an
optional exponent. -/
def parseUnsigned? (negative : Bool) (cs : List Char) : Option Binary64 :=
  let (whole, rest) := spanDigits cs
  let (fraction, rest) := match rest with
    | '.' :: r => spanDigits r
    | r => ([], r)
  if whole.isEmpty && fraction.isEmpty then none
  else
    (parseExponent? rest).map fun exponent =>
      .ofDecimal negative (foldDigits (foldDigits 0 whole) fraction) (exponent - fraction.length)

/-- The sign at the front of a text, true for minus, and the rest. -/
def takeSign : List Char → Bool × List Char
  | '-' :: rest => (true, rest)
  | '+' :: rest => (false, rest)
  | rest => (false, rest)

/-- The words for numbers that are not finite. -/
def readSpecial? (negative : Bool) (cs : List Char) : Option Binary64 :=
  let word := String.ofList (cs.map Char.toLower)
  if word = "inf" ∨ word = "infinity" then some (.infinite negative)
  else if word = "nan" then some .undefined
  else none

/-- The text of a number without blanks. -/
def readPlainNumber? (cs : List Char) : Option Binary64 :=
  let (negative, rest) := takeSign cs
  (readSpecial? negative rest).orElse fun _ => parseUnsigned? negative rest

end AuditTrail.Number
