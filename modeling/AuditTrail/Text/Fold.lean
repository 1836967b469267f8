import AuditTrail.Text.Case

/-!
# Text/Fold — characters that are equal regardless of case

`sameFold` holds of characters with one lower case, and of those whose lower cases belong to one
class of `foldClasses`, such as `s` and the long `ſ`.
-/

namespace AuditTrail.Text

/-- The classes of lower case characters that share an upper case. -/
def foldClasses : List (List Nat) := [
  [0x69, 0x131], [0x73, 0x17F], [0xB5, 0x3BC], [0x345, 0x3B9, 0x1FBE], [0x390, 0x1FD3],
  [0x3B0, 0x1FE3], [0x3B2, 0x3D0], [0x3B5, 0x3F5], [0x3B8, 0x3D1], [0x3BA, 0x3F0], [0x3C0, 0x3D6],
  [0x3C1, 0x3F1], [0x3C2, 0x3C3], [0x3C6, 0x3D5], [0x432, 0x1C80], [0x434, 0x1C81],
  [0x43E, 0x1C82], [0x441, 0x1C83], [0x442, 0x1C84, 0x1C85], [0x44A, 0x1C86], [0x463, 0x1C87],
  [0x1C88, 0xA64B], [0x1E61, 0x1E9B], [0xFB05, 0xFB06]]

/-- The lower case characters that are equal to one, itself among them. -/
def foldClass (c : Char) : List Char :=
  let low := lowerChar c
  match foldClasses.find? (·.contains low.toNat) with
  | some members => members.map Char.ofNat
  | none => [low]

/-- **Equal regardless of case.** -/
def sameFold (a b : Char) : Bool := (foldClass a).contains (lowerChar b)

/-- The characters equal to one that a range may hold: the lower case ones, their upper cases, and
the character itself. -/
def foldRelatives (c : Char) : List Char :=
  c :: (foldClass c).flatMap fun d => match upperOf d with
    | [u] => [d, u]
    | _ => [d]

end AuditTrail.Text
