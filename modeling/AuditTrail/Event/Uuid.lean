import AuditTrail.Text.Quoted
import AuditTrail.Text.Word

/-!
# Event/Uuid — identifiers of 128 bits and their texts

`Uuid.text` writes 8-4-4-4-12 hexadecimal digits in lower case.  `Uuid.parse?` also reads 32 digits
without hyphens, and the hyphenated form between braces or after `urn:uuid:`.
-/

namespace AuditTrail

open AuditTrail.Text

/-- **An identifier of 128 bits.** -/
structure Uuid where
  bits : BitVec 128
  deriving DecidableEq, Repr

namespace Uuid

/-- The hyphenated text in lower case. -/
def text (u : Uuid) : String :=
  let digits := hexDigits 32 u.bits.toNat
  let group (start length : Nat) : List Char := (digits.drop start).take length
  String.ofList (['-'].intercalate [group 0 8, group 8 4, group 12 4, group 16 4, group 20 12])

/-- The number that hexadecimal digits write, if they are all digits. -/
def readHex? (cs : List Char) : Option Nat :=
  cs.foldl (fun sofar c => do return 16 * (← sofar) + (← hexValue? c)) (some 0)

/-- The identifier written by exactly 32 hexadecimal digits. -/
def ofDigits? (cs : List Char) : Option Uuid :=
  if cs.length = 32 then (readHex? cs).map fun n => ⟨BitVec.ofNat 128 n⟩ else none

/-- The identifier written by groups of 8, 4, 4, 4 and 12 digits between hyphens. -/
def ofGroups? (cs : List Char) : Option Uuid :=
  let groups := cs.splitOn '-'
  if groups.map List.length = [8, 4, 4, 4, 12] then ofDigits? groups.flatten else none

/-- **Reading an identifier** in any of its written forms. -/
def parse? (s : String) : Option Uuid :=
  let cs := s.toList
  match cs with
  | '\x7b' :: rest => if rest.getLast? = some '\x7d' then ofGroups? rest.dropLast else none
  | _ =>
    if "urn:uuid:".toList.isPrefixOf cs then ofGroups? (cs.drop 9)
    else (ofDigits? cs).orElse fun _ => ofGroups? cs

end Uuid

end AuditTrail
