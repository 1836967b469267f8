import AuditTrail.Fault
import AuditTrail.Text.Utf8

/-!
# Yaml/Source — the text of a document

`Source.ofBytes` is the text that a file holds: its bytes are characters, its lines end in a line feed,
and no character is a control character.
-/

namespace AuditTrail.Yaml

open AuditTrail.Text

/-- **Why a document has no value**: it is no document, its bytes are no text, or a scalar has the form
of a value that does not exist. -/
inductive Failure
  | malformed
  | undecodable
  | impossible (kind : FaultKind) (reason : String)
  deriving DecidableEq, Repr

/-- The longest run of digits that is read as a decimal number. -/
def mostDigits : Nat := 4300

/-- The failure of a longer run. -/
def Failure.tooManyDigits (count : Nat) : Failure :=
  .impossible .value ("Exceeds the limit (4300 digits) for integer string conversion: value has " ++
    toString count ++ " digits; use sys.set_int_max_str_digits() to increase the limit")

namespace Source

/-- The characters that a document may hold. -/
def isAllowed (c : Char) : Bool :=
  let n := c.toNat
  n == 0x09 || n == 0x0A || n == 0x0D || (0x20 ≤ n && n ≤ 0x7E) || n == 0x85 ||
    (0xA0 ≤ n && n ≤ 0xFFFD) || 0x10000 ≤ n

/-- Every carriage return, with the line feed after it if there is one, becomes a line feed. -/
def joinLineEnds : List Char → List Char
  | [] => []
  | '\r' :: '\n' :: rest => '\n' :: joinLineEnds rest
  | '\r' :: rest => '\n' :: joinLineEnds rest
  | c :: rest => c :: joinLineEnds rest

/-- **The text of a file.** -/
def ofBytes (bytes : List UInt8) : Except Failure (List Char) :=
  match decodeUtf8 bytes with
  | none => .error .undecodable
  | some cs => if cs.all isAllowed then .ok (joinLineEnds cs) else .error .malformed

end Source

end AuditTrail.Yaml
