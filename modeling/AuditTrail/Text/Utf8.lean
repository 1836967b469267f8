/-!
# Text/Utf8 — characters and their bytes

`encodeUtf8` writes characters as bytes, and `decodeUtf8` reads bytes as characters.  Only the shortest form
of a character counts, and surrogates are no characters.
-/

namespace AuditTrail.Text

/-- **Writing characters as bytes.** -/
def encodeUtf8 (cs : List Char) : List UInt8 := cs.flatMap String.utf8EncodeChar

/-- The six bits of a byte that continues a character. -/
def continuation? (byte : UInt8) : Option Nat :=
  if 0x80 ≤ byte.toNat ∧ byte.toNat < 0xC0 then some (byte.toNat - 0x80) else none

/-- The character of a code that needs as many bytes as it was given, the least such code being
`least`. -/
def codeInForm? (least code : Nat) : Option Char :=
  if least ≤ code ∧ code.isValidChar then some (Char.ofNat code) else none

/-- **Reading bytes as characters.** -/
def decodeUtf8 : List UInt8 → Option (List Char)
  | [] => some []
  | a :: afterA =>
    let lead := a.toNat
    if lead < 0x80 then (decodeUtf8 afterA).map (Char.ofNat lead :: ·)
    else match afterA with
    | [] => none
    | b :: afterB => do
      let low ← continuation? b
      if 0xC0 ≤ lead ∧ lead < 0xE0 then
        let c ← codeInForm? 0x80 ((lead - 0xC0) * 64 + low)
        (decodeUtf8 afterB).map (c :: ·)
      else match afterB with
      | [] => none
      | d :: afterD =>
        let lower ← continuation? d
        if 0xE0 ≤ lead ∧ lead < 0xF0 then
          let c ← codeInForm? 0x800 (((lead - 0xE0) * 64 + low) * 64 + lower)
          (decodeUtf8 afterD).map (c :: ·)
        else match afterD with
        | [] => none
        | e :: afterE =>
          let lowest ← continuation? e
          if 0xF0 ≤ lead ∧ lead < 0xF8 then
            let c ← codeInForm? 0x10000 ((((lead - 0xF0) * 64 + low) * 64 + lower) * 64 + lowest)
            (decodeUtf8 afterE).map (c :: ·)
          else none

end AuditTrail.Text
