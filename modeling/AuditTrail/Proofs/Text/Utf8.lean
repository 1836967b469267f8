import AuditTrail.Text.Utf8
import Mathlib.Data.List.Basic

/-!
# Proofs/Text/Utf8 — a text is read from its bytes

    characters ──encodeUtf8──▸ bytes ──decodeUtf8──▸ characters

A character is read from its bytes, and the others after it (`decodeUtf8_utf8EncodeChar_append`), so
`decodeUtf8` undoes the encoding of a text (`decodeUtf8_encodeUtf8`).
-/

namespace AuditTrail.Text

open String

variable {bytes rest : List UInt8} {cs : List Char} {a b d e : UInt8} {c : Char} {low least code : Nat}

/-! ## Bytes and codes -/

theorem toNat_ofNat_of_isValidChar (h : code.isValidChar) : (Char.ofNat code).toNat = code := by
  rw [Char.ofNat, dif_pos h]
  rfl

theorem continuation?_eq_some_iff : continuation? b = some low ↔ b = UInt8.ofNat (low + 128) ∧ low < 64 := by
  unfold continuation?
  split_ifs with h
  · rw [Option.some.injEq, ← UInt8.toNat_inj, UInt8.toNat_ofNat']
    omega
  · refine iff_of_false nofun ?_
    rintro ⟨rfl, hlow⟩
    rw [UInt8.toNat_ofNat'] at h
    omega

theorem codeInForm?_eq_some_iff : codeInForm? least code = some c ↔ code = c.toNat ∧ least ≤ code := by
  unfold codeInForm?
  split_ifs with h
  · rw [Option.some.injEq]
    constructor
    · rintro rfl
      exact ⟨(toNat_ofNat_of_isValidChar h.2).symm, h.1⟩
    · rintro ⟨rfl, -⟩
      exact Char.ofNat_toNat c
  · refine iff_of_false nofun ?_
    rintro ⟨rfl, hleast⟩
    exact h ⟨hleast, c.valid⟩

/-! ## The four forms -/

theorem decodeUtf8_one (ha : a.toNat < 0x80) :
    decodeUtf8 (a :: rest) = (decodeUtf8 rest).map (Char.ofNat a.toNat :: ·) := by
  rw [decodeUtf8.eq_def]
  exact if_pos ha

theorem decodeUtf8_two (ha : 0xC0 ≤ a.toNat ∧ a.toNat < 0xE0) :
    decodeUtf8 (a :: b :: rest) = (continuation? b).bind fun low =>
      (codeInForm? 0x80 ((a.toNat - 0xC0) * 64 + low)).bind fun c => (decodeUtf8 rest).map (c :: ·) := by
  rw [decodeUtf8.eq_def]
  dsimp only
  rw [if_neg (by omega)]
  simp only [if_pos ha]
  rfl

theorem decodeUtf8_three (ha : 0xE0 ≤ a.toNat ∧ a.toNat < 0xF0) :
    decodeUtf8 (a :: b :: d :: rest) = (continuation? b).bind fun low => (continuation? d).bind fun lower =>
      (codeInForm? 0x800 (((a.toNat - 0xE0) * 64 + low) * 64 + lower)).bind fun c =>
        (decodeUtf8 rest).map (c :: ·) := by
  have hno : ¬ (0xC0 ≤ a.toNat ∧ a.toNat < 0xE0) := by omega
  rw [decodeUtf8.eq_def]
  dsimp only
  rw [if_neg (by omega)]
  simp only [if_neg hno, if_pos ha]
  rfl

theorem decodeUtf8_four (ha : 0xF0 ≤ a.toNat ∧ a.toNat < 0xF8) :
    decodeUtf8 (a :: b :: d :: e :: rest) = (continuation? b).bind fun low =>
      (continuation? d).bind fun lower => (continuation? e).bind fun lowest =>
        (codeInForm? 0x10000 ((((a.toNat - 0xF0) * 64 + low) * 64 + lower) * 64 + lowest)).bind fun c =>
          (decodeUtf8 rest).map (c :: ·) := by
  have hno : ¬ (0xC0 ≤ a.toNat ∧ a.toNat < 0xE0) := by omega
  have hno' : ¬ (0xE0 ≤ a.toNat ∧ a.toNat < 0xF0) := by omega
  rw [decodeUtf8.eq_def]
  dsimp only
  rw [if_neg (by omega)]
  simp only [if_neg hno, if_neg hno', if_pos ha]
  rfl

/-! ## Characters and their bytes -/

/-- **The bytes of a character** by the size of its code. -/
theorem utf8EncodeChar_cases (c : Char) :
    (c.toNat < 0x80 ∧ utf8EncodeChar c = [UInt8.ofNat c.toNat]) ∨
    (0x80 ≤ c.toNat ∧ c.toNat < 0x800 ∧
      utf8EncodeChar c = [UInt8.ofNat (c.toNat / 64 + 192), UInt8.ofNat (c.toNat % 64 + 128)]) ∨
    (0x800 ≤ c.toNat ∧ c.toNat < 0x10000 ∧
      utf8EncodeChar c = [UInt8.ofNat (c.toNat / 4096 + 224), UInt8.ofNat (c.toNat / 64 % 64 + 128),
        UInt8.ofNat (c.toNat % 64 + 128)]) ∨
    0x10000 ≤ c.toNat ∧ c.toNat < 0x110000 ∧
      utf8EncodeChar c = [UInt8.ofNat (c.toNat / 262144 + 240), UInt8.ofNat (c.toNat / 4096 % 64 + 128),
        UInt8.ofNat (c.toNat / 64 % 64 + 128), UInt8.ofNat (c.toNat % 64 + 128)] := by
  have hmax : c.toNat < 0x110000 := by
    rcases c.valid with h | ⟨-, h⟩ <;> simp only [Char.toNat] <;> omega
  have hcode : c.val.toNat = c.toNat := rfl
  unfold utf8EncodeChar
  dsimp only
  rw [hcode]
  split_ifs with h1 h2 h3
  · exact .inl ⟨by omega, rfl⟩
  · have hmod : c.toNat / 64 % 32 = c.toNat / 64 := Nat.mod_eq_of_lt (by omega)
    exact .inr (.inl ⟨by omega, by omega, by rw [hmod]⟩)
  · have hmod : c.toNat / 4096 % 16 = c.toNat / 4096 := Nat.mod_eq_of_lt (by omega)
    exact .inr (.inr (.inl ⟨by omega, by omega, by rw [hmod]⟩))
  · have hmod : c.toNat / 262144 % 8 = c.toNat / 262144 := Nat.mod_eq_of_lt (by omega)
    exact .inr (.inr (.inr ⟨by omega, hmax, by rw [hmod]⟩))

theorem continuation?_ofNat (n : Nat) : continuation? (UInt8.ofNat (n % 64 + 128)) = some (n % 64) :=
  continuation?_eq_some_iff.mpr ⟨rfl, Nat.mod_lt n (by decide)⟩

theorem toNat_ofNat_add {n base : Nat} (h : n + base < 256) : (UInt8.ofNat (n + base)).toNat = n + base :=
  UInt8.toNat_ofNat_of_lt' h

/-- **A character is read from its bytes**, and the others after it. -/
theorem decodeUtf8_utf8EncodeChar_append (c : Char) (rest : List UInt8) :
    decodeUtf8 (utf8EncodeChar c ++ rest) = (decodeUtf8 rest).map (c :: ·) := by
  rcases utf8EncodeChar_cases c with ⟨hcode, hbytes⟩ | ⟨hleast, hcode, hbytes⟩ | ⟨hleast, hcode, hbytes⟩ |
    ⟨hleast, hcode, hbytes⟩ <;> rw [hbytes]
  · have hsmall : c.toNat < 256 := by omega
    have hlead : (UInt8.ofNat c.toNat).toNat = c.toNat := UInt8.toNat_ofNat_of_lt' hsmall
    rw [List.singleton_append, decodeUtf8_one (by omega), hlead, Char.ofNat_toNat]
  · have hlead := @toNat_ofNat_add (c.toNat / 64) 192 (by omega)
    have hread : codeInForm? 0x80 ((c.toNat / 64 + 192 - 0xC0) * 64 + c.toNat % 64) = some c :=
      codeInForm?_eq_some_iff.mpr (by omega)
    rw [List.cons_append, List.singleton_append, decodeUtf8_two (by omega), hlead, continuation?_ofNat,
      Option.bind_some, hread, Option.bind_some]
  · have hlead := @toNat_ofNat_add (c.toNat / 4096) 224 (by omega)
    have hread : codeInForm? 0x800 (((c.toNat / 4096 + 224 - 0xE0) * 64 + c.toNat / 64 % 64) * 64
        + c.toNat % 64) = some c := codeInForm?_eq_some_iff.mpr (by omega)
    rw [List.cons_append, List.cons_append, List.singleton_append, decodeUtf8_three (by omega), hlead,
      continuation?_ofNat, continuation?_ofNat, Option.bind_some, Option.bind_some, hread, Option.bind_some]
  · have hlead := @toNat_ofNat_add (c.toNat / 262144) 240 (by omega)
    have hread : codeInForm? 0x10000 ((((c.toNat / 262144 + 240 - 0xF0) * 64 + c.toNat / 4096 % 64) * 64
        + c.toNat / 64 % 64) * 64 + c.toNat % 64) = some c := codeInForm?_eq_some_iff.mpr (by omega)
    rw [List.cons_append, List.cons_append, List.cons_append, List.singleton_append,
      decodeUtf8_four (by omega), hlead, continuation?_ofNat, continuation?_ofNat, continuation?_ofNat,
      Option.bind_some, Option.bind_some, Option.bind_some, hread, Option.bind_some]

/-- **The bytes of a text are read as the text.** -/
theorem decodeUtf8_encodeUtf8 (cs : List Char) : decodeUtf8 (encodeUtf8 cs) = some cs := by
  induction cs with
  | nil => rfl
  | cons c cs ih =>
    rw [encodeUtf8, List.flatMap_cons, decodeUtf8_utf8EncodeChar_append]
    rw [encodeUtf8] at ih
    rw [ih, Option.map_some]

end AuditTrail.Text
