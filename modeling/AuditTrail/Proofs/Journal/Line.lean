import Mathlib.Data.List.DropRight
import AuditTrail.Journal.Record
import AuditTrail.Proofs.Text.Utf8

/-!
# Proofs/Journal/Line — a record is one line

    {"timestamp": "…", "message": "…", "template": "…", "arguments": ["…", …]}⏎

Whatever stands in its texts, a record is written in the printable characters of ASCII before its line
break (`exists_recordLine_eq`).  So whole lines without the last one are what was there before the record was
written (`withoutLastLine_append_recordLine`).
-/

namespace AuditTrail

/-! ## Written texts -/

namespace Json

open AuditTrail.Text

/-- A printable character of ASCII. -/
def IsAscii (c : Char) : Prop := 32 ≤ c.toNat ∧ c.toNat < 127

/-- A byte that is a printable character of ASCII. -/
def IsAsciiByte (b : UInt8) : Prop := 32 ≤ b.toNat ∧ b.toNat < 127

instance (c : Char) : Decidable (IsAscii c) := inferInstanceAs (Decidable (_ ∧ _))

instance (b : UInt8) : Decidable (IsAsciiByte b) := inferInstanceAs (Decidable (_ ∧ _))

/-- Printable characters of ASCII are one byte each. -/
theorem forall_mem_encodeUtf8 {cs : List Char} (h : ∀ c ∈ cs, IsAscii c) :
    ∀ b ∈ encodeUtf8 cs, IsAsciiByte b := by
  intro b hb
  obtain ⟨c, hc, hb⟩ := List.mem_flatMap.mp hb
  obtain ⟨hle, hlt⟩ := h c hc
  rcases utf8EncodeChar_cases c with ⟨-, hbytes⟩ | ⟨hlarge, -⟩ | ⟨hlarge, -⟩ | ⟨hlarge, -⟩
  · rw [hbytes] at hb
    obtain rfl := List.mem_singleton.mp hb
    have hsmall : c.toNat < 256 := by omega
    have hcode : (UInt8.ofNat c.toNat).toNat = c.toNat := UInt8.toNat_ofNat_of_lt' hsmall
    rw [IsAsciiByte, hcode]
    exact ⟨hle, hlt⟩
  all_goals omega

theorem isAscii_hexDigit (n : Nat) : IsAscii (hexDigit (n % 16)) := by
  have hall : ∀ digit < 16, IsAscii (hexDigit digit) := by decide
  exact hall _ (Nat.mod_lt n (by decide))

theorem forall_mem_hexDigits (width n : Nat) : ∀ c ∈ hexDigits width n, IsAscii c := by
  induction width generalizing n with
  | zero => exact fun c hc => absurd hc List.not_mem_nil
  | succ width ih =>
    rw [hexDigits, List.forall_mem_append, List.forall_mem_singleton]
    exact ⟨ih (n / 16), isAscii_hexDigit n⟩

theorem forall_mem_unitEscape (unit : Nat) : ∀ c ∈ unitEscape unit, IsAscii c := by
  rw [unitEscape, List.forall_mem_cons, List.forall_mem_cons]
  exact ⟨by decide, by decide, forall_mem_hexDigits 4 unit⟩

theorem forall_mem_pair {c : Char} (h : IsAscii c) : ∀ d ∈ ['\\', c], IsAscii d :=
  List.forall_mem_cons.mpr ⟨by decide, List.forall_mem_singleton.mpr h⟩

/-- **One character** is written in printable ones of ASCII. -/
theorem forall_mem_escapeChar (c : Char) : ∀ d ∈ escapeChar c, IsAscii d := by
  unfold escapeChar
  -- Seven characters have an escape of their own.
  iterate 7 (split; · exact forall_mem_pair (by decide))
  split
  case isTrue hascii => exact List.forall_mem_singleton.mpr hascii
  split
  · exact forall_mem_unitEscape _
  · exact List.forall_mem_append.mpr ⟨forall_mem_unitEscape _, forall_mem_unitEscape _⟩

/-- **A string** is written in printable characters of ASCII. -/
theorem forall_mem_writeString (s : String) : ∀ c ∈ writeString s, IsAscii c := by
  rw [writeString, List.forall_mem_append, List.forall_mem_cons, List.forall_mem_singleton]
  refine ⟨⟨by decide, fun c hc => ?_⟩, by decide⟩
  obtain ⟨d, -, hd⟩ := List.mem_flatMap.mp hc
  exact forall_mem_escapeChar d c hd

theorem forall_mem_writeItems {items : List Data} (h : ∀ item ∈ items, ∀ c ∈ writeChars item, IsAscii c) :
    ∀ c ∈ writeItems items, IsAscii c := by
  induction items with
  | nil => exact fun c hc => absurd hc List.not_mem_nil
  | cons item rest ih =>
    obtain ⟨hitem, hrest⟩ := List.forall_mem_cons.mp h
    cases rest with
    | nil => exact hitem
    | cons next rest =>
      have hsplit : writeItems (item :: next :: rest)
          = writeChars item ++ ',' :: ' ' :: writeItems (next :: rest) := rfl
      rw [hsplit, List.forall_mem_append, List.forall_mem_cons, List.forall_mem_cons]
      exact ⟨hitem, by decide, by decide, ih hrest⟩

theorem forall_mem_writeEntries {entries : List (Data × Data)}
    (h : ∀ entry ∈ entries, (∀ c ∈ writeChars entry.1, IsAscii c) ∧ ∀ c ∈ writeChars entry.2, IsAscii c) :
    ∀ c ∈ writeEntries entries, IsAscii c := by
  induction entries with
  | nil => exact fun c hc => absurd hc List.not_mem_nil
  | cons entry rest ih =>
    obtain ⟨⟨hkey, hvalue⟩, hrest⟩ := List.forall_mem_cons.mp h
    have hentry : ∀ c ∈ writeChars entry.1 ++ ':' :: ' ' :: writeChars entry.2, IsAscii c := by
      rw [List.forall_mem_append, List.forall_mem_cons, List.forall_mem_cons]
      exact ⟨hkey, by decide, by decide, hvalue⟩
    cases rest with
    | nil => exact hentry
    | cons next rest =>
      have hsplit : writeEntries (entry :: next :: rest)
          = writeChars entry.1 ++ ':' :: ' ' :: writeChars entry.2 ++
            ',' :: ' ' :: writeEntries (next :: rest) := rfl
      rw [hsplit, List.forall_mem_append, List.forall_mem_cons, List.forall_mem_cons]
      exact ⟨hentry, by decide, by decide, ih hrest⟩

end Json

namespace Journal

open Json Text

variable {moment : Moment} {message template : String} {arguments : List String}

/-- **A record** is written in printable characters of ASCII. -/
theorem forall_mem_writeChars_recordData :
    ∀ c ∈ writeChars (recordData moment message template arguments), IsAscii c := by
  have harguments : ∀ c ∈ writeChars (.list (arguments.map .text)), IsAscii c := by
    rw [writeChars, List.forall_mem_append, List.forall_mem_cons, List.forall_mem_singleton]
    refine ⟨⟨by decide, forall_mem_writeItems fun item hitem => ?_⟩, by decide⟩
    obtain ⟨s, -, rfl⟩ := List.mem_map.mp hitem
    exact forall_mem_writeString s
  rw [recordData, Data.ofFields, writeChars, List.forall_mem_append, List.forall_mem_cons,
    List.forall_mem_singleton]
  refine ⟨⟨by decide, forall_mem_writeEntries ?_⟩, by decide⟩
  simp only [List.map_cons, List.map_nil, List.forall_mem_cons]
  exact ⟨⟨forall_mem_writeString _, forall_mem_writeString _⟩,
    ⟨forall_mem_writeString _, forall_mem_writeString _⟩,
    ⟨forall_mem_writeString _, forall_mem_writeString _⟩,
    ⟨forall_mem_writeString _, harguments⟩, fun entry hentry => absurd hentry List.not_mem_nil⟩

/-- The byte of a line break. -/
def lineBreak : UInt8 := 10

theorem recordLine_eq : recordLine moment message template arguments
    = encodeUtf8 (writeChars (recordData moment message template arguments)) ++ [lineBreak] := by
  rw [recordLine, encodeUtf8, List.flatMap_append]
  rfl

/-- **A record is one line.** -/
theorem exists_recordLine_eq (moment : Moment) (message template : String) (arguments : List String) :
    ∃ body, (∀ b ∈ body, IsAsciiByte b) ∧
      recordLine moment message template arguments = body ++ [lineBreak] :=
  ⟨_, forall_mem_encodeUtf8 forall_mem_writeChars_recordData, recordLine_eq⟩

theorem recordLine_ne_nil : recordLine moment message template arguments ≠ [] := by
  rw [recordLine_eq]
  exact List.concat_ne_nil _ _

/-! ## The last line -/

variable {bytes : List UInt8}

/-- **What is before the last line.** -/
def withoutLastLine (bytes : List UInt8) : List UInt8 := bytes.dropLast.rdropWhile (· ≠ lineBreak)

/-- The bytes are whole lines. -/
def HasWholeLines (bytes : List UInt8) : Prop := bytes = [] ∨ ∃ init, bytes = init ++ [lineBreak]

/-- **A record is the last line** after whole lines. -/
theorem withoutLastLine_append_recordLine (h : HasWholeLines bytes) :
    withoutLastLine (bytes ++ recordLine moment message template arguments) = bytes := by
  obtain ⟨body, hascii, hline⟩ := exists_recordLine_eq moment message template arguments
  have hbody : ∀ b ∈ body, decide (b ≠ lineBreak) = true := by
    rintro b hb
    refine decide_eq_true ?_
    rintro rfl
    exact absurd (hascii _ hb) (by decide)
  have hdrop (init : List UInt8) :
      (init ++ body).rdropWhile (· ≠ lineBreak) = init.rdropWhile (· ≠ lineBreak) := by
    rw [List.rdropWhile, List.reverse_append, List.dropWhile_append_of_pos, ← List.rdropWhile]
    exact fun b hb => hbody b (List.mem_reverse.mp hb)
  unfold withoutLastLine
  rw [hline, ← List.append_assoc, List.dropLast_concat, hdrop]
  rcases h with rfl | ⟨init, rfl⟩
  · rfl
  · exact List.rdropWhile_concat_neg _ _ _ (by decide)

theorem withoutLastLine_recordLine :
    withoutLastLine (recordLine moment message template arguments) = [] := by
  have hlast : withoutLastLine ([] ++ recordLine moment message template arguments) = [] :=
    withoutLastLine_append_recordLine (.inl rfl)
  rwa [List.nil_append] at hlast

theorem hasWholeLines_append_recordLine :
    HasWholeLines (bytes ++ recordLine moment message template arguments) := by
  obtain ⟨body, -, hline⟩ := exists_recordLine_eq moment message template arguments
  exact .inr ⟨bytes ++ body, by rw [hline, List.append_assoc]⟩

theorem hasWholeLines_recordLine : HasWholeLines (recordLine moment message template arguments) := by
  obtain ⟨body, -, hline⟩ := exists_recordLine_eq moment message template arguments
  exact .inr ⟨body, hline⟩

end Journal

end AuditTrail
