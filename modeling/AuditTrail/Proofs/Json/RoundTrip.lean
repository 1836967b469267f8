import AuditTrail.Json.Reader
import AuditTrail.Json.Writer

/-!
# Proofs/Json/RoundTrip — what is written is read back

    a 😀  ──write──▸  a \ud83d \ude00  ──read──▸  0x61 0xd83d 0xde00  ──join──▸  a 😀

A character is written as its UTF-16 units (`unitsOf`), each by itself or escaped, so a string is read
back up to its closing quote whatever follows (`readString_flatMap`).  Texts are read back with anything
behind them, and so are lists and mappings of values that are (`readsBack_list`, `readsBack_mapping`).
-/

namespace AuditTrail.Json

open AuditTrail.Text

/-! ## Characters -/

/-- **The UTF-16 units of a character.** -/
def unitsOf (c : Char) : List Nat :=
  if c.toNat < 0x10000 then [c.toNat] else [highSurrogate c.toNat, lowSurrogate c.toNat]

theorem hexValue?_hexDigit (n : Nat) : hexValue? (hexDigit (n % 16)) = some (n % 16) := by
  have hall : ∀ digit < 16, hexValue? (hexDigit digit) = some digit := by decide
  exact hall _ (Nat.mod_lt n (by decide))

/-- What is read of a text, with units in front. -/
def withUnits (units : List Nat) (read : Option (List Nat × List Char)) :
    Option (List Nat × List Char) :=
  read.map fun (more, after) => (units ++ more, after)

theorem readUnits_unitEscape {unit : Nat} (h : unit < 0x10000) (rest : List Char) :
    readUnits (unitEscape unit ++ rest) = withUnits [unit] (readUnits rest) := by
  have hdigits : unitEscape unit ++ rest = '\\' :: 'u' :: hexDigit (unit / 16 / 16 / 16 % 16) ::
      hexDigit (unit / 16 / 16 % 16) :: hexDigit (unit / 16 % 16) :: hexDigit (unit % 16) :: rest := rfl
  have hvalue : ((unit / 16 / 16 / 16 % 16 * 16 + unit / 16 / 16 % 16) * 16 + unit / 16 % 16) * 16
      + unit % 16 = unit := by omega
  rw [hdigits, readUnits, hexUnit?, hexValue?_hexDigit, hexValue?_hexDigit, hexValue?_hexDigit,
    hexValue?_hexDigit]
  dsimp only [Option.bind_eq_bind, Option.bind_some, Option.pure_def]
  rw [hvalue]
  cases readUnits rest <;> rfl

theorem readUnits_simpleEscape {c e : Char} (h : simpleEscape? e = some c) (rest : List Char) :
    readUnits ('\\' :: e :: rest) = withUnits [c.toNat] (readUnits rest) := by
  rw [readUnits, h]
  · cases readUnits rest <;> rfl
  · rintro a b c d rest rfl
    cases h

theorem readUnits_cons {c : Char} (hquote : c ≠ '"') (hslash : c ≠ '\\') (rest : List Char) :
    readUnits (c :: rest) = withUnits [c.toNat] (readUnits rest) := by
  rw [readUnits]
  · cases readUnits rest <;> rfl
  · exact hquote
  · exact fun _ _ _ _ _ h => absurd h hslash
  · exact fun _ _ h => absurd h hslash

/-- **A character is read back** as its units. -/
theorem readUnits_escapeChar (c : Char) (rest : List Char) :
    readUnits (escapeChar c ++ rest) = withUnits (unitsOf c) (readUnits rest) := by
  unfold escapeChar
  split
  case isTrue hc =>
    subst hc
    exact readUnits_simpleEscape rfl rest
  case isFalse hquote =>
  split
  case isTrue hc =>
    subst hc
    exact readUnits_simpleEscape rfl rest
  case isFalse hslash =>
  -- Five more characters have an escape of their own.
  iterate 5 (split; · subst_vars; exact readUnits_simpleEscape rfl rest)
  split
  case isTrue hascii =>
    rw [unitsOf, if_pos (by omega)]
    exact readUnits_cons hquote hslash rest
  split
  case isTrue hunit =>
    rw [unitsOf, if_pos hunit]
    exact readUnits_unitEscape hunit rest
  case isFalse hpair =>
    have hvalid : c.toNat < 0xD800 ∨ 0xDFFF < c.toNat ∧ c.toNat < 0x110000 := c.valid
    have hhigh : highSurrogate c.toNat < 0x10000 := by
      unfold highSurrogate
      omega
    have hlow : lowSurrogate c.toNat < 0x10000 := by
      unfold lowSurrogate
      omega
    rw [unitsOf, if_neg hpair, List.append_assoc, readUnits_unitEscape hhigh, readUnits_unitEscape hlow]
    cases readUnits rest <;> rfl

/-- **Units are joined** to the character that they are of. -/
theorem joinUnits_unitsOf (c : Char) (units : List Nat) :
    joinUnits (unitsOf c ++ units) = c :: joinUnits units := by
  have hvalid : c.toNat < 0xD800 ∨ 0xDFFF < c.toNat ∧ c.toNat < 0x110000 := c.valid
  unfold unitsOf highSurrogate lowSurrogate
  split
  case isTrue hunit =>
    cases units with
    | nil => exact congrArg (· :: []) (Char.ofNat_toNat c)
    | cons low rest =>
      rw [List.singleton_append, joinUnits, if_neg (by omega), Char.ofNat_toNat]
  case isFalse hpair =>
    have hcode : 0x10000 + (0xD800 + (c.toNat - 0x10000) / 0x400 - 0xD800) * 0x400
        + (0xDC00 + (c.toNat - 0x10000) % 0x400 - 0xDC00) = c.toNat := by omega
    rw [List.cons_append, List.singleton_append, joinUnits, if_pos (by omega), hcode,
      Char.ofNat_toNat]

/-! ## Strings -/

theorem readUnits_flatMap (cs rest : List Char) :
    readUnits (cs.flatMap escapeChar ++ '"' :: rest) = some (cs.flatMap unitsOf, rest) := by
  induction cs with
  | nil => rfl
  | cons c cs ih =>
    rw [List.flatMap_cons, List.append_assoc, readUnits_escapeChar, ih, List.flatMap_cons]
    rfl

theorem joinUnits_flatMap (cs : List Char) : joinUnits (cs.flatMap unitsOf) = cs := by
  induction cs with
  | nil => rfl
  | cons c cs ih => rw [List.flatMap_cons, joinUnits_unitsOf, ih]

/-- **A string is read back** up to its closing quote. -/
theorem readString_flatMap (s : String) (rest : List Char) :
    readString (s.toList.flatMap escapeChar ++ '"' :: rest) = some (s, rest) := by
  rw [readString, readUnits_flatMap, Option.map_some]
  dsimp only
  rw [joinUnits_flatMap, String.ofList_toList]

/-! ## Values -/

/-- A blank in front of a value is passed over. -/
theorem readValue_blank (fuel : Nat) (cs : List Char) :
    readValue fuel (' ' :: cs) = readValue fuel cs := by
  cases fuel with
  | zero => rw [readValue, readValue]
  | succ fuel => rw [readValue, readValue]; rfl

theorem readItems_blank (fuel : Nat) (cs : List Char) :
    readItems fuel (' ' :: cs) = readItems fuel cs := by
  cases fuel with
  | zero => rw [readItems, readItems]
  | succ fuel => rw [readItems, readItems, readValue_blank]

theorem readEntries_blank (fuel : Nat) (cs : List Char) :
    readEntries fuel (' ' :: cs) = readEntries fuel cs := by
  cases fuel with
  | zero => rw [readEntries, readEntries]
  | succ fuel => rw [readEntries, readEntries]; rfl

/-- **A value is read back**, whatever follows it: it opens with a character that opens nothing else, and
as much fuel as it is long is enough. -/
structure ReadsBack (value : Data) : Prop where
  opens : ∃ c ∈ ['"', '[', '\x7b'], ∃ body, writeChars value = c :: body
  reads : ∀ fuel rest, (writeChars value).length < fuel →
    readValue fuel (writeChars value ++ rest) = some (value, rest)

theorem readsBack_text (s : String) : ReadsBack (.text s) where
  opens := ⟨'"', List.mem_cons_self, _, rfl⟩
  reads fuel rest hfuel := by
    obtain ⟨fuel, rfl⟩ := Nat.exists_eq_succ_of_ne_zero (Nat.ne_zero_of_lt hfuel)
    have hquote : readValue (fuel + 1) (writeChars (.text s) ++ rest)
        = (readString (s.toList.flatMap escapeChar ++ '"' :: rest)).map
            fun read => (.text read.1, read.2) := by
      rw [writeChars, writeString, List.append_assoc]
      rfl
    rw [hquote, readString_flatMap]
    rfl

/-- **Items are read back** up to the closing bracket. -/
theorem readItems_writeItems {items : List Data} (hsome : items ≠ [])
    (h : ∀ item ∈ items, ReadsBack item) {fuel : Nat} (hfuel : (writeItems items).length + 1 < fuel)
    (rest : List Char) : readItems fuel (writeItems items ++ ']' :: rest) = some (items, rest) := by
  induction items generalizing fuel with
  | nil => exact absurd rfl hsome
  | cons item items ih =>
    obtain ⟨hitem, hitems⟩ := List.forall_mem_cons.mp h
    obtain ⟨fuel, rfl⟩ := Nat.exists_eq_succ_of_ne_zero (Nat.ne_zero_of_lt hfuel)
    cases items with
    | nil =>
      have hread := hitem.reads fuel (']' :: rest) (Nat.lt_of_succ_lt_succ hfuel)
      rw [writeItems, readItems, hread]
      rfl
    | cons next items =>
      have hsplit : writeItems (item :: next :: items)
          = writeChars item ++ ',' :: ' ' :: writeItems (next :: items) := rfl
      rw [hsplit, List.length_append, List.length_cons, List.length_cons] at hfuel
      have hread := hitem.reads fuel (',' :: ' ' :: (writeItems (next :: items) ++ ']' :: rest))
        (by omega)
      have hmore := ih (List.cons_ne_nil _ _) hitems (by omega : _ < fuel)
      rw [← readItems_blank] at hmore
      rw [hsplit, List.append_assoc, List.cons_append, List.cons_append, readItems, hread]
      show (readItems fuel _ >>= fun read => some (item :: read.1, read.2)) = _
      rw [hmore]
      rfl

/-- What opens a value does not close a list. -/
theorem readValue_items {c : Char} (hc : c ∈ ['"', '[', '\x7b']) (fuel : Nat) (cs : List Char) :
    readValue (fuel + 1) ('[' :: c :: cs)
      = (readItems fuel (c :: cs)).map fun (items, after) => (.list items, after) := by
  rw [List.mem_cons, List.mem_cons, List.mem_singleton] at hc
  rcases hc with rfl | rfl | rfl <;> rfl

/-- **A list is read back** if its items are. -/
theorem readsBack_list {items : List Data} (h : ∀ item ∈ items, ReadsBack item) :
    ReadsBack (.list items) where
  opens := ⟨'[', by decide, _, rfl⟩
  reads fuel rest hfuel := by
    obtain ⟨fuel, rfl⟩ := Nat.exists_eq_succ_of_ne_zero (Nat.ne_zero_of_lt hfuel)
    rw [writeChars, List.length_append, List.length_cons, List.length_singleton] at hfuel
    rw [writeChars, List.append_assoc, List.singleton_append, List.cons_append]
    cases items with
    | nil => rfl
    | cons item items =>
      have hread := readItems_writeItems (List.cons_ne_nil _ _) h (by omega : _ < fuel) rest
      obtain ⟨c, hc, body, hbody⟩ : ∃ c ∈ ['"', '[', '\x7b'], ∃ body,
          writeItems (item :: items) = c :: body := by
        obtain ⟨c, hc, body, hbody⟩ := (h item List.mem_cons_self).opens
        cases items with
        | nil => exact ⟨c, hc, body, hbody⟩
        | cons next items =>
          refine ⟨c, hc, body ++ ',' :: ' ' :: writeItems (next :: items), ?_⟩
          rw [← List.cons_append, ← hbody]
          rfl
      rw [hbody, List.cons_append] at hread ⊢
      rw [readValue_items hc, hread]
      rfl

/-- **The last entry**, before the closing brace. -/
theorem readEntries_last {key : String} {value : Data} {fuel : Nat} {rest : List Char}
    (h : readValue fuel (writeChars value ++ '\x7d' :: rest) = some (value, '\x7d' :: rest)) :
    readEntries (fuel + 1) (writeString key ++ ':' :: ' ' :: (writeChars value ++ '\x7d' :: rest))
      = some ([(.text key, value)], rest) := by
  have hkey := readString_flatMap key (':' :: ' ' :: (writeChars value ++ '\x7d' :: rest))
  rw [writeString, List.append_assoc, List.cons_append, readEntries]
  show (readString _ >>= _) = _
  rw [List.singleton_append, hkey]
  show (readValue fuel (' ' :: _) >>= _) = _
  rw [readValue_blank, h]
  rfl

/-- **An entry before others.** -/
theorem readEntries_more {key : String} {value : Data} {fuel : Nat} {more : List Char}
    (h : readValue fuel (writeChars value ++ ',' :: more) = some (value, ',' :: more)) :
    readEntries (fuel + 1) (writeString key ++ ':' :: ' ' :: (writeChars value ++ ',' :: more))
      = (readEntries fuel more).map fun (entries, after) => ((.text key, value) :: entries, after) := by
  have hkey := readString_flatMap key (':' :: ' ' :: (writeChars value ++ ',' :: more))
  rw [writeString, List.append_assoc, List.cons_append, readEntries]
  show (readString _ >>= _) = _
  rw [List.singleton_append, hkey]
  show (readValue fuel (' ' :: _) >>= _) = _
  rw [readValue_blank, h]
  show (readEntries fuel more >>= _) = _
  cases readEntries fuel more <;> rfl

/-- **Entries are read back** up to the closing brace. -/
theorem readEntries_writeEntries {entries : List (Data × Data)} (hsome : entries ≠ [])
    (h : ∀ entry ∈ entries, (∃ key, entry.1 = .text key) ∧ ReadsBack entry.2) {fuel : Nat}
    (hfuel : (writeEntries entries).length + 1 < fuel) (rest : List Char) :
    readEntries fuel (writeEntries entries ++ '\x7d' :: rest) = some (entries, rest) := by
  induction entries generalizing fuel with
  | nil => exact absurd rfl hsome
  | cons entry entries ih =>
    obtain ⟨⟨⟨key, hkey⟩, hvalue⟩, hentries⟩ := List.forall_mem_cons.mp h
    obtain ⟨fuel, rfl⟩ := Nat.exists_eq_succ_of_ne_zero (Nat.ne_zero_of_lt hfuel)
    obtain ⟨_, value⟩ := entry
    dsimp only at hkey hvalue
    subst hkey
    cases entries with
    | nil =>
      have hsplit : writeEntries [(.text key, value)]
          = writeString key ++ ':' :: ' ' :: writeChars value := by
        rw [writeEntries, writeChars]
      rw [hsplit, List.length_append, List.length_cons, List.length_cons] at hfuel
      rw [hsplit, List.append_assoc, List.cons_append, List.cons_append]
      exact readEntries_last (hvalue.reads fuel _ (by omega))
    | cons next entries =>
      have hsplit : writeEntries ((.text key, value) :: next :: entries) = writeString key ++
          ':' :: ' ' :: (writeChars value ++ ',' :: ' ' :: writeEntries (next :: entries)) := by
        rw [writeEntries, writeChars, List.append_assoc, List.cons_append, List.cons_append]
        exact List.cons_ne_nil _ _
      rw [hsplit] at hfuel
      simp only [List.length_append, List.length_cons] at hfuel
      have hmore := ih (List.cons_ne_nil _ _) hentries (by omega : _ < fuel)
      rw [hsplit]
      simp only [List.append_assoc, List.cons_append]
      rw [readEntries_more (hvalue.reads fuel _ (by omega)), readEntries_blank, hmore]
      rfl

/-- **A mapping is read back** if its keys are texts and its values are read back. -/
theorem readsBack_mapping {entries : List (Data × Data)}
    (h : ∀ entry ∈ entries, (∃ key, entry.1 = .text key) ∧ ReadsBack entry.2) :
    ReadsBack (.mapping entries) where
  opens := ⟨'\x7b', by decide, _, rfl⟩
  reads fuel rest hfuel := by
    obtain ⟨fuel, rfl⟩ := Nat.exists_eq_succ_of_ne_zero (Nat.ne_zero_of_lt hfuel)
    rw [writeChars, List.length_append, List.length_cons, List.length_singleton] at hfuel
    rw [writeChars, List.append_assoc, List.singleton_append, List.cons_append]
    cases entries with
    | nil => rfl
    | cons entry entries =>
      have hread := readEntries_writeEntries (List.cons_ne_nil _ _) h (by omega : _ < fuel) rest
      obtain ⟨body, hbody⟩ : ∃ body, writeEntries (entry :: entries) = '"' :: body := by
        obtain ⟨⟨key, hkey⟩, -⟩ := h entry List.mem_cons_self
        obtain ⟨_, value⟩ := entry
        dsimp only at hkey
        subst hkey
        cases entries <;> exact ⟨_, rfl⟩
      rw [hbody, List.cons_append] at hread ⊢
      have hopen : readValue (fuel + 1) ('\x7b' :: '"' :: (body ++ '\x7d' :: rest))
          = (readEntries fuel ('"' :: (body ++ '\x7d' :: rest))).map
              fun (entries, after) => (.mapping entries, after) := rfl
      rw [hopen, hread]
      rfl

theorem readsBack_ofFields {fields : List (String × Data)} (h : ∀ field ∈ fields, ReadsBack field.2) :
    ReadsBack (.ofFields fields) := by
  refine readsBack_mapping fun entry hentry => ?_
  obtain ⟨⟨key, value⟩, hfield, rfl⟩ := List.mem_map.mp hentry
  exact ⟨⟨key, rfl⟩, h _ hfield⟩

/-- **Reading is the inverse of writing.** -/
theorem ReadsBack.read?_write {value : Data} (h : ReadsBack value) : read? (write value) = some value := by
  have hread := h.reads ((writeChars value).length + 1) [] (Nat.lt_succ_self _)
  rw [List.append_nil] at hread
  unfold read? write
  rw [String.toList_ofList]
  dsimp only
  rw [hread]
  rfl

end AuditTrail.Json
