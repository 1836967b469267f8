import AuditTrail.Text.Blank
import AuditTrail.Text.Fold

/-!
# Proofs/Text/Uncased — characters that comparison regardless of case leaves alone

A code point is **uncased** when no entry of the lower case table starts from it or leads to it, so
it is the lower case of itself and of nothing else (`lowerChar_eq_iff`).  Blanks, the single quote
and the equals sign are uncased: patterns that ignore case tell them apart exactly.
-/

namespace AuditTrail.Text

/-! ## Code points outside a table -/

/-- Two intervals have no number in common. -/
def areApart (first last first' last' : Nat) : Bool := last.blt first' || last'.blt first

/-- The run maps no code point of the interval, and none into it. -/
def CaseRun.misses (run : CaseRun) (first last : Nat) : Bool :=
  areApart first last run.first run.last &&
    areApart first last (run.first + run.shift).toNat (run.last + run.shift).toNat

/-- **An interval of code points without a lower case of their own** that are no lower case of others. -/
def areUncased (first last : Nat) : Bool :=
  first != 0 && lowerRuns.all (·.misses first last) &&
    lowerExpansions.all fun (n, image) =>
      areApart first last n n && areApart first last (image.headD n) (image.headD n)

/-- **A code point without a lower case of its own** that is no lower case of another one. -/
def isUncased (n : Nat) : Bool := areUncased n n

theorem areApart_mono {first last first' last' n : Nat} (h : areApart first last first' last' = true)
    (hfirst : first ≤ n) (hlast : n ≤ last) : areApart n n first' last' = true := by
  simp only [areApart, Bool.or_eq_true, Nat.blt_eq] at h ⊢
  omega

/-- The code points of an uncased interval are uncased. -/
theorem isUncased_of_areUncased {first last n : Nat} (h : areUncased first last = true)
    (hfirst : first ≤ n) (hlast : n ≤ last) : isUncased n = true := by
  simp only [isUncased, areUncased, CaseRun.misses, Bool.and_eq_true, bne_iff_ne, List.all_eq_true] at h ⊢
  obtain ⟨⟨hzero, hruns⟩, hexpansions⟩ := h
  refine ⟨⟨by omega, fun run hrun => ?_⟩, fun entry hentry => ?_⟩
  · exact ⟨areApart_mono (hruns run hrun).1 hfirst hlast, areApart_mono (hruns run hrun).2 hfirst hlast⟩
  · exact ⟨areApart_mono (hexpansions entry hentry).1 hfirst hlast,
      areApart_mono (hexpansions entry hentry).2 hfirst hlast⟩

/-- A table that misses a code point maps no other one to it. -/
theorem shiftBy_eq_iff {runs : List CaseRun} {m : Nat} (h : ∀ run ∈ runs, run.misses m m = true) (n : Nat) :
    shiftBy runs n = m ↔ n = m := by
  rw [shiftBy]
  split
  · rename_i run hrun
    have hcov := List.find?_some hrun
    have hmiss := h run (List.mem_of_find?_eq_some hrun)
    simp only [CaseRun.covers, Bool.and_eq_true, decide_eq_true_eq] at hcov
    simp only [CaseRun.misses, areApart, Bool.and_eq_true, Bool.or_eq_true, Nat.blt_eq] at hmiss
    omega
  · exact Iff.rfl

/-- A code point other than zero names one character at most. -/
theorem ofNat_eq_iff {x : Char} (hx : x.toNat ≠ 0) (n : Nat) : Char.ofNat n = x ↔ n = x.toNat := by
  constructor
  · rintro rfl
    by_cases hn : n.isValidChar
    · rw [Char.ofNat, dif_pos hn]
      rfl
    · refine absurd ?_ hx
      rw [Char.ofNat, dif_neg hn]
      rfl
  · rintro rfl
    exact Char.ofNat_toNat x

/-- Lower case of ASCII, by code points. -/
theorem toNat_toLower (c : Char) :
    c.toLower.toNat = if 65 ≤ c.toNat ∧ c.toNat ≤ 90 then c.toNat + 32 else c.toNat := by
  have h : (c.val ≥ 'A'.val ∧ c.val ≤ 'Z'.val) ↔ (65 ≤ c.toNat ∧ c.toNat ≤ 90) := by
    simp only [ge_iff_le, UInt32.le_iff_toNat_le]
    exact Iff.rfl
  by_cases hc : 65 ≤ c.toNat ∧ c.toNat ≤ 90
  · have hlower : c.toLower.toNat = (c.val + ('a'.val - 'A'.val)).toNat :=
      congrArg Char.toNat (dif_pos (h.mpr hc))
    have hle : c.val.toNat ≤ 90 := hc.2
    rw [if_pos hc, hlower, UInt32.toNat_add]
    change (c.val.toNat + 32) % 4294967296 = c.val.toNat + 32
    omega
  · have hlower : c.toLower = c := dif_neg fun hc' => hc (h.mp hc')
    rw [if_neg hc, hlower]

/-- **An uncased character is the lower case of itself only.** -/
theorem lowerChar_eq_iff {x : Char} (hx : isUncased x.toNat = true) (c : Char) :
    lowerChar c = x ↔ c = x := by
  simp only [isUncased, areUncased, Bool.and_eq_true, List.all_eq_true, bne_iff_ne] at hx
  obtain ⟨⟨hzero, hruns⟩, hexp⟩ := hx
  rw [lowerChar, lowerOf]
  split
  · -- ASCII: the run of the capitals misses `x` as well.
    have hmiss := hruns ⟨0x41, 0x5A, 1, 32⟩ List.mem_cons_self
    simp only [CaseRun.misses, areApart, Bool.and_eq_true, Bool.or_eq_true, Nat.blt_eq] at hmiss
    rw [List.headD_cons, ← Char.toNat_inj, ← Char.toNat_inj, toNat_toLower]
    split <;> omega
  · rw [mapCase]
    split
    · rename_i image himage
      have hmem : (c.toNat, image) ∈ lowerExpansions := by
        obtain ⟨l₁, l₂, h, -⟩ := List.lookup_eq_some_iff.mp himage
        exact h ▸ List.mem_append_right l₁ (List.mem_cons_self ..)
      have hapart := hexp _ hmem
      simp only [areApart, Bool.or_eq_true, Nat.blt_eq] at hapart
      have hc : c ≠ x := by
        rintro rfl
        omega
      cases image with
      | nil => exact Iff.rfl
      | cons i _ =>
        rw [List.map_cons, List.headD_cons, ofNat_eq_iff hzero]
        rw [List.headD_cons] at hapart
        exact iff_of_false (by omega) hc
    · rw [List.headD_cons, ofNat_eq_iff hzero, shiftBy_eq_iff hruns, Char.toNat_inj]

/-! ## Blanks and marks -/

/-- The blanks, as intervals of code points. -/
def blankIntervals : List (Nat × Nat) :=
  [(9, 13), (28, 32), (0x85, 0x85), (0xA0, 0xA0), (0x1680, 0x1680), (0x2000, 0x200A), (0x2028, 0x2029),
    (0x202F, 0x202F), (0x205F, 0x205F), (0x3000, 0x3000)]

theorem exists_blankInterval {c : Char} (h : isBlank c = true) :
    ∃ interval ∈ blankIntervals, interval.1 ≤ c.toNat ∧ c.toNat ≤ interval.2 := by
  simp only [isBlank, Bool.or_eq_true, Bool.and_eq_true, decide_eq_true_eq, beq_iff_eq] at h
  simp only [blankIntervals, List.mem_cons, List.not_mem_nil, or_false, exists_eq_or_imp, exists_eq_left]
  omega

/-- Blanks are uncased. -/
theorem isUncased_of_isBlank {c : Char} (h : isBlank c = true) : isUncased c.toNat = true := by
  have hall : blankIntervals.all (fun interval => areUncased interval.1 interval.2) = true := by
    decide +kernel
  obtain ⟨interval, hinterval, hfirst, hlast⟩ := exists_blankInterval h
  exact isUncased_of_areUncased (List.all_eq_true.mp hall interval hinterval) hfirst hlast

/-- **Lower case neither makes nor unmakes a blank.** -/
theorem isBlank_lowerChar (c : Char) : isBlank (lowerChar c) = isBlank c := by
  by_cases h : isBlank c = true
  · rw [(lowerChar_eq_iff (isUncased_of_isBlank h) c).mpr rfl]
  · by_cases h' : isBlank (lowerChar c) = true
    · rw [← (lowerChar_eq_iff (isUncased_of_isBlank h') c).mp rfl]
    · rw [Bool.eq_false_iff.mpr h, Bool.eq_false_iff.mpr h']

/-- The single quote is equal regardless of case to itself only. -/
theorem sameFold_quote (c : Char) : sameFold '\'' c = (c == '\'') := by
  have h : foldClass '\'' = ['\''] := rfl
  rw [sameFold, h, Bool.eq_iff_iff]
  simpa using lowerChar_eq_iff (show isUncased '\''.toNat = true from rfl) c

/-- The equals sign is equal regardless of case to itself only. -/
theorem sameFold_equals (c : Char) : sameFold '=' c = (c == '=') := by
  have h : foldClass '=' = ['='] := rfl
  rw [sameFold, h, Bool.eq_iff_iff]
  simpa using lowerChar_eq_iff (show isUncased '='.toNat = true from rfl) c

end AuditTrail.Text
