import Mathlib.Data.List.Forall2
import AuditTrail.Proofs.Text.Uncased

/-!
# Proofs/Text/Letters — which characters an ASCII letter is the case of

    lower case   K ↦ k                        A ↦ a   and so on
    upper case   ſ ↦ S   ı ↦ I                a ↦ A   and so on

Beyond ASCII three characters have an ASCII letter as their lower or upper case: the runs of the two tables
map no other code point from 128 on below it (`shiftBy_of_strays`).  So where each character of a text is
mapped to one letter of a word, it is that letter in either case or one of the three (`lowerOf_eq_iff`,
`upperOf_eq_iff`).
-/

namespace AuditTrail.Text

/-- The Kelvin sign, which has the lower case `k`. -/
def kelvinSign : Char := '\u212A'

/-- The long s, which has the upper case `S`. -/
def longS : Char := '\u017F'

/-- The i without a dot, which has the upper case `I`. -/
def dotlessI : Char := '\u0131'

/-! ## Into ASCII from beyond -/

/-- The run maps no code point from 128 on below it. -/
def CaseRun.staysOut (run : CaseRun) : Bool := run.last < 128 || 128 ≤ run.first + run.shift

/-- The run maps one code point, to another one as listed. -/
def CaseRun.isAmong (strays : List (Nat × Nat)) (run : CaseRun) : Bool :=
  run.first == run.last && strays.contains (run.first, (run.first + run.shift).toNat)

/-- **A table maps into ASCII from beyond** only as listed. -/
theorem shiftBy_of_strays {runs : List CaseRun} {strays : List (Nat × Nat)}
    (h : runs.all (fun run => run.staysOut || run.isAmong strays) = true) {n : Nat} (hn : 128 ≤ n)
    (himage : shiftBy runs n < 128) : (n, shiftBy runs n) ∈ strays := by
  rw [shiftBy] at himage ⊢
  split at himage
  case h_1 run hrun =>
    have hcovers := List.find?_some hrun
    simp only [CaseRun.covers, Bool.and_eq_true, decide_eq_true_eq] at hcovers
    have hrun := List.all_eq_true.mp h run (List.mem_of_find?_eq_some hrun)
    rcases Bool.or_eq_true_iff.mp hrun with hout | hamong
    · simp only [CaseRun.staysOut, Bool.or_eq_true, decide_eq_true_eq] at hout
      omega
    · simp only [CaseRun.isAmong, Bool.and_eq_true, beq_iff_eq, List.contains_iff_mem] at hamong
      obtain rfl : n = run.first := by omega
      exact hamong.2
  case h_2 => omega

/-- **Characters whose case is an ASCII one**: the ASCII ones themselves, and those listed. -/
theorem mapCase_eq_singleton {expansions : List (Nat × List Nat)} {runs : List CaseRun}
    {strays : List (Nat × Nat)} (hexpansions : expansions.all (fun entry => entry.2.length != 1) = true)
    (hruns : runs.all (fun run => run.staysOut || run.isAmong strays) = true) {c x : Char}
    (hc : 128 ≤ c.toNat) (hx : x.toNat ≠ 0) (hascii : x.toNat < 128)
    (h : mapCase expansions runs c = [x]) : (c.toNat, x.toNat) ∈ strays := by
  rw [mapCase] at h
  split at h
  case h_1 image himage =>
    obtain ⟨front, back, hsplit, -⟩ := List.lookup_eq_some_iff.mp himage
    have hmem : (c.toNat, image) ∈ expansions := hsplit ▸ List.mem_append_right front List.mem_cons_self
    have hlength := congrArg List.length h
    rw [List.length_map, List.length_singleton] at hlength
    exact absurd hlength (bne_iff_ne.mp (List.all_eq_true.mp hexpansions _ hmem))
  case h_2 =>
    have himage := (ofNat_eq_iff hx _).mp (List.singleton_inj.mp h)
    rw [← himage]
    exact shiftBy_of_strays hruns hc (himage ▸ hascii)

/-- Lower case of ASCII stays there, and so does all else. -/
theorem toNat_toLower_lt_iff (c : Char) : c.toLower.toNat < 128 ↔ c.toNat < 128 := by
  rw [toNat_toLower]
  split <;> omega

/-- Upper case of ASCII, by code points. -/
theorem toNat_toUpper (c : Char) :
    c.toUpper.toNat = if 97 ≤ c.toNat ∧ c.toNat ≤ 122 then c.toNat - 32 else c.toNat := by
  have h : (c.val ≥ 'a'.val ∧ c.val ≤ 'z'.val) ↔ (97 ≤ c.toNat ∧ c.toNat ≤ 122) := by
    simp only [ge_iff_le, UInt32.le_iff_toNat_le]
    exact Iff.rfl
  by_cases hc : 97 ≤ c.toNat ∧ c.toNat ≤ 122
  · have hupper : c.toUpper.toNat = (c.val + ('A'.val - 'a'.val)).toNat := by
      have hcase : c.toUpper = _ := dif_pos (h.mpr hc)
      rw [hcase]
      rfl
    have hshift : ('A'.val - 'a'.val).toNat = 4294967264 := rfl
    have hcode : c.val.toNat = c.toNat := rfl
    rw [if_pos hc, hupper, UInt32.toNat_add, hshift, hcode]
    omega
  · have hupper : c.toUpper = c := dif_neg fun hc' => hc (h.mp hc')
    rw [if_neg hc, hupper]

/-- Upper case of ASCII stays there, and so does all else. -/
theorem toNat_toUpper_lt_iff (c : Char) : c.toUpper.toNat < 128 ↔ c.toNat < 128 := by
  rw [toNat_toUpper]
  split <;> omega

variable {c x : Char}

/-- **Which characters have an ASCII one as their lower case.** -/
theorem lowerOf_eq_iff (hx : x.toNat ≠ 0) (hascii : x.toNat < 128) :
    lowerOf c = [x] ↔ c.toLower = x ∨ c = kelvinSign ∧ x = 'k' := by
  rw [lowerOf]
  split
  case isTrue hc =>
    rw [List.singleton_inj]
    refine (or_iff_left ?_).symm
    rintro ⟨rfl, -⟩
    exact absurd hc (by decide)
  case isFalse hc =>
    have hlower : c.toLower ≠ x := by
      rintro rfl
      exact hc ((toNat_toLower_lt_iff c).mp hascii)
    rw [or_iff_right hlower]
    constructor
    · intro h
      have hstray : (c.toNat, x.toNat) ∈ [(0x212A, 0x6B)] :=
        mapCase_eq_singleton rfl (by decide +kernel) (Nat.le_of_not_lt hc) hx hascii h
      obtain ⟨hsource, himage⟩ := Prod.mk.inj (List.mem_singleton.mp hstray)
      exact ⟨Char.toNat_inj.mp hsource, Char.toNat_inj.mp himage⟩
    · rintro ⟨rfl, rfl⟩
      rfl

/-- **Which characters have an ASCII one as their upper case.** -/
theorem upperOf_eq_iff (hx : x.toNat ≠ 0) (hascii : x.toNat < 128) :
    upperOf c = [x] ↔ c.toUpper = x ∨ c = dotlessI ∧ x = 'I' ∨ c = longS ∧ x = 'S' := by
  rw [upperOf]
  split
  case isTrue hc =>
    rw [List.singleton_inj]
    refine (or_iff_left ?_).symm
    rintro (⟨rfl, -⟩ | ⟨rfl, -⟩)
    · exact absurd hc (by decide)
    · exact absurd hc (by decide)
  case isFalse hc =>
    have hupper : c.toUpper ≠ x := by
      rintro rfl
      exact hc ((toNat_toUpper_lt_iff c).mp hascii)
    rw [or_iff_right hupper]
    constructor
    · intro h
      have hstray : (c.toNat, x.toNat) ∈ [(0x131, 0x49), (0x17F, 0x53)] :=
        mapCase_eq_singleton rfl (by decide +kernel) (Nat.le_of_not_lt hc) hx hascii h
      rcases List.mem_cons.mp hstray with hdotless | hlong
      · obtain ⟨hsource, himage⟩ := Prod.mk.inj hdotless
        exact .inl ⟨Char.toNat_inj.mp hsource, Char.toNat_inj.mp himage⟩
      · obtain ⟨hsource, himage⟩ := Prod.mk.inj (List.mem_singleton.mp hlong)
        exact .inr ⟨Char.toNat_inj.mp hsource, Char.toNat_inj.mp himage⟩
    · rintro (⟨rfl, rfl⟩ | ⟨rfl, rfl⟩)
      · rfl
      · rfl

/-! ## Characters that are mapped to one character -/

/-- The capital i with a dot, which alone has a lower case of two characters. -/
def dottedI : Char := '\u0130'

theorem lowerOf_dottedI : lowerOf dottedI = ['i', '\u0307'] := rfl

/-- **Every other character has a lower case of one character.** -/
theorem lowerOf_eq_singleton (h : c ≠ dottedI) : lowerOf c = [lowerChar c] := by
  rw [lowerChar, lowerOf]
  split
  case isTrue => rfl
  case isFalse =>
    have hcode : c.toNat ≠ 0x130 := fun heq => h (Char.toNat_inj.mp heq)
    have hlookup : lowerExpansions.lookup c.toNat = none := by
      rw [lowerExpansions, List.lookup_cons, beq_false_of_ne hcode]
      rfl
    rw [mapCase, hlookup]
    rfl

/-- A character has an upper case of one character, or it is one of those listed with several. -/
theorem upperOf_cases (c : Char) :
    (∃ image, upperOf c = [image]) ∨ ∃ entry ∈ upperExpansions, upperOf c = entry.2.map Char.ofNat := by
  rw [upperOf, mapCase]
  split
  case isTrue => exact .inl ⟨_, rfl⟩
  case isFalse =>
    split
    case h_1 image himage =>
      obtain ⟨front, back, hsplit, -⟩ := List.lookup_eq_some_iff.mp himage
      exact .inr ⟨_, hsplit ▸ List.mem_append_right front List.mem_cons_self, rfl⟩
    case h_2 => exact .inl ⟨_, rfl⟩

/-- The upper case of an ASCII lower case is the capital of it. -/
theorem toUpper_toLower_eq_iff (hx : 65 ≤ x.toNat ∧ x.toNat ≤ 90) :
    c.toLower.toUpper = x ↔ c.toLower = x.toLower := by
  rw [← Char.toNat_inj, ← Char.toNat_inj, toNat_toUpper, toNat_toLower, toNat_toLower x, if_pos hx]
  split <;> split <;> omega

/-- **Which characters have a capital of ASCII as the upper case of their lower case.** -/
theorem upperOf_lowerChar_eq_iff (hc : c ≠ dottedI) (hx : 65 ≤ x.toNat ∧ x.toNat ≤ 90) :
    upperOf (lowerChar c) = [x] ↔
      c.toLower = x.toLower ∨ c = kelvinSign ∧ x = 'K' ∨ c = dotlessI ∧ x = 'I' ∨ c = longS ∧ x = 'S' := by
  rw [upperOf_eq_iff (by omega) (by omega), lowerChar_eq_iff (show isUncased dotlessI.toNat = true from rfl),
    lowerChar_eq_iff (show isUncased longS.toNat = true from rfl)]
  refine Iff.trans (or_congr_left ?_) or_assoc
  by_cases hascii : c.toNat < 128
  case pos =>
    have hlower : lowerChar c = c.toLower := by rw [lowerChar, lowerOf, if_pos hascii, List.headD_cons]
    rw [hlower, toUpper_toLower_eq_iff hx, or_iff_left]
    rintro ⟨rfl, -⟩
    exact absurd hascii (by decide)
  case neg =>
    have hother : c.toLower ≠ x.toLower := by
      intro heq
      refine hascii ((toNat_toLower_lt_iff c).mp ?_)
      rw [heq, toNat_toLower_lt_iff]
      omega
    rw [or_iff_right hother]
    constructor
    · intro hupper
      have hlow : (lowerChar c).toNat < 128 := by
        rw [← toNat_toUpper_lt_iff, hupper]
        omega
      have hpos : (lowerChar c).toNat ≠ 0 := by
        intro hzero
        have hcode := toNat_toUpper (lowerChar c)
        rw [hupper, hzero, if_neg (by decide)] at hcode
        omega
      rcases (lowerOf_eq_iff hpos hlow).mp (lowerOf_eq_singleton hc) with hlower | ⟨hkelvin, hk⟩
      · exact absurd ((toNat_toLower_lt_iff c).mp (hlower ▸ hlow)) hascii
      · rw [hk] at hupper
        exact ⟨hkelvin, hupper.symm⟩
    · rintro ⟨rfl, rfl⟩
      rfl

/-! ## Texts of which each character is mapped to one -/

section Texts

variable {α β : Type} {f : α → List β} {R S : α → β → Prop} {cs : List α} {ys : List β}

theorem flatMap_eq_of_forall₂ (h : List.Forall₂ (fun c y => f c = [y]) cs ys) : cs.flatMap f = ys := by
  induction h with
  | nil => rfl
  | cons hy _ ih => rw [List.flatMap_cons, hy, ih, List.singleton_append]

/-- **A text is mapped character by character** where each character is mapped to one. -/
theorem flatMap_eq_iff_forall₂ (h : cs.flatMap f = ys → ∀ c ∈ cs, ∃ y, f c = [y]) :
    cs.flatMap f = ys ↔ List.Forall₂ (fun c y => f c = [y]) cs ys := by
  refine ⟨fun heq => ?_, flatMap_eq_of_forall₂⟩
  have hone := h heq
  clear h
  induction cs generalizing ys with
  | nil => rw [← heq, List.flatMap_nil]; exact .nil
  | cons c rest ih =>
    obtain ⟨⟨y, hy⟩, hrest⟩ := List.forall_mem_cons.mp hone
    rw [← heq, List.flatMap_cons, hy]
    exact .cons hy (ih rfl hrest)

/-- Two texts are mapped to one when their characters are. -/
theorem map_eq_map_iff_forall₂ {γ : Type} {g : α → γ} {k : β → γ} :
    cs.map g = ys.map k ↔ List.Forall₂ (fun c y => g c = k y) cs ys := by
  rw [← List.forall₂_eq_eq_eq, List.forall₂_map_left_iff, List.forall₂_map_right_iff]

/-- Each member of a list has a counterpart. -/
theorem exists_mem_of_forall₂ (h : List.Forall₂ R cs ys) : ∀ c ∈ cs, ∃ y ∈ ys, R c y := by
  induction h with
  | nil => exact nofun
  | cons hhead _ ih =>
    refine List.forall_mem_cons.mpr ⟨⟨_, List.mem_cons_self, hhead⟩, fun c hc => ?_⟩
    obtain ⟨y, hy, hrel⟩ := ih c hc
    exact ⟨y, List.mem_cons_of_mem _ hy, hrel⟩

/-- Relations that agree on the members of two lists agree on the lists. -/
theorem forall₂_congr_of_mem (h : ∀ c ∈ cs, ∀ y ∈ ys, (R c y ↔ S c y)) :
    List.Forall₂ R cs ys ↔ List.Forall₂ S cs ys := by
  rw [List.forall₂_iff_zip, List.forall₂_iff_zip]
  refine and_congr_right fun _ => forall₂_congr fun c y => forall_congr' fun hmem => ?_
  exact h c (List.of_mem_zip hmem).1 y (List.of_mem_zip hmem).2

end Texts

section Lower

variable {cs before : List Char} {c d : Char}

theorem mem_lowerFrom (h : d ∈ lowerFrom before cs) : ∃ c ∈ cs, d ∈ lowerOf c ∨ c = 'Σ' ∧ d = 'ς' := by
  induction cs generalizing before with
  | nil => cases h
  | cons c rest ih =>
    rw [lowerFrom, List.mem_append] at h
    rcases h with hfirst | hrest
    · refine ⟨c, List.mem_cons_self, ?_⟩
      split at hfirst
      case isTrue hsigma => exact .inr ⟨hsigma.1, List.mem_singleton.mp hfirst⟩
      case isFalse => exact .inl hfirst
    · obtain ⟨c, hc, hd⟩ := ih hrest
      exact ⟨c, List.mem_cons_of_mem _ hc, hd⟩

/-- A character leaves its lower case in that of a text, or the sigma at the end of a word its own. -/
theorem exists_mem_lowerFrom (before : List Char) (h : c ∈ cs) :
    (∀ d ∈ lowerOf c, d ∈ lowerFrom before cs) ∨ c = 'Σ' ∧ 'ς' ∈ lowerFrom before cs := by
  induction cs generalizing before with
  | nil => cases h
  | cons first rest ih =>
    rw [lowerFrom]
    rcases List.mem_cons.mp h with rfl | hrest
    · split
      case isTrue hsigma => exact .inr ⟨hsigma.1, List.mem_append_left _ (List.mem_singleton.mpr rfl)⟩
      case isFalse => exact .inl fun d hd => List.mem_append_left _ hd
    · rcases ih (first :: before) hrest with hall | ⟨hsigma, hfinal⟩
      · exact .inl fun d hd => List.mem_append_right _ (hall d hd)
      · exact .inr ⟨hsigma, List.mem_append_right _ hfinal⟩

/-- **A text without the dotted capital i and without a sigma** is put in lower case character by
character. -/
theorem lower_eq_map (hdotted : dottedI ∉ cs) (hsigma : 'Σ' ∉ cs) : lower cs = cs.map lowerChar := by
  unfold lower
  generalize ([] : List Char) = before
  induction cs generalizing before with
  | nil => rfl
  | cons c rest ih =>
    rw [List.mem_cons, not_or] at hdotted hsigma
    rw [lowerFrom, if_neg fun h => hsigma.1 h.1.symm, lowerOf_eq_singleton (Ne.symm hdotted.1),
      List.map_cons, ih hdotted.2 hsigma.2]
    rfl

end Lower

end AuditTrail.Text
