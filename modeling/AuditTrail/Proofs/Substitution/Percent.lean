import Mathlib.Algebra.GroupWithZero.Nat
import AuditTrail.Proofs.Outcome
import AuditTrail.Proofs.Substitution.Template

/-!
# Proofs/Substitution/Percent — what becomes of percent signs

    %%        two in the template, one in the text
    %…s       one in the template, and those of the argument at most in the text
    other     no percent sign

A template that can be filled has its percent signs in these places only (`count_scan`), so the text has
at most one for every two that do not begin a conversion (`fill_eq_ok`).  A template that gives the texts
around its fields as they are has at least two percent signs for each of theirs (`count_of_interleaved`).
-/

namespace AuditTrail.Substitution

open AuditTrail.Text

/-! ## Scanning -/

/-- One for a percent sign. -/
def mark (c : Char) : Nat := if c = '%' then 1 else 0

theorem count_cons (c : Char) (text : List Char) : (c :: text).count '%' = mark c + text.count '%' := by
  rw [List.count_cons, Nat.add_comm, mark]
  simp only [beq_iff_eq]

/-- The percent signs that a piece takes from the template. -/
def Piece.taken : Piece → Nat
  | plain c => 2 * mark c
  | conversion _ _ _ => 1
  | _ => 0

/-- The piece can be filled, as far as its percent signs are concerned. -/
def Piece.IsSound : Piece → Prop
  | plain _ => True
  | conversion _ letter _ => letter ≠ '%'
  | _ => False

/-- The percent signs of the piece that is being read. -/
def Phase.taken : Phase → Nat
  | text => 0
  | _ => 1

/-- **No percent sign is lost** by a character that is read. -/
def Step.Balanced (taken : Nat) (c : Char) : Step → Prop
  | go phase => phase.taken = taken + mark c
  | give piece => piece.IsSound → piece.taken = taken + mark c
  | stop piece => ¬ piece.IsSound

theorem mark_of_ne {c : Char} (h : c ≠ '%') : mark c = 0 := if_neg h

/-- What passes a test that the percent sign fails is no percent sign. -/
theorem mark_of_test {test : Char → Bool} {c : Char} (hpercent : test '%' = false)
    (h : test c = true) : mark c = 0 := by
  refine mark_of_ne ?_
  rintro rfl
  exact Bool.false_ne_true (hpercent.symm.trans h)

theorem mark_of_digit? {c : Char} {d : Nat} (h : digit? c = some d) : mark c = 0 := by
  refine mark_of_ne ?_
  rintro rfl
  cases h

/-- A conversion that goes on has taken its percent sign. -/
theorem balanced_go {phase : Phase} {c : Char} (hphase : phase.taken = 1) (hc : mark c = 0) :
    (Step.go phase).Balanced 1 c := by
  change phase.taken = 1 + mark c
  rw [hphase, hc]

/-- A conversion that is complete has taken its percent sign. -/
theorem balanced_give (layout : Layout) (index : Nat) (c : Char) :
    (Step.give (.conversion layout c index)).Balanced 1 c :=
  fun hletter => (congrArg (1 + ·) (mark_of_ne hletter)).symm

theorem balanced_afterLayout (layout : Layout) (index : Nat) (c : Char) :
    (afterLayout layout index c).Balanced 1 c := by
  unfold afterLayout
  split
  case isTrue hsize => exact balanced_go rfl (mark_of_test rfl hsize)
  case isFalse => exact balanced_give layout index c

theorem balanced_afterWidth (left : Bool) (width index : Nat) (c : Char) :
    (afterWidth left width index c).Balanced 1 c := by
  unfold afterWidth
  split
  case isTrue hpoint => exact balanced_go rfl (hpoint ▸ rfl)
  case isFalse => exact balanced_afterLayout _ index c

theorem balanced_afterFlags (left : Bool) (index : Nat) (c : Char) :
    (afterFlags left index c).Balanced 1 c := by
  unfold afterFlags
  split
  case isTrue hflag => exact balanced_go rfl (mark_of_test rfl hflag)
  split
  case isTrue => exact id
  split
  case h_1 d hdigit => exact balanced_go rfl (mark_of_digit? hdigit)
  case h_2 => exact balanced_afterWidth left 0 index c

/-- **Every character is balanced.** -/
theorem balanced_step (phase : Phase) (index : Nat) (c : Char) :
    (phase.step index c).Balanced phase.taken c := by
  cases phase with
  | text =>
    rw [Phase.step]
    split
    case isTrue hpercent =>
      subst hpercent
      rfl
    case isFalse hother =>
      intro _
      rw [Piece.taken, mark_of_ne hother]
      rfl
  | percent =>
    rw [Phase.step]
    split
    case isTrue hpercent =>
      subst hpercent
      exact fun _ => rfl
    split
    case isTrue => exact id
    exact balanced_afterFlags false index c
  | flags left => exact balanced_afterFlags left index c
  | width left w =>
    rw [Phase.step]
    split
    case h_1 d hdigit =>
      split
      · exact id
      · exact balanced_go rfl (mark_of_digit? hdigit)
    case h_2 => exact balanced_afterWidth left w index c
  | point left w =>
    rw [Phase.step]
    split
    case isTrue => exact id
    split
    case h_1 d hdigit => exact balanced_go rfl (mark_of_digit? hdigit)
    case h_2 => exact balanced_afterLayout _ index c
  | precision left w p =>
    rw [Phase.step]
    split
    case h_1 d hdigit =>
      split
      · exact id
      · exact balanced_go rfl (mark_of_digit? hdigit)
    case h_2 => exact balanced_afterLayout _ index c
  | sized layout => exact balanced_give layout index c

/-- **A template whose pieces are sound** has its percent signs in them. -/
theorem count_scan {phase : Phase} {index : Nat} {template : List Char}
    (h : ∀ piece ∈ scan phase index template, piece.IsSound) :
    phase.taken + template.count '%' = ((scan phase index template).map Piece.taken).sum := by
  induction template generalizing phase index with
  | nil =>
    cases phase with
    | text => rfl
    | _ => exact absurd (h _ (List.mem_singleton_self _)) id
  | cons c rest ih =>
    have hbalanced := balanced_step phase index c
    rw [count_cons, ← Nat.add_assoc]
    rw [scan] at h ⊢
    rcases hstep : phase.step index c with next | piece | piece <;>
      rw [hstep] at h hbalanced <;> dsimp only at h ⊢
    · rw [← ih h, ← hbalanced]
    · obtain ⟨hpiece, hrest⟩ := List.forall_mem_cons.mp h
      rw [List.map_cons, List.sum_cons, ← ih hrest, hbalanced hpiece]
      exact congrArg (phase.taken + mark c + ·) (Nat.zero_add _).symm
    · exact absurd (h piece (List.mem_singleton_self piece)) hbalanced

/-! ## Converted arguments -/

theorem count_flatMap_le {f : Char → List Char} (h : ∀ c, (f c).count '%' ≤ mark c) (text : List Char) :
    (text.flatMap f).count '%' ≤ text.count '%' := by
  induction text with
  | nil => exact Nat.le_refl 0
  | cons c text ih =>
    rw [List.flatMap_cons, List.count_append, count_cons]
    exact Nat.add_le_add (h c) ih

theorem not_mem_hexDigits (width n : Nat) : '%' ∉ hexDigits width n := by
  have hdigit : ∀ digit < 16, '%' ≠ hexDigit digit := by decide
  induction width generalizing n with
  | zero => exact List.not_mem_nil
  | succ width ih =>
    rw [hexDigits, List.mem_append, List.mem_singleton]
    rintro (h | h)
    · exact ih _ h
    · exact hdigit _ (Nat.mod_lt n (by decide)) h

theorem not_mem_codeEscape (c : Char) : '%' ∉ codeEscape c := by
  unfold codeEscape
  dsimp only
  split
  · simp [not_mem_hexDigits]
  · split <;> simp [not_mem_hexDigits]

theorem count_quotedChar_le (ascii : Bool) (quotes c : Char) :
    (quotedChar ascii quotes c).count '%' ≤ mark c := by
  have hone (d : Char) : List.count '%' ['\\', d] = mark d := count_cons d []
  unfold quotedChar
  split
  · exact Nat.le_of_eq (hone c)
  split
  · exact Nat.zero_le _
  split
  · exact Nat.zero_le _
  split
  · exact Nat.zero_le _
  split
  · exact Nat.le_of_eq (count_cons c [])
  · rw [List.count_eq_zero.mpr (not_mem_codeEscape c)]
    exact Nat.zero_le _

/-- **Quoting** adds no percent sign. -/
theorem count_quoteWith_le (ascii : Bool) (text : List Char) :
    (quoteWith ascii text).count '%' ≤ text.count '%' := by
  have hmark : mark (quoteMark text) = 0 := by
    unfold quoteMark
    split <;> rfl
  unfold quoteWith
  dsimp only
  rw [List.cons_append, count_cons, hmark, Nat.zero_add, List.count_append, count_cons, hmark]
  exact count_flatMap_le (count_quotedChar_le ascii _) text

theorem count_pad (layout : Layout) (text : List Char) : (layout.pad text).count '%' = text.count '%' := by
  have hblanks (n : Nat) : (List.replicate n ' ').count '%' = 0 :=
    List.count_eq_zero.mpr fun h => absurd (List.eq_of_mem_replicate h) (by decide)
  unfold Layout.pad
  dsimp only
  split
  · rw [List.count_append, hblanks, Nat.add_zero]
  · rw [List.count_append, hblanks, Nat.zero_add]

theorem count_cut_le (layout : Layout) (text : List Char) :
    (layout.cut text).count '%' ≤ text.count '%' := by
  unfold Layout.cut
  split
  · exact (List.take_sublist _ text).count_le '%'
  · exact Nat.le_refl _

/-- **A converted argument** has no more percent signs than the argument. -/
theorem convert_eq_ok {layout : Layout} {letter : Char} {index : Nat} {argument text : List Char}
    (h : convert layout letter index argument = .ok text) :
    letter ≠ '%' ∧ text.count '%' ≤ argument.count '%' := by
  have hcut (text : List Char) : (layout.pad (layout.cut text)).count '%' ≤ text.count '%' :=
    Nat.le_trans (Nat.le_of_eq (count_pad layout _)) (count_cut_le layout text)
  unfold convert at h
  split at h
  case isTrue hletter =>
    obtain rfl := Except.ok.inj h
    exact ⟨hletter ▸ by decide, hcut argument⟩
  split at h
  case isTrue hletter =>
    obtain rfl := Except.ok.inj h
    exact ⟨hletter ▸ by decide, Nat.le_trans (hcut _) (count_quoteWith_le false argument)⟩
  split at h
  case isTrue hletter =>
    obtain rfl := Except.ok.inj h
    exact ⟨hletter ▸ by decide, Nat.le_trans (hcut _) (count_quoteWith_le true argument)⟩
  split at h
  case isTrue hletter =>
    split at h
    · obtain rfl := Except.ok.inj h
      exact ⟨hletter ▸ by decide, Nat.le_of_eq (count_pad layout _)⟩
    · cases h
  -- What remains are the conversions of numbers, and those that do not exist.
  split at h
  · cases h
  split at h
  · cases h
  split at h <;> cases h

/-! ## Filling -/

/-- The percent signs of some texts. -/
def countAll (texts : List (List Char)) : Nat := (texts.map (List.count '%')).sum

/-- **A template that can be filled** has sound pieces: two percent signs for each one that they put into
the text, and one for each argument. -/
theorem fill_eq_ok {pieces : List Piece} {arguments : List (List Char)} {text : List Char}
    (h : fill pieces arguments = .ok text) : (∀ piece ∈ pieces, piece.IsSound) ∧
      ∃ doubled, (pieces.map Piece.taken).sum = 2 * doubled + arguments.length ∧
        text.count '%' ≤ doubled + countAll arguments := by
  induction pieces generalizing arguments text with
  | nil =>
    cases arguments with
    | nil =>
      obtain rfl := Except.ok.inj h
      exact ⟨nofun, 0, rfl, Nat.le_refl 0⟩
    | cons a arguments => cases h
  | cons piece rest ih =>
    cases piece with
    | broken misfit => cases h
    | star => cases arguments <;> cases h
    | plain c =>
      obtain ⟨filled, hfilled, rfl⟩ := map_eq_ok_iff.mp (by rw [fill] at h; exact h)
      obtain ⟨hsound, doubled, htaken, hcount⟩ := ih hfilled
      refine ⟨List.forall_mem_cons.mpr ⟨trivial, hsound⟩, mark c + doubled, ?_, ?_⟩
      · rw [List.map_cons, List.sum_cons, htaken, Piece.taken]
        omega
      · rw [count_cons]
        omega
    | conversion layout letter index =>
      cases arguments with
      | nil => cases h
      | cons a arguments =>
        rw [fill] at h
        obtain ⟨converted, hconvert, h⟩ := bind_eq_ok_iff.mp h
        obtain ⟨filled, hfilled, h⟩ := bind_eq_ok_iff.mp h
        obtain rfl := Except.ok.inj h
        obtain ⟨hletter, hconverted⟩ := convert_eq_ok hconvert
        obtain ⟨hsound, doubled, htaken, hcount⟩ := ih hfilled
        refine ⟨List.forall_mem_cons.mpr ⟨hletter, hsound⟩, doubled, ?_, ?_⟩
        · rw [List.map_cons, List.sum_cons, htaken, Piece.taken, List.length_cons]
          omega
        · rw [List.count_append]
          simp only [countAll, List.map_cons, List.sum_cons] at hcount ⊢
          omega

/-! ## Texts around the fields -/

theorem count_interleaved {head : List Char} {tail arguments : List (List Char)}
    (h : arguments.length = tail.length) : (interleaved head tail arguments).count '%'
      = head.count '%' + countAll tail + countAll arguments := by
  induction tail generalizing head arguments with
  | nil =>
    obtain rfl := List.length_eq_zero_iff.mp h
    simp [interleaved, countAll]
  | cons next tail ih =>
    cases arguments with
    | nil => cases h
    | cons a arguments =>
      have hmoved : interleaved head (next :: tail) (a :: arguments)
          = interleaved (head ++ a ++ next) tail arguments := by
        simp [interleaved]
      rw [hmoved, ih (Nat.succ.inj h), List.count_append, List.count_append]
      simp only [countAll, List.map_cons, List.sum_cons]
      omega

/-- **A template that gives the texts as they are** with its arguments between them has at least two percent
signs for each one of the texts, and one for each argument. -/
theorem count_of_interleaved {template head : List Char} {tail arguments : List (List Char)}
    (hlength : arguments.length = tail.length)
    (h : substituteChars template arguments = .ok (interleaved head tail arguments)) :
    2 * (head.count '%' + countAll tail) + tail.length ≤ template.count '%' := by
  obtain ⟨hsound, doubled, htaken, hcount⟩ := fill_eq_ok h
  have hscan := count_scan hsound
  rw [count_interleaved hlength] at hcount
  rw [htaken, Phase.taken, Nat.zero_add] at hscan
  omega

end AuditTrail.Substitution
